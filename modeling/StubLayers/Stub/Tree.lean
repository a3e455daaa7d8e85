import StubLayers.Source.Span

/-!
The tree of a stub text: expressions as trees of tokens, statements by what they may declare.
Comments and line joins (a backslash before the end of the line) are kept where they stand, since
they take part in what a body, a parameter list or a target declares.
-/

namespace StubLayers

/-- What a single token of an expression is. -/
inductive Leaf where
  | name
  | integer
  | float
  | truth
  | falsity
  | absence
  | ellipsis
  | comment
  | lineJoin
  /-- A keyword, an operator or a bracket. -/
  | mark
deriving DecidableEq, Inhabited

/-- What a composed expression is. -/
inductive Form where
  | await
  | binary
  | unary
  | negation
  | boolean
  | comparison
  | lambda
  | conditional
  | named
  | asPattern
  | member
  | subscript
  | slice
  | call
  | arguments
  | keywordArgument
  | list
  | set
  | dictionary
  | pair
  | tuple
  | parenthesized
  | listComprehension
  | setComprehension
  | dictionaryComprehension
  | generator
  | forClause
  | ifClause
  | listSplat
  | dictionarySplat
  | yield
  | strings
  | expressionList
  | patternList
  | tuplePattern
  | listPattern
  | listSplatPattern
  | augmented
  | type
  | typeParameters
deriving DecidableEq, Inhabited

inductive Expr where
  | leaf (kind : Leaf) (span : Span) (text : String)
  /-- A string literal, with the expressions interpolated in it. -/
  | literal (span : Span) (text : String) (parts : List Expr)
  | form (kind : Form) (span : Span) (children : List Expr)
deriving Inhabited

namespace Expr

def span : Expr → Span
  | leaf _ s _ => s
  | literal s _ _ => s
  | form _ s _ => s

/-- An expression composed of `children`, spanning from the first to the last of them. -/
def ofChildren (kind : Form) (children : List Expr) : Expr :=
  match children.head?, children.getLast? with
  | some a, some b => form kind (a.span.through b.span) children
  | _, _ => form kind default children

/-- Comments and line joins stand between tokens and belong to no rule. -/
def isExtra : Expr → Bool
  | leaf .comment _ _ => true
  | leaf .lineJoin _ _ => true
  | _ => false

end Expr

namespace Leaf

/-- The word by which a message names the token. -/
def label : Leaf → String
  | name => "identifier"
  | integer => "integer"
  | float => "float"
  | truth => "true"
  | falsity => "false"
  | absence => "none"
  | ellipsis => "ellipsis"
  | comment => "comment"
  | lineJoin => "line_continuation"
  | mark => "operator"

end Leaf

namespace Form

/-- The word by which a message names the expression. -/
def label : Form → String
  | await => "await"
  | binary => "binary_operator"
  | unary => "unary_operator"
  | negation => "not_operator"
  | boolean => "boolean_operator"
  | comparison => "comparison_operator"
  | lambda => "lambda"
  | conditional => "conditional_expression"
  | named => "named_expression"
  | asPattern => "as_pattern"
  | member => "attribute"
  | subscript => "subscript"
  | slice => "slice"
  | call => "call"
  | arguments => "argument_list"
  | keywordArgument => "keyword_argument"
  | list => "list"
  | set => "set"
  | dictionary => "dictionary"
  | pair => "pair"
  | tuple => "tuple"
  | parenthesized => "parenthesized_expression"
  | listComprehension => "list_comprehension"
  | setComprehension => "set_comprehension"
  | dictionaryComprehension => "dictionary_comprehension"
  | generator => "generator_expression"
  | forClause => "for_in_clause"
  | ifClause => "if_clause"
  | listSplat => "list_splat"
  | dictionarySplat => "dictionary_splat"
  | yield => "yield"
  | strings => "concatenated_string"
  | expressionList => "expression_list"
  | patternList => "pattern_list"
  | tuplePattern => "tuple_pattern"
  | listPattern => "list_pattern"
  | listSplatPattern => "list_splat_pattern"
  | augmented => "augmented_assignment"
  | type => "type"
  | typeParameters => "type_parameter"

end Form

/-- The word by which a message names the expression. -/
def Expr.label : Expr → String
  | .leaf kind _ _ => kind.label
  | .literal _ _ _ => "string"
  | .form kind _ _ => kind.label

/-- How the target of a parameter is written. -/
inductive ParamTarget where
  /-- A name or, in the old style, a bracketed list of names. -/
  | plain
  /-- `*name` -/
  | star
  /-- `**name` -/
  | doubleStar
deriving DecidableEq, Inhabited

/-- One entry of a parameter list. -/
inductive ParamItem where
  | comment
  /-- A line join between two parameters. -/
  | lineJoin (text : String)
  /-- `/` -/
  | positionalMark
  /-- `*` -/
  | keywordMark
  /-- A parameter; `text` is its target as written, stars included. -/
  | param (target : ParamTarget) (text : String) (type : Option Expr) (hasDefault : Bool)
deriving Inhabited

/-- `left : type`, `left = right` and their mixtures; the right side may assign again. -/
inductive Assignment where
  | declare (left : Expr) (type : Expr)
  | value (left : Expr) (type : Option Expr) (right : Expr)
  | chain (left : Expr) (type : Option Expr) (right : Assignment)
deriving Inhabited

/-- The part of a function definition that declares something: all but its body. -/
structure FunctionHead where
  span : Span
  name : String
  params : List ParamItem
  returns : Option Expr
deriving Inhabited

/-- What a statement is of which nothing but the kind counts. -/
inductive StmtKind where
  | importStmt
  | importFromStmt
  | futureImportStmt
  | passStmt
  /-- A comment between statements. -/
  | comment
  /-- A line join between statements. -/
  | lineJoin
  /-- The mark between two statements on a line. -/
  | semicolon
  | breakStmt
  | continueStmt
  | returnStmt
  | deleteStmt
  | raiseStmt
  | globalStmt
  | nonlocalStmt
  | assertStmt
  | printStmt
  | execStmt
  | whileStmt
  | forStmt
  | tryStmt
  | withStmt
  | matchStmt
deriving DecidableEq, Inhabited

namespace StmtKind

/-- The word by which a message names the statement. -/
def label : StmtKind → String
  | importStmt => "import_statement"
  | importFromStmt => "import_from_statement"
  | futureImportStmt => "future_import_statement"
  | passStmt => "pass_statement"
  | comment => "comment"
  | lineJoin => "line_continuation"
  | semicolon => ";"
  | breakStmt => "break_statement"
  | continueStmt => "continue_statement"
  | returnStmt => "return_statement"
  | deleteStmt => "delete_statement"
  | raiseStmt => "raise_statement"
  | globalStmt => "global_statement"
  | nonlocalStmt => "nonlocal_statement"
  | assertStmt => "assert_statement"
  | printStmt => "print_statement"
  | execStmt => "exec_statement"
  | whileStmt => "while_statement"
  | forStmt => "for_statement"
  | tryStmt => "try_statement"
  | withStmt => "with_statement"
  | matchStmt => "match_statement"

end StmtKind

inductive Stmt where
  | plain (kind : StmtKind) (span : Span)
  /-- An expression; `first` is the first one of a list. -/
  | expression (span : Span) (first : Expr)
  | augmented (span : Span)
  | assignment (span : Span) (body : Assignment)
  | typeAlias (span : Span) (left : Expr)
  | function (decorators : List Expr) (head : FunctionHead)
  | classDef (decorators : List Expr) (span : Span) (name : String) (body : List Stmt)
  /-- The bodies of `if`, `elif` and `else`, in order. -/
  | conditional (span : Span) (branches : List (List Stmt))
deriving Inhabited

def Stmt.span : Stmt → Span
  | plain _ s => s
  | expression s _ => s
  | augmented s => s
  | assignment s _ => s
  | typeAlias s _ => s
  | function _ head => head.span
  | classDef _ s _ _ => s
  | conditional s _ => s

end StubLayers
