import StubLayers.Cli.Flag
import StubLayers.Text.Integer
import StubLayers.Text.Quoted

/-!
Reading the arguments of a command line. Each argument is first taken for a word or for a flag, by
its form alone; then flags and words are handled from left to right. A long flag may be cut short as
long as no other one starts so, and short flags may be written together.
-/

namespace StubLayers.Cli

/-- Why arguments are refused. -/
inductive UsageError where
  | ambiguous (argument : String) (names : List String)
  | expectedOne (flag : Flag)
  | ignoredValue (flag : Flag) (value : String)
  | conflict (flag other : Flag)
  | invalidInt (flag : Flag) (value : String)
  | invalidCommand (word : String)
  | noCommand
  | unrecognized (arguments : List String)
deriving DecidableEq, Inhabited

def UsageError.message : UsageError → String
  | ambiguous argument names =>
    "ambiguous option: " ++ argument ++ " could match " ++ ", ".intercalate names
  | expectedOne flag => "argument " ++ flag.label ++ ": expected one argument"
  | ignoredValue flag value =>
    "argument " ++ flag.label ++ ": ignored explicit argument " ++ Text.quoted value
  | conflict flag other =>
    "argument " ++ flag.label ++ ": not allowed with argument " ++ other.label
  | invalidInt flag value =>
    "argument " ++ flag.label ++ ": invalid int value: " ++ Text.quoted value
  | invalidCommand word =>
    "argument command: invalid choice: " ++ Text.quoted word ++ " (choose from 'check')"
  | noCommand => "the following arguments are required: command"
  | unrecognized arguments => "unrecognized arguments: " ++ " ".intercalate arguments

/-- Why a command line starts no check. -/
inductive Stop where
  | help (command : Command)
  | refused (command : Command) (error : UsageError)
deriving DecidableEq, Inhabited

/-! ### Words and flags -/

/-- A value written in the same argument as its flag. -/
structure Attached where
  /-- Whether an equals sign stands before it. -/
  equals : Bool
  text : List Char
deriving DecidableEq, Inhabited

/-- What an argument is taken for. -/
inductive Shape where
  | word
  /-- Two hyphens: words only from here on. -/
  | separator
  | flag (flag : Flag) (name : String) (attached : Option Attached)
  | unknownFlag
deriving DecidableEq, Inhabited

structure Argument where
  text : String
  shape : Shape
deriving DecidableEq, Inhabited

/-- The part before the first equals sign and the part after it. -/
def splitEquals (cs : List Char) : List Char × Option (List Char) :=
  match cs.dropWhile (· ≠ '=') with
  | [] => (cs, none)
  | _ :: rest => (cs.takeWhile (· ≠ '='), some rest)

/-- The flags that an argument may be a short form of. -/
def candidates (c : Command) (cs : List Char) : List (String × Flag × Option Attached) :=
  match cs with
  | '-' :: '-' :: _ =>
    let (start, value) := splitEquals cs
    c.spellings.filterMap fun (name, flag) =>
      if start.isPrefixOf name.toList then some (name, flag, value.map (Attached.mk true)) else none
  | _ =>
    c.spellings.filterMap fun (name, flag) =>
      if name.toList = cs.take 2 then some (name, flag, some ⟨false, cs.drop 2⟩)
      else if cs.isPrefixOf name.toList then some (name, flag, none)
      else none

/-- Whether a text is a negative number, which is a word. A line break at its end is overlooked. -/
def isNegativeNumber (cs : List Char) : Bool :=
  let isDigit c := (Text.digit? c).isSome
  let fits (cs : List Char) : Bool :=
    match cs with
    | '-' :: rest =>
      let whole := rest.takeWhile isDigit
      match rest.dropWhile isDigit with
      | [] => !whole.isEmpty
      | '.' :: tail => !tail.isEmpty && tail.all isDigit
      | _ => false
    | _ => false
  fits cs || cs.getLast? = some '\n' && fits cs.dropLast

/-- What an argument is taken for, when no separator stands before it. -/
def shapeOf (c : Command) (text : String) : Except UsageError Shape :=
  let cs := text.toList
  if cs.head? ≠ some '-' then .ok .word
  else
    match c.flag? text with
    | some flag => .ok (.flag flag text none)
    | none =>
      if cs.length = 1 then .ok .word
      else
        let (start, value) := splitEquals cs
        match value.bind fun value => (c.flag? (String.ofList start)).map (·, value) with
        | some (flag, value) => .ok (.flag flag (String.ofList start) (some ⟨true, value⟩))
        | none =>
          match candidates c cs with
          | [(name, flag, attached)] => .ok (.flag flag name attached)
          | [] => .ok (if isNegativeNumber cs || cs.contains ' ' then .word else .unknownFlag)
          | names => .error (.ambiguous text (names.map (·.1)))

/-- What the arguments are taken for. -/
def shapes (c : Command) : List String → Except UsageError (List Argument)
  | [] => .ok []
  | "--" :: rest => .ok (⟨"--", .separator⟩ :: rest.map (Argument.mk · .word))
  | text :: rest => do
    let shape ← shapeOf c text
    return ⟨text, shape⟩ :: (← shapes c rest)

/-! ### Flags with their values -/

/-- What one argument with flags asks for. -/
structure Request where
  /-- The flags in order, each with its value. -/
  flags : List (Flag × String)
  /-- A part that is no flag. -/
  extra : List String
  /-- Whether the last flag still needs a value. -/
  pending : Option Flag
deriving Inhabited

/-- Flags written together: the rest of a short flag's argument. -/
def cluster (c : Command) (flag : Flag) (long : Bool) (equals : Bool) :
    List Char → Except UsageError Request
  | [] => if flag.takesValue then .ok ⟨[(flag, "")], [], none⟩ else .error (.ignoredValue flag "")
  | ch :: rest =>
    if flag.takesValue then .ok ⟨[(flag, String.ofList (ch :: rest))], [], none⟩
    else if long || equals || ch = '-' then
      .error (.ignoredValue flag (String.ofList (ch :: rest)))
    else
      match c.flag? (String.ofList ['-', ch]) with
      | none => .ok ⟨[(flag, "")], [String.ofList ('-' :: ch :: rest)], none⟩
      | some next => do
        let more ←
          match rest with
          | [] => if next.takesValue then pure ⟨[], [], some next⟩ else pure ⟨[(next, "")], [], none⟩
          | '=' :: value => cluster c next false true value
          | value => cluster c next false false value
        return { more with flags := (flag, "") :: more.flags }

/-- What an argument with a flag asks for. -/
def request (c : Command) (flag : Flag) (name : String) : Option Attached → Except UsageError Request
  | none => .ok (if flag.takesValue then ⟨[], [], some flag⟩ else ⟨[(flag, "")], [], none⟩)
  | some attached =>
    cluster c flag (name.toList.take 2 = ['-', '-']) attached.equals attached.text

/-! ### Commands -/

/-- What a command line asks for. -/
structure Arguments where
  verbose : Bool := false
  quiet : Bool := false
  logFile : Option String := none
  path : String := "."
  overrides : Overrides := {}
deriving DecidableEq, Inhabited

/-- Take in one flag. -/
def Arguments.apply (a : Arguments) (c : Command) : Flag → String → Except Stop Arguments
  | .help, _ => .error (.help c)
  | .verbose, _ =>
    if a.quiet then .error (.refused c (.conflict .verbose .quiet)) else .ok { a with verbose := true }
  | .quiet, _ =>
    if a.verbose then .error (.refused c (.conflict .quiet .verbose)) else .ok { a with quiet := true }
  | .logFile, value => .ok { a with logFile := some value }
  | .shimDir, value => .ok { a with overrides.shimDir := some value }
  | .generatedDir, value =>
    .ok { a with overrides.generatedDirs := some (a.overrides.generatedDirs.getD [] ++ [value]) }
  | .baseDir, value => .ok { a with overrides.baseDir := some value }
  | .basePathPrefix, value => .ok { a with overrides.basePathPrefix := some value }
  | .baseUrl, value => .ok { a with overrides.baseUrl := some value }
  | .jobs, value =>
    match Text.readInt? 10 value.toList with
    | some n => .ok { a with overrides.jobs := some n }
    | none => .error (.refused c (.invalidInt .jobs value))

def Arguments.applyAll (a : Arguments) (c : Command) :
    List (Flag × String) → Except Stop Arguments
  | [] => .ok a
  | (flag, value) :: rest => do (← a.apply c flag value).applyAll c rest

/-- The arguments of a command: what they ask for, the words for the command itself, and what is
left over. -/
structure Progress where
  arguments : Arguments
  /-- The words of the command; none as long as there were none. -/
  words : Option (List String)
  extra : List String
deriving Inhabited

def refuse {α : Type} (c : Command) : Except UsageError α → Except Stop α
  | .ok a => .ok a
  | .error e => .error (.refused c e)

/-- How many arguments the command takes for itself from here on. The main command takes all from a
word on, a check takes one word, and either takes the separator along. -/
def wordCount (c : Command) (args : List Argument) : Nat :=
  let isSeparator (a : Argument) : Bool := a.shape = .separator
  let before := (args.takeWhile isSeparator).length
  let hasWord := (args.drop before).head?.any (·.shape = .word)
  match c with
  | .main => if hasWord then args.length else 0
  | .check =>
    if hasWord then before + 1 + ((args.drop (before + 1)).takeWhile isSeparator).length else before

def isFlag (a : Argument) : Bool :=
  match a.shape with
  | .flag _ _ _ => true
  | .unknownFlag => true
  | _ => false

/-- Handle arguments from left to right. -/
def handle (c : Command) (p : Progress) : Nat → List Argument → Except Stop Progress
  | 0, _ => .ok p
  | fuel + 1, args =>
    match args with
    | ⟨_, .flag flag name attached⟩ :: rest => do
      let asked ← refuse c (request c flag name attached)
      match asked.pending with
      | none =>
        let arguments ← p.arguments.applyAll c asked.flags
        handle c { p with arguments, extra := p.extra ++ asked.extra } fuel rest
      | some flag =>
        match rest with
        | ⟨value, .word⟩ :: rest =>
          let arguments ← p.arguments.applyAll c (asked.flags ++ [(flag, value)])
          handle c { p with arguments } fuel rest
        | _ => .error (.refused c (.expectedOne flag))
    | ⟨text, .unknownFlag⟩ :: rest => handle c { p with extra := p.extra ++ [text] } fuel rest
    | [] => .ok p
    | ⟨text, _⟩ :: _ =>
      let count := if p.words.isNone then wordCount c args else 0
      if count = 0 then
        let words := args.takeWhile (!isFlag ·)
        handle c { p with extra := p.extra ++ words.map (·.text) } fuel (args.drop words.length)
      else
        match c, text with
        | .main, "check" | .check, _ =>
          handle c { p with words := some ((args.take count).map (·.text)) } fuel (args.drop count)
        | .main, _ => .error (.refused c (.invalidCommand text))

/-- Read the arguments of one command. -/
def readCommand (c : Command) (args : List String) : Except Stop Progress := do
  let args ← refuse c (shapes c args)
  handle c ⟨{}, none, []⟩ (args.length + 1) args

/-- The path among the words of a check. -/
def pathOf (words : List String) : String :=
  ((words.erase "--").head?).getD "."

/-- Read a command line. -/
def readArguments (args : List String) : Except Stop Arguments := do
  let main ← readCommand .main args
  match main.words with
  | none => .error (.refused .main .noCommand)
  | some words =>
    let check ← readCommand .check (words.drop 1)
    match main.extra ++ check.extra with
    | [] =>
      return { check.arguments with
        verbose := main.arguments.verbose || check.arguments.verbose
        quiet := main.arguments.quiet || check.arguments.quiet
        logFile := main.arguments.logFile
        path := (check.words.map pathOf).getD "." }
    | extra => .error (.refused .main (.unrecognized extra))

end StubLayers.Cli
