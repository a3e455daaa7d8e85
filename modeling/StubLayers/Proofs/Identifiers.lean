import StubLayers.Proofs.Statements

/-!
# Names are words

Names are handed over by many rules: as operands, behind points, in front of equals signs, as
targets and in types.  All of them were tokens once.  This file follows every name that stands in an
expression back to its token.

* `Expr.names`: the names in an expression, in document order.
* `Worded rule`, `WordedAll rule`: the names in what the rule reads are words.
* `ReadsWords g`: the rules that the others call do so.  There is one lemma for each rule.
* `readsWords_grammar`: they do so however deep they call each other.
-/

namespace StubLayers

/-! ### Names in expressions -/

namespace Expr

mutual

/-- The names in an expression, in document order. -/
def names : Expr → List String
  | leaf .name _ text => [text]
  | leaf _ _ _ => []
  | literal _ _ parts => namesAll parts
  | form _ _ children => namesAll children

def namesAll : List Expr → List String
  | [] => []
  | e :: rest => names e ++ namesAll rest

end

@[simp] theorem namesAll_nil : namesAll [] = [] := rfl

@[simp] theorem namesAll_cons (e : Expr) (rest : List Expr) :
    namesAll (e :: rest) = e.names ++ namesAll rest := by rw [namesAll]

@[simp] theorem namesAll_append (es es' : List Expr) :
    namesAll (es ++ es') = namesAll es ++ namesAll es' := by
  induction es with
  | nil => rfl
  | cons e es ih => rw [List.cons_append, namesAll_cons, ih, namesAll_cons, List.append_assoc]

@[simp] theorem names_form (kind : Form) (span : Span) (children : List Expr) :
    (form kind span children).names = namesAll children := by rw [names]

@[simp] theorem names_literal (span : Span) (text : String) (parts : List Expr) :
    (literal span text parts).names = namesAll parts := by rw [names]

@[simp] theorem names_ofChildren (kind : Form) (children : List Expr) :
    (ofChildren kind children).names = namesAll children := by
  rw [ofChildren]
  split <;> rw [names_form]

mutual

/-- The first name is the one that aliases are declared by. -/
theorem firstName_eq_head?_names : (e : Expr) → e.firstName = e.names.head?
  | leaf kind _ _ => by cases kind <;> rfl
  | literal _ _ parts => by rw [firstName, names, firstNameAll_eq_head?_namesAll parts]
  | form _ _ children => by rw [firstName, names, firstNameAll_eq_head?_namesAll children]

theorem firstNameAll_eq_head?_namesAll : (es : List Expr) → firstNameAll es = (namesAll es).head?
  | [] => rfl
  | e :: rest => by
    rw [firstNameAll, namesAll, firstName_eq_head?_names e, firstNameAll_eq_head?_namesAll rest,
      List.head?_append, Option.orElse_eq_orElse, Option.orElse_eq_or]

end

end Expr

/-- All of the texts are words. -/
def AllWords (texts : List String) : Prop := ∀ text ∈ texts, IsWord text

@[simp] theorem allWords_nil : AllWords [] := fun _ h => absurd h List.not_mem_nil

@[simp] theorem allWords_cons {text : String} {texts : List String} :
    AllWords (text :: texts) ↔ IsWord text ∧ AllWords texts := List.forall_mem_cons

@[simp] theorem allWords_append {texts texts' : List String} :
    AllWords (texts ++ texts') ↔ AllWords texts ∧ AllWords texts' := List.forall_mem_append

/-! ### Tokens -/

/-- What a token ahead has to do with names: none stands in front of it, and a word is one. -/
structure Peek.Worded (p : Peek) : Prop where
  extras : Expr.namesAll p.extras = []
  word : ∀ text, p.token = .word text → IsWord p.text

namespace Peek

@[simp] theorem names_leaf (p : Peek) : p.leaf.names = [] := rfl

@[simp] theorem names_nameLeaf (p : Peek) : (Rule.nameLeaf p).names = [p.text] := rfl

@[simp] theorem namesAll_pieces (p : Peek) : Expr.namesAll p.pieces = Expr.namesAll p.extras := by
  simp [pieces]

end Peek

namespace Stub

theorem names_of_extraAt {r s : Reader} {extra : Expr} (h : extraAt r = some (extra, s)) :
    extra.names = [] := by
  unfold extraAt at h
  dsimp only at h
  split at h
  · split at h
    · exact absurd h (by simp)
    · obtain ⟨rfl, -⟩ := Prod.mk.inj (Option.some.inj h)
      rfl
  · obtain ⟨rfl, -⟩ := Prod.mk.inj (Option.some.inj h)
    rfl

theorem namesAll_extras_look (e : Expect) {extras : List Expr} {r : Reader} (fuel : Nat)
    (h : Expr.namesAll extras.reverse = []) : Expr.namesAll (look e extras r fuel).extras = [] := by
  induction fuel generalizing extras r with
  | zero => exact h
  | succ fuel ih =>
    rw [look]
    dsimp only
    split
    · exact h
    · split
      · exact h
      · split
        · rename_i extra s hextra
          refine ih ?_
          rw [List.reverse_cons, Expr.namesAll_append, h, Expr.namesAll_cons,
            names_of_extraAt hextra]
          rfl
        · exact h

end Stub

theorem Reader.worded_peek (e : Expect) (r : Reader) : (r.peek e).Worded :=
  ⟨Stub.namesAll_extras_look e (r.left + 1) rfl,
    fun _ htoken => (r.ahead_peek e).token.isWord htoken⟩

/-! ### Rules -/

namespace Rule

open Expr

variable {β : Type} {Q : β → Prop}

/-- The names in the expression that the rule reads are words. -/
abbrev Worded (rule : Rule Expr) : Prop := Yields (fun e => AllWords e.names) rule

abbrev WordedAll (rule : Rule (List Expr)) : Prop := Yields (fun es => AllWords (namesAll es)) rule

theorem Yields.peek {e : Expect} {next : Peek → Rule β}
    (h : ∀ p : Peek, p.Worded → Yields Q (next p)) : Yields Q (Rule.peek e >>= next) :=
  fun r => h _ (r.worded_peek e) r

theorem Yields.lead {e : Expect} {next : List Expr → Rule β}
    (h : ∀ extras, namesAll extras = [] → Yields Q (next extras)) :
    Yields Q (Rule.lead e >>= next) :=
  fun r => h _ (r.worded_peek e).extras (r.peek e).before

theorem wordedAll_led {rule : Rule Expr} (e : Expect) (h : Worded rule) : WordedAll (led e rule) :=
  .lead fun extras hextras => h.bind fun expr hexpr => .pure (by simp [hextras, hexpr])

theorem wordedAll_operator (e : Expect) (text : String) : WordedAll (operator e text) := by
  refine .peek fun p hp => ?_
  split
  · exact .bind_any fun _ => .pure (by simp [hp.extras])
  · exact .failure

theorem wordedAll_keyword (e : Expect) (text : String) : WordedAll (keyword e text) := by
  refine .peek fun p hp => ?_
  split
  · exact .bind_any fun _ => .pure (by simp [hp.extras])
  · exact .failure

theorem wordedAll_name (e : Expect) :
    Yields (fun found => AllWords (namesAll found.1)) (name e) := by
  refine .peek fun p hp => ?_
  split
  · rename_i text htoken
    split
    · exact .bind_any fun _ => .pure (by simp [hp.extras, hp.word text htoken])
    · exact .failure
  · exact .failure

theorem allWords_flatten {ess : List (List Expr)} (h : ∀ es ∈ ess, AllWords (namesAll es)) :
    AllWords (namesAll ess.flatten) := by
  induction ess with
  | nil => exact allWords_nil
  | cons es ess ih =>
    rw [List.forall_mem_cons] at h
    rw [List.flatten_cons, namesAll_append, allWords_append]
    exact ⟨h.1, ih h.2⟩

/-- What a step reads, if it reads anything. -/
abbrev WordedStep (step : Rule (Option (List Expr))) : Prop :=
  Yields (fun item => ∀ es ∈ item, AllWords (namesAll es)) step

theorem yields_flatten {step : Rule (Option (List Expr))} (h : WordedStep step) :
    Yields (fun all => AllWords (namesAll all.flatten)) (many step) :=
  fun r all s hall => allWords_flatten (Yields.many h r all s hall)

end Rule

namespace Stub

open Rule Expr

/-! ### Patterns -/

mutual

/-- A pattern has the names of the expression it was written as. -/
theorem names_of_pattern? {e pattern : Expr} (h : pattern? e = some pattern) :
    pattern.names = e.names := by
  rw [pattern?.eq_def] at h
  split at h
  · exact Option.some.inj h ▸ rfl
  · exact Option.some.inj h ▸ rfl
  · exact Option.some.inj h ▸ rfl
  · obtain ⟨patterns, hpatterns, rfl⟩ := Option.map_eq_some_iff.mp h
    simpa using namesAll_of_patterns? hpatterns
  · obtain ⟨patterns, hpatterns, rfl⟩ := Option.map_eq_some_iff.mp h
    simpa using namesAll_of_patterns? hpatterns
  · obtain ⟨patterns, hpatterns, rfl⟩ := Option.map_eq_some_iff.mp h
    simpa using namesAll_of_patterns? hpatterns
  · split at h
    · split at h
      · obtain rfl := Option.some.inj h
        simp
      · contradiction
    · contradiction
  · contradiction

theorem namesAll_of_patterns? {es patterns : List Expr} (h : patterns? es = some patterns) :
    namesAll patterns = namesAll es := by
  rw [patterns?.eq_def] at h
  split at h
  · exact Option.some.inj h ▸ rfl
  · obtain ⟨patterns, hpatterns, rfl⟩ := Option.map_eq_some_iff.mp h
    simpa using namesAll_of_patterns? hpatterns
  · obtain ⟨patterns, hpatterns, rfl⟩ := Option.map_eq_some_iff.mp h
    simpa using namesAll_of_patterns? hpatterns
  · obtain ⟨patterns, hpatterns, rfl⟩ := Option.map_eq_some_iff.mp h
    simpa using namesAll_of_patterns? hpatterns
  · obtain ⟨first, hfirst, h⟩ := Option.bind_eq_some_iff.mp h
    obtain ⟨patterns, hpatterns, h⟩ := Option.bind_eq_some_iff.mp h
    obtain rfl := Option.some.inj h
    rw [namesAll_cons, namesAll_cons, names_of_pattern? hfirst, namesAll_of_patterns? hpatterns]

end

theorem names_of_target? {whole target : Expr} (h : target? whole = some target) :
    target.names = whole.names := by
  unfold target? at h
  split at h
  · obtain ⟨patterns, hpatterns, rfl⟩ := Option.map_eq_some_iff.mp h
    simpa using namesAll_of_patterns? hpatterns
  · exact names_of_pattern? h

/-! ### What the rules are to do -/

/-- The rules for expressions and types hand over no names but words. -/
structure ReadsWords (g : Grammar) : Prop where
  expression : ∀ least e f, Worded (g.expression least e f)
  arithmetic : ∀ least e f, Worded (g.arithmetic least e f)
  operand : ∀ e f, Worded (g.operand e f)
  type : ∀ bounded e f, Worded (g.type bounded e f)

section

variable {g : Grammar} (hg : ReadsWords g)

include hg

theorem ReadsWords.led_expression (least : Nat) (e e' : Expect) (f : Follow) :
    WordedAll (led e (g.expression least e' f)) := wordedAll_led e (hg.expression least e' f)

theorem ReadsWords.led_arithmetic (least : Nat) (e e' : Expect) (f : Follow) :
    WordedAll (led e (g.arithmetic least e' f)) := wordedAll_led e (hg.arithmetic least e' f)

theorem yields_moreExpressions (f : Follow) {pieces : List Expr}
    (hpieces : AllWords (namesAll pieces)) (comma : Bool) (fuel : Nat) :
    Yields (fun found => AllWords (namesAll found.1)) (moreExpressions g f pieces comma fuel) := by
  induction fuel generalizing pieces comma with
  | zero => exact .failure
  | succ fuel ih =>
    refine .peek fun p hp => ?_
    split
    · refine .bind_any fun _ => .bind_any fun q => ?_
      split
      · refine (hg.led_expression 0 _ _ f).bind fun next hnext => ?_
        exact ih (by simp [hpieces, hp.extras, hnext]) true
      · exact .pure (by simp [hpieces, hp.extras])
    · exact .pure hpieces

theorem worded_expressions (start : Expect) (f : Follow) :
    Yields (fun found => AllWords found.2.names) (expressions g start f) := by
  refine (hg.expression 0 start f).bind fun first hfirst => .bind_any fun r => ?_
  refine (yields_moreExpressions hg f (by simpa using hfirst) false _).bind fun found hfound => ?_
  obtain ⟨pieces, comma⟩ := found
  refine .pure ?_
  cases comma with
  | true => simpa using hfound
  | false => exact hfirst

theorem worded_yieldRule (start : Expect) (f : Follow) : Worded (yieldRule g start f) := by
  refine (wordedAll_keyword start "yield").bind fun word hword => .peek fun p hp => ?_
  split
  · refine .bind_any fun _ => (hg.led_expression 0 _ _ f).bind fun value hvalue => ?_
    exact .pure (by simp [hword, hp.extras, hvalue])
  · split
    · refine .lead fun extras hextras => (worded_expressions hg _ f).bind fun found hfound => ?_
      exact .pure (by simp [hword, hextras, hfound])
    · exact .pure (by simpa using hword)

/-! ### Strings -/

omit hg in
theorem wordedAll_formatText {interpolation : Rule (List Expr)} (h : WordedAll interpolation)
    {parts : List Expr} (hparts : AllWords (namesAll parts)) (fuel : Nat) :
    WordedAll (formatText interpolation parts fuel) := by
  induction fuel generalizing parts with
  | zero => exact .failure
  | succ fuel ih =>
    refine .bind_any fun r => ?_
    split
    · exact .failure
    · split
      · exact .pure hparts
      · split
        · exact h.bind fun inner hinner => ih (by simp [hparts, hinner])
        · exact .bind_any fun _ => ih hparts

theorem wordedAll_interpolation (depth : Nat) : WordedAll (interpolation g depth) := by
  induction depth with
  | zero => exact .failure
  | succ depth ih =>
    refine .bind_any fun r => .bind_any fun _ => .bind_any fun p => ?_
    extract_lets rest
    have hrest : ∀ value : Expr, AllWords value.names → WordedAll (rest value) := by
      intro value hvalue
      refine .bind_any fun p => ?_
      extract_lets close format conversion
      -- the steps behind the value, from the last one on
      have hclose : ∀ inner, AllWords (namesAll inner) → WordedAll (close inner) :=
        fun inner hinner => .bind_any fun _ => .pure (by simp [hvalue, hinner])
      have hformat : WordedAll (format ()) := by
        refine .bind_any fun p => ?_
        split
        · refine .bind_any fun _ => .bind_any fun r => ?_
          exact (wordedAll_formatText ih (by simp) _).bind hclose
        · exact hclose [] allWords_nil
      have hconversion : WordedAll (conversion ()) := by
        refine .bind_any fun p => ?_
        split
        · exact .bind_any fun _ => hformat
        · exact hformat
      split
      · exact .bind_any fun _ => hconversion
      · exact hconversion
    split
    · exact (worded_yieldRule hg _ _).bind hrest
    · exact .bind_any fun _ => (worded_expressions hg _ _).bind fun found hfound => hrest _ hfound

theorem wordedAll_stringSpecial : WordedAll (stringSpecial g) := by
  refine .bind_any fun r => ?_
  split
  · exact .bind_any fun _ => .pure allWords_nil
  · dsimp only
    split
    · exact .bind_any fun _ => .pure allWords_nil
    · refine .bind_any fun _ => ?_
      split
      · exact wordedAll_interpolation hg _
      · exact .failure

theorem wordedAll_stringBody (q : Quote) {parts : List Expr} (hparts : AllWords (namesAll parts))
    (fuel : Nat) : WordedAll (stringBody g q parts fuel) := by
  induction fuel generalizing parts with
  | zero => exact .failure
  | succ fuel ih =>
    have hgo : ∀ inner, AllWords (namesAll inner) →
        WordedAll (stringBody g q (parts ++ inner) fuel) :=
      fun inner hinner => ih (by simp [hparts, hinner])
    refine .bind_any fun r => ?_
    dsimp only
    split
    · split
      · exact .bind_any fun _ => ih hparts
      · split
        · exact (wordedAll_interpolation hg _).bind hgo
        · exact .failure
    · split
      · exact .bind_any fun _ => ih hparts
      · exact .bind_any fun _ => .pure hparts
      · exact (wordedAll_stringSpecial hg).bind hgo

theorem worded_stringLiteral (p : Peek) (q : Quote) : Worded (stringLiteral g p q) := by
  refine .bind_any fun _ => (wordedAll_stringBody hg q (by simp) _).bind fun parts hparts => ?_
  exact .bind_any fun r => .pure (by simpa using hparts)

theorem worded_strings (f : Follow) (p : Peek) (q : Quote) : Worded (strings g f p q) := by
  refine (worded_stringLiteral hg p q).bind fun first hfirst => ?_
  refine (yields_flatten (.peek fun p hp => ?_)).bind fun more hmore => ?_
  · split
    · refine (worded_stringLiteral hg p _).bind fun next hnext => ?_
      exact .pure (by simp [hp.extras, hnext])
    · exact .pure (by simp)
  · split
    · exact .pure hfirst
    · exact .pure (by simp [hfirst, hmore])

/-! ### Loops and comprehensions -/

theorem worded_loopTarget (start : Expect) : Worded (loopTarget g start) := by
  refine .bind_any fun p => ?_
  split
  · refine .bind_any fun _ => .lead fun extras hextras => ?_
    refine (hg.operand _ _).bind fun place hplace => ?_
    split
    · exact .pure (by simp [hextras, hplace])
    · exact .failure
  · refine (hg.operand _ _).bind fun expr hexpr => ?_
    split
    · rename_i pattern hpattern
      exact .pure (by rwa [names_of_pattern? hpattern])
    · exact .failure

theorem wordedAll_loopTargets : WordedAll (loopTargets g) := by
  have htarget := wordedAll_led .operand (worded_loopTarget hg .operand)
  refine htarget.bind fun first hfirst => ?_
  refine (yields_flatten (.peek fun p hp => ?_)).bind fun more hmore => ?_
  · split
    · refine .bind_any fun _ => .bind_any fun q => ?_
      split
      · exact .pure (by simp [hp.extras])
      · exact htarget.bind fun next hnext => .pure (by simp [hp.extras, hnext])
    · exact .pure (by simp)
  · exact .pure (by simp [hfirst, hmore])

theorem wordedAll_clauseValues : WordedAll (clauseValues g) := by
  refine (hg.led_expression 0 _ _ _).bind fun first hfirst => ?_
  refine (yields_flatten (.peek fun p hp => ?_)).bind fun more hmore => ?_
  · split
    · refine .bind_any fun _ => .bind_any fun q => ?_
      split
      · refine (hg.led_expression 0 _ _ _).bind fun next hnext => ?_
        exact .pure (by simp [hp.extras, hnext])
      · split
        · exact .failure
        · exact .pure (by simp [hp.extras])
    · exact .pure (by simp)
  · exact .pure (by simp [hfirst, hmore])

theorem worded_forClause {opening : List Expr} (hopening : namesAll opening = []) :
    Worded (forClause g opening) := by
  refine (wordedAll_keyword _ _).bind fun word hword => ?_
  refine (wordedAll_loopTargets hg).bind fun targets htargets => ?_
  refine (wordedAll_keyword _ _).bind fun inWord hin => ?_
  refine (wordedAll_clauseValues hg).bind fun values hvalues => ?_
  exact .pure (by simp [hopening, hword, htargets, hin, hvalues])

theorem wordedAll_clauses : WordedAll (clauses g) := by
  refine (yields_flatten (.peek fun p hp => ?_)).bind fun pieces hpieces => .pure hpieces
  split
  · refine .lead fun extras hextras => (worded_forClause hg rfl).bind fun e he => ?_
    exact .pure (by simp [hextras, he])
  · split
    · refine .bind_any fun _ => (worded_forClause hg (by simp)).bind fun e he => ?_
      exact .pure (by simp [hp.extras, he])
    · split
      · refine .bind_any fun _ => (hg.led_expression 0 _ _ _).bind fun value hvalue => ?_
        exact .pure (by simp [hp.extras, hvalue])
      · exact .pure (by simp)

/-! ### Brackets -/

theorem worded_element (start : Expect) : Worded (element g start) := by
  refine .bind_any fun p => ?_
  split
  · refine .bind_any fun _ => (hg.led_expression 0 _ _ _).bind fun value hvalue => ?_
    exact .pure (by simpa using hvalue)
  · split
    · exact worded_yieldRule hg _ _
    · exact hg.expression 0 _ _

omit hg in
theorem wordedAll_moreElements {item : Expect → Rule Expr} (h : ∀ e, Worded (item e))
    (closer : String) : WordedAll (moreElements item closer) := by
  refine (yields_flatten (.peek fun p hp => ?_)).bind fun pieces hpieces => .pure hpieces
  split
  · refine .bind_any fun _ => .bind_any fun q => ?_
    split
    · exact .pure (by simp [hp.extras])
    · refine (wordedAll_led _ (h _)).bind fun next hnext => ?_
      exact .pure (by simp [hp.extras, hnext])
  · exact .pure (by simp)

omit hg in
/-- Elements behind the first ones, up to the closing bracket. -/
theorem worded_elements {item : Expect → Rule Expr} (h : ∀ e, Worded (item e)) (closer : String)
    (kind : Form) {opening : List Expr} (hopening : AllWords (namesAll opening)) :
    Worded (do
      let more ← moreElements item closer
      let close ← operator .closing closer
      return ofChildren kind (opening ++ more ++ close)) := by
  refine (wordedAll_moreElements h closer).bind fun more hmore => ?_
  refine (wordedAll_operator _ _).bind fun close hclose => ?_
  exact .pure (by simp [hopening, hmore, hclose])

/-- The clauses of a comprehension behind its body, up to the closing bracket. -/
theorem worded_comprehension (closer : String) (kind : Form) {opening : List Expr}
    (hopening : AllWords (namesAll opening)) :
    Worded (do
      let body ← clauses g
      let close ← operator .closing closer
      return ofChildren kind (opening ++ body ++ close)) := by
  refine (wordedAll_clauses hg).bind fun body hbody => ?_
  refine (wordedAll_operator _ _).bind fun close hclose => ?_
  exact .pure (by simp [hopening, hbody, hclose])

theorem worded_parentheses (p : Peek) : Worded (parentheses g p) := by
  refine .bind_any fun _ => .peek fun q hq => ?_
  split
  · exact .bind_any fun _ => .pure (by simp [hq.extras])
  · refine (wordedAll_led _ (worded_element hg _)).bind fun first hfirst => .peek fun q hq => ?_
    split
    · exact worded_comprehension hg _ _ (by simpa using hfirst)
    · split
      · exact .bind_any fun _ => .pure (by simp [hfirst, hq.extras])
      · exact worded_elements (worded_element hg) _ _ (by simpa using hfirst)

theorem worded_squareBrackets (p : Peek) : Worded (squareBrackets g p) := by
  refine .bind_any fun _ => .peek fun q hq => ?_
  split
  · exact .bind_any fun _ => .pure (by simp [hq.extras])
  · refine (wordedAll_led _ (worded_element hg _)).bind fun first hfirst => .bind_any fun q => ?_
    split
    · exact worded_comprehension hg _ _ (by simpa using hfirst)
    · exact worded_elements (worded_element hg) _ _ (by simpa using hfirst)

theorem worded_doubleSplat (p : Peek) : Worded (doubleSplat g p) := by
  refine .bind_any fun _ => (hg.led_expression 0 _ _ _).bind fun value hvalue => ?_
  exact .pure (by simpa using hvalue)

theorem worded_dictionaryEntry (start : Expect) : Worded (dictionaryEntry g start) := by
  refine .bind_any fun p => ?_
  split
  · exact worded_doubleSplat hg p
  · refine (hg.expression 0 _ _).bind fun key hkey => ?_
    refine (wordedAll_operator _ _).bind fun colon hcolon => ?_
    refine (hg.led_expression 0 _ _ _).bind fun value hvalue => ?_
    exact .pure (by simp [hkey, hcolon, hvalue])

theorem worded_dictionaryRest {opening : List Expr} (hopening : AllWords (namesAll opening)) :
    Worded (dictionaryRest g opening) :=
  worded_elements (worded_dictionaryEntry hg) _ _ hopening

theorem worded_braces (p : Peek) : Worded (braces g p) := by
  refine .bind_any fun _ => .peek fun q hq => ?_
  split
  · exact .bind_any fun _ => .pure (by simp [hq.extras])
  split
  · refine .bind_any fun _ => (wordedAll_operator _ _).bind fun close hclose => ?_
    exact .pure (by simp [hq.extras, hclose])
  split
  · refine .lead fun extras hextras => (worded_doubleSplat hg q).bind fun entry hentry => ?_
    exact worded_dictionaryRest hg (by simp [hextras, hentry])
  · refine (wordedAll_led _ (worded_element hg _)).bind fun first hfirst => .peek fun q hq => ?_
    split
    · refine .bind_any fun _ => (hg.led_expression 0 _ _ _).bind fun value hvalue => ?_
      -- the extras in front of the key stand outside the pair
      have hsplit : first.dropLast ++ first.drop (first.length - 1) = first := by
        rw [List.dropLast_eq_take, List.take_append_drop]
      rw [← hsplit, namesAll_append, allWords_append] at hfirst
      refine .bind_any fun q' => ?_
      split
      · exact worded_comprehension hg _ _ (by simp [hfirst, hq.extras, hvalue])
      · exact worded_dictionaryRest hg (by simp [hfirst, hq.extras, hvalue])
    · split
      · exact worded_comprehension hg _ _ (by simpa using hfirst)
      · exact worded_elements (worded_element hg) _ _ (by simpa using hfirst)

/-! ### Calls, subscripts and attributes -/

theorem worded_argument (start : Expect) : Worded (argument g start) := by
  refine .peek fun p hp => ?_
  split
  · refine .bind_any fun _ => (hg.led_expression 0 _ _ _).bind fun value hvalue => ?_
    exact .pure (by simpa using hvalue)
  · exact worded_doubleSplat hg p
  · rename_i text htoken
    have hq := p.after.worded_peek .closing
    dsimp only
    split
    · refine .bind_any fun _ => (hg.led_expression 0 _ _ _).bind fun value hvalue => ?_
      exact .pure (by simp [hp.word text htoken, hq.extras, hvalue])
    · exact hg.expression 0 _ _
  · exact hg.expression 0 _ _

theorem worded_arguments (generator : Bool) (p : Peek) : Worded (arguments g generator p) := by
  refine .bind_any fun _ => .peek fun q hq => ?_
  split
  · exact .bind_any fun _ => .pure (by simp [hq.extras])
  split
  · refine .bind_any fun _ => (wordedAll_operator _ _).bind fun close hclose => ?_
    exact .pure (by simp [hq.extras, hclose])
  · refine (wordedAll_led _ (worded_argument hg _)).bind fun first hfirst => .bind_any fun q => ?_
    split
    · split
      · exact .failure
      · exact .failure
      · split
        · exact worded_comprehension hg _ _ (by simpa using hfirst)
        · exact .failure
      · exact .failure
    · exact worded_elements (worded_argument hg) _ _ (by simpa using hfirst)

theorem wordedAll_sliceBound : WordedAll (sliceBound g) := by
  refine .bind_any fun p => ?_
  split
  · exact hg.led_expression 0 _ _ _
  · exact .pure allWords_nil

theorem worded_sliceRest {opening : List Expr} (hopening : AllWords (namesAll opening))
    {colon : Peek} (hcolon : namesAll colon.extras = []) : Worded (sliceRest g opening colon) := by
  refine .bind_any fun _ => (wordedAll_sliceBound hg).bind fun upper hupper => ?_
  refine .peek fun p hp => ?_
  split
  · refine .bind_any fun _ => (wordedAll_sliceBound hg).bind fun step hstep => ?_
    exact .pure (by simp [hopening, hcolon, hupper, hp.extras, hstep])
  · exact .pure (by simp [hopening, hcolon, hupper])

theorem worded_subscriptItem (start : Expect) : Worded (subscriptItem g start) := by
  refine .bind_any fun p => ?_
  split
  · exact worded_sliceRest hg (by simp) rfl
  · refine (hg.expression 0 _ _).bind fun first hfirst => .peek fun q hq => ?_
    split
    · exact worded_sliceRest hg (by simpa using hfirst) hq.extras
    · exact .pure hfirst

theorem wordedAll_subscriptItems : WordedAll (subscriptItems g) := by
  refine (wordedAll_led _ (worded_subscriptItem hg _)).bind fun first hfirst => ?_
  refine (wordedAll_moreElements (worded_subscriptItem hg) _).bind fun more hmore => ?_
  refine (wordedAll_operator _ _).bind fun close hclose => ?_
  exact .pure (by simp [hfirst, hmore, hclose])

theorem yields_trailer (f : Follow) :
    Yields (fun item => ∀ found ∈ item, AllWords (namesAll found.2)) (trailer g f) := by
  refine .peek fun p hp => ?_
  split
  · refine .bind_any fun _ => (wordedAll_name _).bind fun found hfound => ?_
    exact .pure (by simp [hp.extras, hfound])
  · refine .bind_any fun _ => (wordedAll_subscriptItems hg).bind fun items hitems => ?_
    exact .pure (by simp [hp.extras, hitems])
  · refine (worded_arguments hg true p).bind fun args hargs => ?_
    exact .pure (by simp [hp.extras, hargs])
  · exact .pure (by simp)

theorem yields_trailers (f : Follow) :
    Yields (fun trailers => ∀ found ∈ trailers, AllWords (namesAll found.2)) (trailers g f) :=
  .many (yields_trailer hg f)

omit hg in
theorem allWords_applyTrailers {first : Expr} (hfirst : AllWords first.names)
    {trailers : List (Form × List Expr)}
    (htrailers : ∀ found ∈ trailers, AllWords (namesAll found.2)) :
    AllWords (applyTrailers first trailers).names := by
  induction trailers generalizing first with
  | nil => exact hfirst
  | cons trailer trailers ih =>
    rw [List.forall_mem_cons] at htrailers
    rw [applyTrailers, List.foldl_cons, ← applyTrailers]
    exact ih (by simp [hfirst, htrailers.1]) htrailers.2

theorem worded_atom (start : Expect) (f : Follow) : Worded (atom g start f) := by
  refine .peek fun p hp => ?_
  split
  · exact .bind_any fun _ => .pure allWords_nil
  · exact .bind_any fun _ => .pure allWords_nil
  · exact .bind_any fun _ => .pure allWords_nil
  · rename_i htoken
    split
    · exact .bind_any fun _ => .pure (by simp [hp.word _ htoken])
    · exact .failure
  · refine .bind_any fun _ => .pure ?_
    split <;> exact allWords_nil
  · exact worded_strings hg f p _
  · exact .bind_any fun _ => .pure allWords_nil
  · exact worded_parentheses hg p
  · exact worded_squareBrackets hg p
  · exact worded_braces hg p
  · exact .failure

theorem worded_operandRule (start : Expect) (f : Follow) : Worded (operandRule g start f) :=
  (worded_atom hg start f).bind fun _ hfirst => (yields_trailers hg f).bind fun _ htrailers =>
    .pure (allWords_applyTrailers hfirst htrailers)

/-! ### Arithmetic -/

theorem worded_starredOperand (f : Follow) (p : Peek) : Worded (starredOperand g f p) := by
  refine .bind_any fun _ => .lead fun extras hextras => ?_
  refine (worded_atom hg _ f).bind fun first hfirst => ?_
  refine (yields_trailers hg f).bind fun trailers htrailers => ?_
  dsimp only
  split
  · generalize trailers.length -
      (trailers.reverse.takeWhile fun trailer => trailer.1 = .call).length = n
    -- the star takes the trailers up to the calls at their end
    have hplace : AllWords (applyTrailers first (trailers.take n)).names :=
      allWords_applyTrailers hfirst fun found h => htrailers found (List.mem_of_mem_take h)
    refine .pure (allWords_applyTrailers (by simp [hextras, hplace]) fun found h => ?_)
    exact htrailers found (List.mem_of_mem_drop h)
  · exact .failure

theorem worded_signedOperand (start : Expect) (f : Follow) : Worded (signedOperand g start f) := by
  refine .bind_any fun p => ?_
  have hsign : ∀ (kind : Form) (e : Expect), Worded (do
      take p
      let value ← led e (g.arithmetic (unaryStrength + 1) e f)
      return ofChildren kind (p.leaf :: value)) := fun kind e =>
    .bind_any fun _ => (hg.led_arithmetic _ e e f).bind fun value hvalue =>
      .pure (by simpa using hvalue)
  split
  · exact hsign .unary .operand
  · exact hsign .unary .operand
  · exact hsign .unary .operand
  · exact worded_starredOperand hg f p
  · split
    · exact hsign .await f.expectOperand
    · exact worded_operandRule hg start f
  · exact worded_operandRule hg start f

theorem worded_arithmeticRest (least : Nat) (f : Follow) {left : Expr}
    (hleft : AllWords left.names) (fuel : Nat) : Worded (arithmeticRest g least f left fuel) := by
  induction fuel generalizing left with
  | zero => exact .failure
  | succ fuel ih =>
    refine .peek fun p hp => ?_
    split
    · split
      · split
        · refine .bind_any fun _ => (hg.led_arithmetic _ _ _ f).bind fun value hvalue => ?_
          exact ih (by simp [hleft, hp.extras, hvalue])
        · exact .pure hleft
      · exact .pure hleft
    · exact .pure hleft

theorem worded_arithmeticRule (least : Nat) (start : Expect) (f : Follow) :
    Worded (arithmeticRule g least start f) :=
  (worded_signedOperand hg start f).bind fun _ hfirst => .bind_any fun _ =>
    worded_arithmeticRest hg least f hfirst _

/-! ### Comparisons and words -/

omit hg in
theorem wordedStep_comparisonOperator (f : Follow) : WordedStep (comparisonOperator f) := by
  refine .peek fun p hp => ?_
  split
  · split
    · exact .bind_any fun _ => .pure (by simp [hp.extras])
    · exact .pure (by simp)
  · exact .bind_any fun _ => .pure (by simp [hp.extras])
  · refine .bind_any fun _ => .peek fun q hq => ?_
    split
    · exact .bind_any fun _ => .pure (by simp [hp.extras, hq.extras])
    · exact .pure (by simp [hp.extras])
  · refine .bind_any fun _ => (wordedAll_keyword _ _).bind fun word hword => ?_
    exact .pure (by simp [hp.extras, hword])
  · exact .pure (by simp)

theorem worded_comparison (start : Expect) (f : Follow) : Worded (comparison g start f) := by
  refine (worded_arithmeticRule hg _ start f).bind fun first hfirst => ?_
  refine (yields_flatten ((wordedStep_comparisonOperator f).bind fun item hitem => ?_)).bind
    fun more hmore => ?_
  · split
    · refine (hg.led_arithmetic _ _ _ f).bind fun value hvalue => ?_
      exact .pure (by simp [hitem _ rfl, hvalue])
    · exact .pure (by simp)
  · split
    · exact .pure hfirst
    · exact .pure (by simp [hfirst, hmore])

theorem worded_expressionHead {lambda : Expect → Follow → Rule Expr}
    (hlambda : ∀ e f, Worded (lambda e f)) (start : Expect) (f : Follow) :
    Worded (expressionHead g lambda start f) := by
  refine .peek fun p hp => ?_
  split
  · refine .bind_any fun _ => (hg.led_expression _ _ _ f).bind fun value hvalue => ?_
    exact .pure (by simpa using hvalue)
  · exact hlambda start f
  · rename_i text _ _ htoken
    have hq := p.after.worded_peek f.expect
    dsimp only
    split
    · refine .bind_any fun _ => (hg.led_expression _ _ _ f).bind fun value hvalue => ?_
      exact .pure (by simp [hp.word text htoken, hq.extras, hvalue])
    · exact worded_comparison hg start f
  · exact worded_comparison hg start f

theorem worded_expressionRest (least : Nat) (f : Follow) {left : Expr}
    (hleft : AllWords left.names) (fuel : Nat) : Worded (expressionRest g least f left fuel) := by
  induction fuel generalizing left with
  | zero => exact .failure
  | succ fuel ih =>
    refine .peek fun p hp => ?_
    have hjoin : ∀ (holds : Prop) [Decidable holds] (form : Form) (level : Nat), Worded (
        if holds then do
          take p
          let value ← led .operand (g.expression level .operand f)
          expressionRest g least f (.ofChildren form (left :: p.pieces ++ value)) fuel
        else return left) := by
      intro holds _ form level
      split
      · refine .bind_any fun _ => (hg.led_expression level _ _ f).bind fun value hvalue => ?_
        exact ih (by simp [hleft, hp.extras, hvalue])
      · exact .pure hleft
    dsimp only
    split
    · exact hjoin _ .boolean notLevel
    · exact hjoin _ .boolean andLevel
    · exact hjoin _ .asPattern orLevel
    · split
      · refine .bind_any fun _ => (hg.led_expression 0 _ _ _).bind fun condition hcondition => ?_
        refine (wordedAll_keyword _ _).bind fun word hword => ?_
        refine (hg.led_expression 0 _ _ f).bind fun value hvalue => ?_
        exact ih (by simp [hleft, hp.extras, hcondition, hword, hvalue])
      · exact .pure hleft
    · exact .pure hleft

theorem worded_expressionRule {lambda : Expect → Follow → Rule Expr}
    (hlambda : ∀ e f, Worded (lambda e f)) (least : Nat) (start : Expect) (f : Follow) :
    Worded (expressionRule g lambda least start f) :=
  (worded_expressionHead hg hlambda start f).bind fun _ hfirst => .bind_any fun _ =>
    worded_expressionRest hg least f hfirst _

/-! ### Types -/

theorem worded_typeParameters (p : Peek) : Worded (typeParameters g p) := by
  refine .bind_any fun _ => (wordedAll_led _ (hg.type true _ _)).bind fun first hfirst => ?_
  exact worded_elements (fun e => hg.type true e _) _ _ (by simpa using hfirst)

theorem yields_typeHead (start : Expect) (f : Follow) :
    Yields (fun found => AllWords (namesAll found.1)) (typeHead g start f) := by
  refine .peek fun p hp => ?_
  have hplain : Yields (fun found => AllWords (namesAll found.1))
      (do return ([← g.expression 0 start f], false)) :=
    (hg.expression 0 start f).bind fun e he => .pure (by simpa using he)
  dsimp only
  split
  · rename_i text htoken
    have hq := p.after.worded_peek f.expect
    split
    · refine (worded_typeParameters hg _).bind fun arguments harguments => .pure ?_
      simp [hp.word text htoken, hq.extras, harguments]
    · exact hplain
  · refine .bind_any fun _ => (wordedAll_name _).bind fun found hfound => ?_
    exact .pure (by simpa using hfound)
  · have hq := p.after.worded_peek .operand
    split
    · rename_i text hword
      split
      · exact .bind_any fun _ => .pure (by simp [hq.extras, hq.word text hword])
      · exact hplain
    · exact hplain
  · exact hplain

theorem worded_typeRest (bounded : Bool) (f : Follow) {pieces : List Expr}
    (hpieces : AllWords (namesAll pieces)) (closed : Bool) (fuel : Nat) :
    Worded (typeRest g bounded f pieces closed fuel) := by
  induction fuel generalizing pieces closed with
  | zero => exact .failure
  | succ fuel ih =>
    refine .peek fun p hp => ?_
    split
    · refine .bind_any fun _ => (wordedAll_name _).bind fun found hfound => ?_
      exact ih (by simp [hpieces, hp.extras, hfound]) true
    · split
      · refine .bind_any fun _ => (wordedAll_led _ (hg.type false _ f)).bind fun other hother => ?_
        exact ih (by simp [hpieces, hp.extras, hother]) true
      · split
        · refine .bind_any fun _ => (wordedAll_led _ (hg.type true _ f)).bind fun bound hbound => ?_
          exact .pure (by simp [hpieces, hp.extras, hbound])
        · exact .pure (by simpa using hpieces)

theorem worded_typeRule (bounded : Bool) (start : Expect) (f : Follow) :
    Worded (typeRule g bounded start f) :=
  (yields_typeHead hg start f).bind fun _ hfound => .bind_any fun _ =>
    worded_typeRest hg bounded f hfound _ _

/-! ### Lambdas -/

theorem wordedAll_defaultValue (f : Follow) {p : Peek} (hp : p.Worded) :
    WordedAll (defaultValue g f p) :=
  .bind_any fun _ => (hg.led_expression 0 _ _ f).bind fun _ hvalue =>
    .pure (by simp [hp.extras, hvalue])

theorem yields_typeBehind (f : Follow) {p : Peek} (hp : p.Worded) :
    Yields (fun found => AllWords (namesAll found.2)) (typeBehind g f p) :=
  .bind_any fun _ => .lead fun _ hextras => (hg.type true _ f).bind fun _ htype =>
    .pure (by simp [hp.extras, hextras, htype])

theorem yields_starredParam (typed : Bool) (f : Follow) (target : ParamTarget) (p : Peek) :
    Yields (fun found => AllWords (namesAll found.2)) (starredParam g typed f target p) := by
  refine .lead fun extras hextras => (hg.operand _ f).bind fun place hplace => ?_
  split
  · refine .bind_any fun r => .peek fun q hq => ?_
    split
    · refine (yields_typeBehind hg f hq).bind fun found hfound => ?_
      exact .pure (by simp [hextras, hplace, hfound])
    · exact .pure (by simp [hextras, hplace])
  · exact .failure

theorem yields_paramItem (typed : Bool) (start : Expect) (f : Follow) :
    Yields (fun found => AllWords (namesAll found.2)) (paramItem g typed start f) := by
  refine .peek fun p hp => ?_
  split
  · exact .bind_any fun _ => .pure (by simp)
  · refine .bind_any fun _ => .bind_any fun q => ?_
    split
    · exact yields_starredParam hg typed f .star p
    · exact .pure (by simp)
  · exact .bind_any fun _ => yields_starredParam hg typed f .doubleStar p
  · refine (worded_parentheses hg p).bind fun tuple htuple => ?_
    split
    · refine .bind_any fun r => .peek fun q hq => ?_
      split
      · refine (wordedAll_defaultValue hg f hq).bind fun value hvalue => ?_
        exact .pure (by simp [htuple, hvalue])
      · exact .pure (by simp [htuple])
    · exact .failure
  · rename_i text htoken
    have hname := hp.word text htoken
    split
    · refine .bind_any fun _ => .peek fun q hq => ?_
      split
      · refine (yields_typeBehind hg f hq).bind fun found hfound => .peek fun q hq => ?_
        split
        · refine (wordedAll_defaultValue hg f hq).bind fun value hvalue => ?_
          exact .pure (by simp [hname, hfound, hvalue])
        · exact .pure (by simp [hname, hfound])
      · split
        · refine (wordedAll_defaultValue hg f hq).bind fun value hvalue => ?_
          exact .pure (by simp [hname, hvalue])
        · exact .pure (by simp [hname])
    · exact .failure
  · exact .failure

theorem yields_paramItems (typed : Bool) (f : Follow) (closer : String) :
    Yields (fun found => AllWords (namesAll found.2)) (paramItems g typed f closer) := by
  have hentry : Yields (fun found => AllWords (namesAll found.2)) (do
      let extras ← lead f.expect
      let found ← paramItem g typed f.expect f
      return (extras.flatMap extraItem ++ [found.1], extras ++ found.2)) :=
    .lead fun extras hextras => (yields_paramItem hg typed _ f).bind fun found hfound =>
      .pure (by simp [hextras, hfound])
  refine .bind_any fun p => ?_
  dsimp only
  split
  · exact .pure allWords_nil
  · refine hentry.bind fun first hfirst => ?_
    refine .bind (.many (P := fun found => AllWords (namesAll found.2)) (.peek fun p hp => ?_))
      fun more hmore => ?_
    · split
      · refine .bind_any fun _ => .bind_any fun q => ?_
        split
        · exact .pure (by simp [hp.extras])
        · exact hentry.bind fun next hnext => .pure (by simp [hp.extras, hnext])
      · exact .pure (by simp)
    · refine .pure ?_
      rw [List.flatMap_def]
      refine allWords_flatten (List.forall_mem_map.mpr ?_)
      exact List.forall_mem_cons.mpr ⟨hfirst, hmore⟩

theorem worded_lambdaRule (start : Expect) (f : Follow) : Worded (lambdaRule g start f) := by
  refine (wordedAll_keyword _ _).bind fun word hword => ?_
  refine (yields_paramItems hg false _ _).bind fun found hfound => ?_
  refine (wordedAll_operator _ _).bind fun colon hcolon => ?_
  refine (hg.led_expression 0 _ _ f).bind fun body hbody => ?_
  exact .pure (by simp [hword, hfound, hcolon, hbody])

end

/-- **Names in expressions and types are words**, however deep the rules call each other. -/
theorem readsWords_grammar (depth : Nat) : ReadsWords (grammar depth) := by
  induction depth with
  | zero =>
    exact ⟨fun _ _ _ => .failure, fun _ _ _ => .failure, fun _ _ => .failure,
      fun _ _ _ => .failure⟩
  | succ depth ih =>
    exact ⟨worded_expressionRule ih (worded_lambdaRule ih), worded_arithmeticRule ih,
      worded_operandRule ih, worded_typeRule ih⟩

end Stub

end StubLayers
