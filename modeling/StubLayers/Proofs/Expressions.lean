import StubLayers.Proofs.Rules
import StubLayers.Stub.Grammar.Type

/-!
# Expressions keep their lexemes

Whatever a rule for expressions reads, the lexemes of the tree are those of the text that it has
passed, in order, with nothing but layout left out.  There is one lemma for each rule.

* `Faithful g`: the rules that the others call do so.
* `OpensWith p e s`: the expression `e` is what has been read from the token `p` on.
* `ensures_stringLiteral`: a string literal is one lexeme, the text between its quotes included.
* `ensures_operandRule`, `spells_arithmeticRule`, `spells_expressionRule`: one round of the rules.
-/

namespace StubLayers.Stub

open Rule Expr

/-! ### Patterns -/

mutual

/-- A pattern has the lexemes of the expression it was written as. -/
theorem lexemes_of_pattern? {e pattern : Expr} (h : pattern? e = some pattern) :
    pattern.lexemes = e.lexemes := by
  rw [pattern?.eq_def] at h
  split at h
  · exact Option.some.inj h ▸ rfl
  · exact Option.some.inj h ▸ rfl
  · exact Option.some.inj h ▸ rfl
  · obtain ⟨patterns, hpatterns, rfl⟩ := Option.map_eq_some_iff.mp h
    simpa using lexemesAll_of_patterns? hpatterns
  · obtain ⟨patterns, hpatterns, rfl⟩ := Option.map_eq_some_iff.mp h
    simpa using lexemesAll_of_patterns? hpatterns
  · obtain ⟨patterns, hpatterns, rfl⟩ := Option.map_eq_some_iff.mp h
    simpa using lexemesAll_of_patterns? hpatterns
  · split at h
    · split at h
      · obtain rfl := Option.some.inj h
        simp
      · contradiction
    · contradiction
  · contradiction

theorem lexemesAll_of_patterns? {es patterns : List Expr} (h : patterns? es = some patterns) :
    lexemesAll patterns = lexemesAll es := by
  rw [patterns?.eq_def] at h
  split at h
  · exact Option.some.inj h ▸ rfl
  · obtain ⟨patterns, hpatterns, rfl⟩ := Option.map_eq_some_iff.mp h
    simpa using lexemesAll_of_patterns? hpatterns
  · obtain ⟨patterns, hpatterns, rfl⟩ := Option.map_eq_some_iff.mp h
    simpa using lexemesAll_of_patterns? hpatterns
  · obtain ⟨patterns, hpatterns, rfl⟩ := Option.map_eq_some_iff.mp h
    simpa using lexemesAll_of_patterns? hpatterns
  · obtain ⟨first, hfirst, h⟩ := Option.bind_eq_some_iff.mp h
    obtain ⟨patterns, hpatterns, h⟩ := Option.bind_eq_some_iff.mp h
    obtain rfl := Option.some.inj h
    rw [lexemesAll_cons, lexemesAll_cons, lexemes_of_pattern? hfirst,
      lexemesAll_of_patterns? hpatterns]

end

/-! ### What the rules are to do -/

/-- The rules for expressions and types hand over the lexemes that they pass; an operand does not
begin with a star. -/
structure Faithful (g : Grammar) : Prop where
  expression : ∀ least e f, Spells lexemes (g.expression least e f)
  arithmetic : ∀ least e f, Spells lexemes (g.arithmetic least e f)
  operand : ∀ e f, Spells lexemes (g.operand e f)
  unstarred : ∀ e f r, Ensures r (g.operand e f) fun x _ => Unstarred x.lexemes
  type : ∀ bounded e f, Spells lexemes (g.type bounded e f)

/-- What has been read from the token `p` on: its text, and the lexemes behind it up to `s`. -/
def OpensWith (p : Peek) (e : Expr) (s : Reader) : Prop :=
  ∃ more, e.lexemes = p.text :: more ∧ Passes more p.after.rest s.rest

namespace OpensWith

variable {p : Peek} {e : Expr} {r s : Reader}

theorem intro {more : List String} (h : Passes more p.after.rest s.rest)
    (he : e.lexemes = p.text :: more) : OpensWith p e s := ⟨more, he, h⟩

theorem passes_before (h : OpensWith p e s) (hp : p.Ahead r)
    (ht : p.token.lexeme?.isSome = true) : Passes e.lexemes p.before.rest s.rest := by
  obtain ⟨more, hlexemes, hmore⟩ := h
  rw [hlexemes]
  exact (hp.leaf_before ht).trans hmore

theorem passes (h : OpensWith p e s) (hp : p.Ahead r) (ht : p.token.lexeme?.isSome = true) :
    Passes e.lexemes r.rest s.rest :=
  hp.passes_before.gap (h.passes_before hp ht)

end OpensWith

section

variable {g : Grammar} (hg : Faithful g)

include hg

theorem ensures_moreExpressions (f : Follow) (pieces : List Expr) (comma : Bool) (fuel : Nat)
    (r : Reader) : Ensures r (moreExpressions g f pieces comma fuel) fun found s =>
      (found.2 = false → comma = false ∧ found.1 = pieces) ∧
      ∃ more, found.1 = pieces ++ more ∧ Passes (lexemesAll more) r.rest s.rest := by
  induction fuel generalizing pieces comma r with
  | zero => exact .failure
  | succ fuel ih =>
    refine .peek fun p hp => ?_
    split
    · rename_i hcomma
      have hpieces := hp.pieces (Peek.isSome_of_isOperator hcomma)
      refine .take (.peek fun q _ => ?_)
      split
      · refine (spells_led _ (hg.expression 0 _ f) p.after).bind fun next s hnext => ?_
        refine (ih _ true s).mono fun found t hfound => ?_
        obtain ⟨hlast, more, hmore, hpasses⟩ := hfound
        refine ⟨fun h => absurd (hlast h).1 (by simp), p.pieces ++ next ++ more, ?_, ?_⟩
        · simpa using hmore
        · simpa using hpieces.trans (hnext.trans hpasses)
      · exact .pure ⟨by simp, p.pieces, rfl, hpieces⟩
    · exact .pure ⟨fun h => ⟨h, rfl⟩, [], by simp, by simpa using .done⟩

theorem spells_expressions (start : Expect) (f : Follow) :
    Spells (fun found => lexemes found.2) (expressions g start f) := by
  intro r
  refine (hg.expression 0 start f r).bind fun first s hfirst => .get ?_
  refine (ensures_moreExpressions hg f [first] false _ s).bind fun found t hfound => ?_
  obtain ⟨hsingle, more, hmore, hpasses⟩ := hfound
  obtain ⟨pieces, comma⟩ := found
  refine .pure ?_
  cases comma with
  | true =>
    obtain rfl : pieces = [first] ++ more := hmore
    simpa using hfirst.trans hpasses
  | false =>
    obtain ⟨-, rfl⟩ : _ ∧ pieces = [first] := hsingle rfl
    obtain rfl : more = [] := by simpa using hmore
    simpa using hfirst.trans hpasses

theorem spells_yieldRule (start : Expect) (f : Follow) : Spells lexemes (yieldRule g start f) := by
  intro r
  refine (spells_keyword start "yield" r).bind fun word s hword => .peek fun p hp => ?_
  split
  · rename_i hfrom
    have hpieces := hp.pieces (Peek.isSome_of_isWord hfrom)
    refine .take ((spells_led _ (hg.expression 0 _ f) p.after).bind fun value t hvalue => .pure ?_)
    simpa using hword.trans (hpieces.trans hvalue)
  · split
    · refine .lead fun extras t hextras => ?_
      refine (spells_expressions hg _ f t).bind fun found u hfound => .pure ?_
      simpa using hword.trans (hextras.passes.trans hfound)
    · exact .pure (by simpa using hword)

/-! ### Strings -/

omit hg in
theorem ensures_formatText {interpolation : Rule (List Expr)}
    (h : ∀ r, Ensures r interpolation (Onward r)) (parts : List Expr) (fuel : Nat) (r : Reader) :
    Ensures r (formatText interpolation parts fuel) (Onward r) := by
  induction fuel generalizing parts r with
  | zero => exact .failure
  | succ fuel ih =>
    refine .get ?_
    split
    · exact .failure
    · split
      · exact .pure (List.suffix_refl _)
      · split
        · exact (h r).bind fun inner s hs => (ih _ s).mono fun _ t ht => ht.trans hs
        · exact .set ((ih _ _).mono fun _ t ht => ht.trans r.suffix_step)

theorem ensures_interpolation (depth : Nat) (r : Reader) :
    Ensures r (interpolation g depth) (Onward r) := by
  induction depth generalizing r with
  | zero => exact .failure
  | succ depth ih =>
    refine .get (.set (.peek fun p _ => ?_))
    extract_lets rest
    have hrest : ∀ value s, s.rest <:+ r.rest → Ensures s (rest value) (Onward r) := by
      intro value s hs
      refine .peek fun p hp => ?_
      extract_lets close format conversion
      -- the steps behind the value, from the last one on
      have hclose : ∀ inner s, s.rest <:+ r.rest → Ensures s (close inner) (Onward r) :=
        fun inner s hs => (spells_operator _ _ s).bind fun _ t ht => .pure (ht.suffix.trans hs)
      have hformat : ∀ s, s.rest <:+ r.rest → Ensures s (format ()) (Onward r) := by
        refine fun s hs => .peek fun p hp => ?_
        split
        · refine .take (.get ((ensures_formatText ih _ _ _).bind fun inner t ht => ?_))
          exact hclose _ _ (List.IsSuffix.trans ht (hp.suffix.trans hs))
        · exact hclose _ _ hs
      have hconversion : ∀ s, s.rest <:+ r.rest → Ensures s (conversion ()) (Onward r) := by
        refine fun s hs => .peek fun p hp => ?_
        split
        · exact .take (hformat _ (hp.suffix.trans hs))
        · exact hformat _ hs
      split
      · exact .take (hconversion _ (hp.suffix.trans hs))
      · exact hconversion _ hs
    split
    · exact (spells_yieldRule hg _ _ _).bind fun value s hvalue =>
        hrest _ _ (hvalue.suffix.trans r.suffix_step)
    · refine .lead fun _ s hs => (spells_expressions hg _ _ s).bind fun found t hfound => ?_
      exact hrest _ _ (hfound.suffix.trans (hs.gap.suffix.trans r.suffix_step))

theorem ensures_stringSpecial (r : Reader) : Ensures r (stringSpecial g) (Onward r) := by
  refine .get ?_
  split
  · exact .set (.pure (r.suffix_advance _))
  · have hblanks := r.suffix_skipWhile isBlank
    dsimp only
    split
    · rename_i hextra
      exact .set (.pure ((passes_of_extraAt hextra).1.suffix.trans hblanks))
    · refine .set ?_
      split
      · exact (ensures_interpolation hg _ _).mono fun _ s hs => List.IsSuffix.trans hs hblanks
      · exact .failure

theorem ensures_stringBody (q : Quote) (parts : List Expr) (fuel : Nat) (r : Reader) :
    Ensures r (stringBody g q parts fuel) (Onward r) := by
  induction fuel generalizing parts r with
  | zero => exact .failure
  | succ fuel ih =>
    have hgo : ∀ parts s, s.rest <:+ r.rest → Ensures s (stringBody g q parts fuel) (Onward r) :=
      fun parts s hs => (ih parts s).mono fun _ t ht => List.IsSuffix.trans ht hs
    refine .get ?_
    dsimp only
    split
    · split
      · exact .set (hgo _ _ (r.suffix_advance 2))
      · split
        · exact (ensures_interpolation hg _ r).bind fun inner s hs => hgo _ s hs
        · exact .failure
    · split
      · exact .set (hgo _ _ (r.suffix_advance _))
      · exact .set (.pure (r.suffix_advance _))
      · exact (ensures_stringSpecial hg r).bind fun inner s hs => hgo _ s hs

omit hg in
/-- Up to the closing quote of a plain string all is text. -/
theorem stretch_plain {q : Quote} (hinterpolated : q.interpolated = false)
    (htriple : q.triple = false) (hmark : q.delimiter ∈ quoteMarks) {body : List Char}
    (hbody : ∀ c ∈ body, c ≠ q.delimiter ∧ c ≠ '\\' ∧ c ≠ '\n' ∧ c ≠ '\x00') (filled : Bool)
    (size : Nat) (more : List Char) :
    Quote.stretch q filled 0 size (body ++ q.delimiter :: more) =
      if filled || !body.isEmpty then .text (size + body.length) else .close (size + 1) := by
  induction body generalizing filled size with
  | nil =>
    have hspecial : ∀ c ∈ quoteMarks, c ≠ '\x00' ∧ c ≠ '\\' := forall_mem_of_all (by decide)
    obtain ⟨hzero, hslash⟩ := hspecial _ hmark
    simp [Quote.stretch, hinterpolated, htriple, hzero, hslash]
  | cons c body ih =>
    obtain ⟨⟨hdelimiter, hslash, hline, hzero⟩, hbody⟩ := List.forall_mem_cons.mp hbody
    rw [List.cons_append, Quote.stretch.eq_def]
    simp [hinterpolated, hdelimiter, hslash, hline, hzero, ih hbody, Nat.add_assoc, Nat.add_comm 1]

omit hg in
/-- **A plain string is read up to its closing quote**, whatever stands behind it. -/
theorem ensures_stringBody_plain {q : Quote} (hinterpolated : q.interpolated = false)
    (htriple : q.triple = false) (hmark : q.delimiter ∈ quoteMarks) {body more : List Char}
    (hbody : ∀ c ∈ body, c ≠ q.delimiter ∧ c ≠ '\\' ∧ c ≠ '\n' ∧ c ≠ '\x00')
    (parts : List Expr) (fuel : Nat) {r : Reader} (hr : r.rest = body ++ q.delimiter :: more) :
    Ensures r (stringBody g q parts fuel) fun _ s => s.rest = more := by
  induction fuel generalizing body r with
  | zero => exact .failure
  | succ fuel ih =>
    refine .get ?_
    simp only [hinterpolated, Bool.false_and, Bool.false_eq_true, if_false]
    rw [hr, stretch_plain hinterpolated htriple hmark hbody]
    cases body with
    | nil =>
      refine .set (.pure ?_)
      show (r.advance 1).rest = more
      rw [Reader.rest_advance, hr]
      rfl
    | cons c body =>
      -- the text is taken at once, and the closing quote is left
      refine .set (ih (List.forall_mem_nil _) ?_)
      rw [Reader.rest_advance, hr, Nat.zero_add, List.drop_left]
      rfl

omit hg in
/-- The text from the opening of a string to its end does not go on behind a plain string. -/
theorem isString_of_stringBody {p : Peek} {q : Quote} {r s : Reader} {parts : List Expr}
    {fuel : Nat} (hp : p.Ahead r) (hq : p.token = .quote q) (hs : s.rest <:+ p.after.rest)
    (hread : stringBody g q [] fuel p.after = some (parts, s)) :
    IsString (p.text ++ p.after.textTo s) := by
  refine ⟨(hp.token.isQuoted hq).append _, ?_⟩
  intro mark body t c back hplain htext
  by_contra hmore
  have hall : p.text.toList ++ p.after.rest = t.toList ++ c :: (back ++ s.rest) := by
    rw [← Reader.toList_textTo hs, ← List.append_assoc, ← String.toList_append, htext]
    simp
  obtain ⟨q', n, hopening, hdrop, rfl, hinterpolated, htriple⟩ :=
    opening?_plain (back ++ s.rest) hplain hmore
  obtain ⟨n', hopening', hdrop'⟩ := hp.opening q hq
  rw [hall, hopening] at hopening'
  obtain ⟨rfl, rfl⟩ := Prod.mk.inj (Option.some.inj hopening')
  rw [hall, hdrop] at hdrop'
  obtain ⟨-, -, -, hmark, hbody⟩ := hplain
  have hend := ensures_stringBody_plain hinterpolated htriple hmark hbody [] fuel hdrop'
    parts s hread
  have hlength := congrArg List.length hend
  rw [List.length_cons, List.length_append] at hlength
  omega

/-- **A string literal** is the text from its opening to its closing quote, and one lexeme. -/
theorem ensures_stringLiteral {p : Peek} {q : Quote} {r : Reader} (hp : p.Ahead r)
    (hq : p.token = .quote q) (r' : Reader) :
    Ensures r' (stringLiteral g p q) fun e s =>
      Passes e.lexemes p.before.rest s.rest ∧ Unstarred e.lexemes := by
  have hbody : Ensures p.after (stringBody g q [] (p.after.left + 1)) fun _ s =>
      s.rest <:+ p.after.rest ∧ IsString (p.text ++ p.after.textTo s) := by
    intro parts s hread
    have hs := ensures_stringBody hg q [] _ p.after parts s hread
    exact ⟨hs, isString_of_stringBody hp hq hs hread⟩
  refine .take (hbody.bind fun parts s hs => .get (.pure ?_))
  obtain ⟨hs, hstring⟩ := hs
  have htext : p.text.toList ++ p.after.rest =
      (p.text ++ p.after.textTo s).toList ++ s.rest := by
    rw [String.toList_append, List.append_assoc, Reader.toList_textTo hs]
  have hgap := hp.text
  rw [htext] at hgap
  rw [lexemes_literal]
  exact ⟨hgap.gap (.single (.string hstring)), unstarred_of_isQuoted hstring.quoted⟩

theorem ensures_strings {p : Peek} {q : Quote} {r : Reader} (hp : p.Ahead r)
    (hq : p.token = .quote q) (f : Follow) (r' : Reader) :
    Ensures r' (strings g f p q) fun e s =>
      Passes e.lexemes r.rest s.rest ∧ Unstarred e.lexemes := by
  refine (ensures_stringLiteral hg hp hq r').bind fun first s hfirst => ?_
  obtain ⟨hfirst, hunstarred⟩ := hfirst
  refine .bind (spells_many (f := lexemesAll) (fun r => ?_) s) fun more t hmore => ?_
  · refine .peek fun p hp => ?_
    split
    · rename_i q hq
      refine (ensures_stringLiteral hg hp hq r).bind fun next s hnext => .pure ?_
      simpa using hp.before.trans hnext.1
    · exact .pure .done
  · have hall := hp.passes_before.gap (hfirst.trans hmore)
    split
    · exact .pure ⟨by simpa using hall, hunstarred⟩
    · exact .pure ⟨by simpa using hall, by simpa using hunstarred.append _⟩

/-! ### Loops and comprehensions -/

theorem spells_loopTarget (start : Expect) : Spells lexemes (loopTarget g start) := by
  intro r
  refine .peek fun p hp => ?_
  split
  · rename_i hstar
    have hleaf := hp.leaf (Peek.isSome_of_isOperator hstar)
    refine .take (.lead fun extras s hextras => ?_)
    refine (hg.operand _ _ s).bind fun place t hplace => ?_
    split
    · exact .pure (by simpa using hleaf.trans (hextras.passes.trans hplace))
    · exact .failure
  · refine (hg.operand _ _ r).bind fun expr s hexpr => ?_
    split
    · rename_i pattern hpattern
      refine .pure ?_
      rwa [lexemes_of_pattern? hpattern]
    · exact .failure

theorem spells_loopTargets : Spells lexemesAll (loopTargets g) := by
  intro r
  refine (spells_led _ (spells_loopTarget hg _) r).bind fun first s hfirst => ?_
  refine .bind (spells_many (f := lexemesAll) (fun r => ?_) s) fun more t hmore => ?_
  · refine .peek fun p hp => ?_
    split
    · rename_i hcomma
      have hpieces := hp.pieces (Peek.isSome_of_isOperator hcomma)
      refine .take (.peek fun q _ => ?_)
      split
      · exact .pure hpieces
      · refine (spells_led _ (spells_loopTarget hg _) p.after).bind fun next s hnext => .pure ?_
        simpa using hpieces.trans hnext
    · exact .pure .done
  · exact .pure (by simpa using hfirst.trans hmore)

theorem spells_clauseValues : Spells lexemesAll (clauseValues g) := by
  intro r
  refine (spells_led _ (hg.expression 0 _ _) r).bind fun first s hfirst => ?_
  refine .bind (spells_many (f := lexemesAll) (fun r => ?_) s) fun more t hmore => ?_
  · refine .peek fun p hp => ?_
    split
    · rename_i hcomma
      have hpieces := hp.pieces (Peek.isSome_of_isOperator hcomma)
      refine .take (.peek fun q _ => ?_)
      split
      · refine (spells_led _ (hg.expression 0 _ _) p.after).bind fun next s hnext => .pure ?_
        simpa using hpieces.trans hnext
      · split
        · exact .failure
        · exact .pure hpieces
    · exact .pure .done
  · exact .pure (by simpa using hfirst.trans hmore)

theorem ensures_forClause (opening : List Expr) (r : Reader) :
    Ensures r (forClause g opening) fun e s =>
      ∃ more, e.lexemes = lexemesAll opening ++ more ∧ Passes more r.rest s.rest := by
  refine (spells_keyword _ _ r).bind fun word s hword => ?_
  refine (spells_loopTargets hg s).bind fun targets t htargets => ?_
  refine (spells_keyword _ _ t).bind fun inWord u hin => ?_
  refine (spells_clauseValues hg u).bind fun values v hvalues => .pure ?_
  exact ⟨_, by simp, hword.trans (htargets.trans (hin.trans hvalues))⟩

theorem spells_clauses : Spells lexemesAll (clauses g) := by
  intro r
  refine .bind (spells_many (f := lexemesAll) (fun r => ?_) r) fun pieces s hpieces => ?_
  · refine .peek fun p hp => ?_
    split
    · refine .lead fun extras s hextras => (ensures_forClause hg [] s).bind fun e t he => ?_
      obtain ⟨more, hlexemes, hmore⟩ := he
      exact .pure (by simpa [hlexemes] using hextras.passes.trans hmore)
    · split
      · rename_i hasync
        refine .take ((ensures_forClause hg [p.leaf] p.after).bind fun e t he => ?_)
        obtain ⟨more, hlexemes, hmore⟩ := he
        have hpieces := hp.pieces (Peek.isSome_of_isWord hasync)
        exact .pure (by simpa [hlexemes] using hpieces.trans hmore)
      · split
        · rename_i hif
          refine .take ((spells_led _ (hg.expression 0 _ _) p.after).bind fun value t hvalue => ?_)
          exact .pure (by simpa using (hp.pieces (Peek.isSome_of_isWord hif)).trans hvalue)
        · exact .pure .done
  · exact .pure (by simpa using hpieces)

/-! ### Brackets -/

theorem spells_element (start : Expect) : Spells lexemes (element g start) := by
  intro r
  refine .peek fun p hp => ?_
  split
  · rename_i hstar
    refine .take ((spells_led _ (hg.expression 0 _ _) p.after).bind fun value s hvalue => ?_)
    exact .pure (by simpa using (hp.leaf (Peek.isSome_of_isOperator hstar)).trans hvalue)
  · split
    · exact spells_yieldRule hg _ _ r
    · exact hg.expression 0 _ _ r

omit hg in
theorem spells_moreElements {item : Expect → Rule Expr} (h : ∀ e, Spells lexemes (item e))
    (closer : String) : Spells lexemesAll (moreElements item closer) := by
  intro r
  refine .bind (spells_many (f := lexemesAll) (fun r => ?_) r) fun pieces s hpieces => ?_
  · refine .peek fun p hp => ?_
    split
    · rename_i hcomma
      have hpieces := hp.pieces (Peek.isSome_of_isOperator hcomma)
      refine .take (.peek fun q _ => ?_)
      split
      · exact .pure hpieces
      · refine (spells_led _ (h _) p.after).bind fun next s hnext => .pure ?_
        simpa using hpieces.trans hnext
    · exact .pure .done
  · exact .pure (by simpa using hpieces)

theorem ensures_parentheses (p : Peek) (r : Reader) :
    Ensures r (parentheses g p) (OpensWith p) := by
  refine .take (.peek fun q hq => ?_)
  split
  · rename_i hclose
    exact .take (.pure (.intro (hq.pieces (Peek.isSome_of_isOperator hclose)) (by simp)))
  · refine (spells_led _ (spells_element hg _) p.after).bind fun first s hfirst => ?_
    refine .peek fun q hq => ?_
    split
    · refine (spells_clauses hg s).bind fun body t hbody => ?_
      refine (spells_operator _ _ t).bind fun close u hclose => ?_
      exact .pure (.intro (hfirst.trans (hbody.trans hclose)) (by simp))
    · split
      · rename_i hclose
        have hclose := hq.pieces (Peek.isSome_of_isOperator hclose)
        exact .take (.pure (.intro (hfirst.trans hclose) (by simp)))
      · refine (spells_moreElements (spells_element hg) ")" s).bind fun more t hmore => ?_
        refine (spells_operator _ _ t).bind fun close u hclose => ?_
        exact .pure (.intro (hfirst.trans (hmore.trans hclose)) (by simp))

theorem ensures_squareBrackets (p : Peek) (r : Reader) :
    Ensures r (squareBrackets g p) (OpensWith p) := by
  refine .take (.peek fun q hq => ?_)
  split
  · rename_i hclose
    exact .take (.pure (.intro (hq.pieces (Peek.isSome_of_isOperator hclose)) (by simp)))
  · refine (spells_led _ (spells_element hg _) p.after).bind fun first s hfirst => ?_
    refine .peek fun q hq => ?_
    split
    · refine (spells_clauses hg s).bind fun body t hbody => ?_
      refine (spells_operator _ _ t).bind fun close u hclose => ?_
      exact .pure (.intro (hfirst.trans (hbody.trans hclose)) (by simp))
    · refine (spells_moreElements (spells_element hg) "]" s).bind fun more t hmore => ?_
      refine (spells_operator _ _ t).bind fun close u hclose => ?_
      exact .pure (.intro (hfirst.trans (hmore.trans hclose)) (by simp))

theorem ensures_doubleSplat (p : Peek) (r : Reader) :
    Ensures r (doubleSplat g p) (OpensWith p) := by
  refine .take ((spells_led _ (hg.expression 0 _ _) p.after).bind fun value s hvalue => ?_)
  exact .pure (.intro hvalue (by simp))

theorem spells_dictionaryEntry (start : Expect) : Spells lexemes (dictionaryEntry g start) := by
  intro r
  refine .peek fun p hp => ?_
  split
  · rename_i hstars
    exact (ensures_doubleSplat hg p r).mono
      fun _ _ h => h.passes hp (Peek.isSome_of_isOperator hstars)
  · refine (hg.expression 0 _ _ r).bind fun key s hkey => ?_
    refine (spells_operator _ _ s).bind fun colon t hcolon => ?_
    refine (spells_led _ (hg.expression 0 _ _) t).bind fun value u hvalue => .pure ?_
    simpa using hkey.trans (hcolon.trans hvalue)

theorem ensures_dictionaryRest (opening : List Expr) (r : Reader) :
    Ensures r (dictionaryRest g opening) fun e s =>
      ∃ more, e.lexemes = lexemesAll opening ++ more ∧ Passes more r.rest s.rest := by
  refine (spells_moreElements (spells_dictionaryEntry hg) _ r).bind fun more s hmore => ?_
  refine (spells_operator _ _ s).bind fun close t hclose => .pure ?_
  exact ⟨_, by simp, hmore.trans hclose⟩

theorem ensures_braces (p : Peek) (r : Reader) : Ensures r (braces g p) (OpensWith p) := by
  refine .take (.peek_eq fun q hpeek hq => ?_)
  split
  · rename_i hclose
    exact .take (.pure (.intro (hq.pieces (Peek.isSome_of_isOperator hclose)) (by simp)))
  split
  · rename_i hcomma
    have hcomma := hq.pieces (Peek.isSome_of_isOperator hcomma)
    refine .take ((spells_operator _ _ q.after).bind fun close s hclose => ?_)
    exact .pure (.intro (hcomma.trans hclose) (by simp))
  split
  · rename_i hstars
    refine .peek_lead hpeek ((ensures_doubleSplat hg q _).bind fun e s he => ?_)
    have he := hq.before.trans (he.passes_before hq (Peek.isSome_of_isOperator hstars))
    refine (ensures_dictionaryRest hg _ s).mono fun dict t hdict => ?_
    obtain ⟨more, hlexemes, hmore⟩ := hdict
    exact .intro (he.trans hmore) (by simp [hlexemes])
  · refine (spells_led _ (spells_element hg _) p.after).bind fun first s hfirst => ?_
    refine .peek fun q hq => ?_
    split
    · rename_i hcolon
      have hcolon := hq.pieces (Peek.isSome_of_isOperator (Bool.and_eq_true_iff.mp hcolon).1)
      refine .take ((spells_led _ (hg.expression 0 _ _) q.after).bind fun value t hvalue => ?_)
      -- the extras in front of the key stand outside the pair
      have hsplit : first.dropLast ++ first.drop first.dropLast.length = first := by
        rw [List.dropLast_eq_take, List.length_take, Nat.min_eq_left (Nat.sub_le _ _),
          List.take_append_drop]
      rw [← hsplit, lexemesAll_append] at hfirst
      have hpair := hfirst.trans (hcolon.trans hvalue)
      refine .peek fun q' _ => ?_
      split
      · refine (spells_clauses hg t).bind fun body u hbody => ?_
        refine (spells_operator _ _ u).bind fun close v hclose => ?_
        exact .pure (.intro (hpair.trans (hbody.trans hclose)) (by simp))
      · refine (ensures_dictionaryRest hg _ t).mono fun dict u hdict => ?_
        obtain ⟨more, hlexemes, hmore⟩ := hdict
        exact .intro (hpair.trans hmore) (by simp [hlexemes])
    · split
      · refine (spells_clauses hg s).bind fun body t hbody => ?_
        refine (spells_operator _ _ t).bind fun close u hclose => ?_
        exact .pure (.intro (hfirst.trans (hbody.trans hclose)) (by simp))
      · refine (spells_moreElements (spells_element hg) _ s).bind fun more t hmore => ?_
        refine (spells_operator _ _ t).bind fun close u hclose => ?_
        exact .pure (.intro (hfirst.trans (hmore.trans hclose)) (by simp))

/-! ### Calls, subscripts and attributes -/

theorem spells_argument (start : Expect) : Spells lexemes (argument g start) := by
  intro r
  refine .peek fun p hp => ?_
  split
  · rename_i htoken
    refine .take ((spells_led _ (hg.expression 0 _ _) p.after).bind fun value s hvalue => .pure ?_)
    simpa using (hp.leaf (by rw [htoken]; rfl)).trans hvalue
  · rename_i htoken
    exact (ensures_doubleSplat hg p r).mono fun _ _ h => h.passes hp (by rw [htoken]; rfl)
  · rename_i text htoken
    have hq := p.after.ahead_peek .closing
    dsimp only
    split
    · rename_i hequals
      have hpieces := hq.pieces (Peek.isSome_of_isOperator (Bool.and_eq_true_iff.mp hequals).2)
      refine .take ((spells_led _ (hg.expression 0 _ _) _).bind fun value s hvalue => .pure ?_)
      simpa using (hp.leaf (by rw [htoken]; rfl)).trans (hpieces.trans hvalue)
    · exact hg.expression 0 _ _ r
  · exact hg.expression 0 _ _ r

theorem ensures_arguments (generator : Bool) (p : Peek) (r : Reader) :
    Ensures r (arguments g generator p) (OpensWith p) := by
  refine .take (.peek fun q hq => ?_)
  split
  · rename_i hclose
    exact .take (.pure (.intro (hq.pieces (Peek.isSome_of_isOperator hclose)) (by simp)))
  split
  · rename_i hcomma
    have hcomma := hq.pieces (Peek.isSome_of_isOperator hcomma)
    refine .take ((spells_operator _ _ q.after).bind fun close s hclose => ?_)
    exact .pure (.intro (hcomma.trans hclose) (by simp))
  · refine (spells_led _ (spells_argument hg _) p.after).bind fun first s hfirst => ?_
    refine .peek fun q hq => ?_
    split
    · split
      · exact .failure
      · exact .failure
      · split
        · refine (spells_clauses hg s).bind fun body t hbody => ?_
          refine (spells_operator _ _ t).bind fun close u hclose => ?_
          exact .pure (.intro (hfirst.trans (hbody.trans hclose)) (by simp))
        · exact .failure
      · exact .failure
    · refine (spells_moreElements (spells_argument hg) _ s).bind fun more t hmore => ?_
      refine (spells_operator _ _ t).bind fun close u hclose => ?_
      exact .pure (.intro (hfirst.trans (hmore.trans hclose)) (by simp))

theorem spells_sliceBound : Spells lexemesAll (sliceBound g) := by
  intro r
  refine .peek fun p _ => ?_
  split
  · exact spells_led _ (hg.expression 0 _ _) r
  · exact .pure .done

theorem ensures_sliceRest (opening : List Expr) (colon : Peek) (r : Reader) :
    Ensures r (sliceRest g opening colon) fun e s =>
      ∃ more, e.lexemes = lexemesAll opening ++ lexemesAll colon.pieces ++ more ∧
        Passes more colon.after.rest s.rest := by
  refine .take ((spells_sliceBound hg colon.after).bind fun upper s hupper => .peek fun p hp => ?_)
  split
  · rename_i hsecond
    have hsecond := hp.pieces (Peek.isSome_of_isOperator hsecond)
    refine .take ((spells_sliceBound hg p.after).bind fun step t hstep => ?_)
    exact .pure ⟨_, by simp, hupper.trans (hsecond.trans hstep)⟩
  · exact .pure ⟨_, by simp, hupper⟩

theorem spells_subscriptItem (start : Expect) : Spells lexemes (subscriptItem g start) := by
  intro r
  refine .peek fun p hp => ?_
  split
  · rename_i hcolon
    have hcolon := hp.leaf (Peek.isSome_of_isOperator hcolon)
    refine (ensures_sliceRest hg [] { p with extras := [] } r).mono ?_
    rintro e s ⟨more, hlexemes, hmore⟩
    simpa [hlexemes] using hcolon.trans hmore
  · refine (hg.expression 0 _ _ r).bind fun first s hfirst => .peek fun q hq => ?_
    split
    · rename_i hcolon
      have hcolon := hq.pieces (Peek.isSome_of_isOperator hcolon)
      refine (ensures_sliceRest hg [first] q s).mono ?_
      rintro e t ⟨more, hlexemes, hmore⟩
      simpa [hlexemes] using hfirst.trans (hcolon.trans hmore)
    · exact .pure hfirst

theorem spells_subscriptItems : Spells lexemesAll (subscriptItems g) := by
  intro r
  refine (spells_led _ (spells_subscriptItem hg _) r).bind fun first s hfirst => ?_
  refine (spells_moreElements (spells_subscriptItem hg) _ s).bind fun more t hmore => ?_
  refine (spells_operator _ _ t).bind fun close u hclose => .pure ?_
  simpa using hfirst.trans (hmore.trans hclose)

theorem spells_trailer (f : Follow) :
    Spells (fun item => item.elim [] fun trailer => lexemesAll trailer.2) (trailer g f) := by
  intro r
  refine .peek fun p hp => ?_
  split
  · rename_i htoken
    refine .take ((spells_name _ p.after).bind fun found s hfound => .pure ?_)
    simpa using (hp.pieces (by rw [htoken]; rfl)).trans hfound
  · rename_i htoken
    refine .take ((spells_subscriptItems hg p.after).bind fun items s hitems => .pure ?_)
    simpa using (hp.pieces (by rw [htoken]; rfl)).trans hitems
  · rename_i htoken
    refine (ensures_arguments hg true p r).bind fun args s hargs => .pure ?_
    simpa using hp.before.trans (hargs.passes_before hp (by rw [htoken]; rfl))
  · exact .pure .done

theorem ensures_atom (start : Expect) (f : Follow) (r : Reader) :
    Ensures r (atom g start f) fun e s =>
      Passes e.lexemes r.rest s.rest ∧ Unstarred e.lexemes := by
  refine .peek fun p hp => ?_
  have hleaf : ∀ kind : Leaf, kind ≠ .comment → p.token.lexeme?.isSome = true →
      Unstarred [p.text] → Ensures r (do take p; return leaf kind p.span p.text) fun e s =>
        Passes e.lexemes r.rest s.rest ∧ Unstarred e.lexemes := by
    intro kind hkind htoken hunstarred
    refine .take (.pure ?_)
    rw [lexemes_leaf hkind]
    exact ⟨hp.leaf htoken, hunstarred⟩
  have hword : ∀ {kind : Leaf} {text : String}, kind ≠ .comment → p.token = .word text →
      Ensures r (do take p; return leaf kind p.span p.text) fun e s =>
        Passes e.lexemes r.rest s.rest ∧ Unstarred e.lexemes := by
    intro kind text hkind htoken
    exact hleaf kind hkind (by rw [htoken]; rfl) (unstarred_of_isWord (hp.token.isWord htoken))
  have hopens : ∀ {op : String} {rule : Rule Expr}, p.token = .operator op → Unstarred [op] →
      Ensures r rule (OpensWith p) → Ensures r rule fun e s =>
        Passes e.lexemes r.rest s.rest ∧ Unstarred e.lexemes := by
    intro op rule htoken hop hrule
    refine hrule.mono fun e s he => ⟨he.passes hp (by rw [htoken]; rfl), ?_⟩
    obtain ⟨more, hlexemes, -⟩ := he
    obtain rfl : p.text = op := hp.token.eq_of_lexeme? (by rw [htoken]; rfl)
    rw [hlexemes]
    exact hop.append more
  split
  · rename_i htoken
    exact hword (by decide) htoken
  · rename_i htoken
    exact hword (by decide) htoken
  · rename_i htoken
    exact hword (by decide) htoken
  · rename_i htoken
    split
    · exact hword (by decide) htoken
    · exact .failure
  · rename_i fraction text htoken
    have hunstarred := unstarred_of_isNumeral (hp.token.isNumeral htoken)
    obtain rfl : p.text = text := hp.token.eq_of_lexeme? (by rw [htoken]; rfl)
    exact hleaf _ (by split <;> decide) (by rw [htoken]; rfl) hunstarred
  · rename_i q htoken
    exact ensures_strings hg hp htoken f r
  · rename_i htoken
    have htext : p.text = "..." := hp.token.eq_of_lexeme? (by rw [htoken]; rfl)
    refine hleaf .ellipsis (by decide) (by rw [htoken]; rfl) ?_
    rw [htext]
    exact ⟨"...", [], rfl, by decide, by decide⟩
  · rename_i htoken
    exact hopens htoken ⟨_, [], rfl, by decide, by decide⟩ (ensures_parentheses hg p r)
  · rename_i htoken
    exact hopens htoken ⟨_, [], rfl, by decide, by decide⟩ (ensures_squareBrackets hg p r)
  · rename_i htoken
    exact hopens htoken ⟨_, [], rfl, by decide, by decide⟩ (ensures_braces hg p r)
  · exact .failure

theorem spells_trailers (f : Follow) :
    Spells (fun trailers => trailers.flatMap fun trailer => lexemesAll trailer.2) (trailers g f) :=
  spells_many (spells_trailer hg f)

omit hg in
theorem lexemes_applyTrailers (first : Expr) (trailers : List (Form × List Expr)) :
    (applyTrailers first trailers).lexemes =
      first.lexemes ++ trailers.flatMap fun trailer => lexemesAll trailer.2 := by
  induction trailers generalizing first with
  | nil => simp [applyTrailers]
  | cons trailer trailers ih =>
    rw [applyTrailers, List.foldl_cons, ← applyTrailers, ih]
    simp

theorem ensures_operandRule (start : Expect) (f : Follow) (r : Reader) :
    Ensures r (operandRule g start f) fun e s =>
      Passes e.lexemes r.rest s.rest ∧ Unstarred e.lexemes := by
  refine (ensures_atom hg start f r).bind fun first s hfirst => ?_
  refine (spells_trailers hg f s).bind fun trailers t htrailers => .pure ?_
  rw [lexemes_applyTrailers]
  exact ⟨hfirst.1.trans htrailers, hfirst.2.append _⟩

theorem spells_operandRule (start : Expect) (f : Follow) :
    Spells lexemes (operandRule g start f) :=
  fun r => (ensures_operandRule hg start f r).mono fun _ _ h => h.1

/-! ### Arithmetic -/

theorem ensures_starredOperand (f : Follow) (p : Peek) (r : Reader) :
    Ensures r (starredOperand g f p) (OpensWith p) := by
  refine .take (.lead fun extras s hextras => ?_)
  refine (ensures_atom hg _ f s).bind fun first t hfirst => ?_
  refine (spells_trailers hg f t).bind fun trailers u htrailers => ?_
  dsimp only
  split
  · refine .pure (.intro (hextras.passes.trans (hfirst.1.trans htrailers)) ?_)
    generalize trailers.length -
      (trailers.reverse.takeWhile fun trailer => trailer.1 = .call).length = n
    -- the star takes the trailers up to the calls at their end
    have hsplit : (trailers.take n).flatMap (fun trailer => lexemesAll trailer.2) ++
        (trailers.drop n).flatMap (fun trailer => lexemesAll trailer.2) =
        trailers.flatMap fun trailer => lexemesAll trailer.2 := by
      rw [← List.flatMap_append, List.take_append_drop]
    simp [lexemes_applyTrailers, hsplit]
  · exact .failure

theorem spells_signedOperand (start : Expect) (f : Follow) :
    Spells lexemes (signedOperand g start f) := by
  intro r
  refine .peek fun p hp => ?_
  have hsign : p.token.lexeme?.isSome = true → Ensures r (do
      take p
      let value ← led .operand (g.arithmetic (unaryStrength + 1) .operand f)
      return Expr.ofChildren .unary (p.leaf :: value)) fun e s =>
        Passes e.lexemes r.rest s.rest := by
    intro htoken
    refine .take ((spells_led _ (hg.arithmetic _ _ f) p.after).bind fun value s hvalue => .pure ?_)
    simpa using (hp.leaf htoken).trans hvalue
  split
  · rename_i htoken
    exact hsign (by rw [htoken]; rfl)
  · rename_i htoken
    exact hsign (by rw [htoken]; rfl)
  · rename_i htoken
    exact hsign (by rw [htoken]; rfl)
  · rename_i htoken
    exact (ensures_starredOperand hg f p r).mono fun _ _ h => h.passes hp (by rw [htoken]; rfl)
  · rename_i htoken
    split
    · refine .take ((spells_led _ (hg.arithmetic _ _ f) p.after).bind fun value s hvalue => ?_)
      exact .pure (by simpa using (hp.leaf (by rw [htoken]; rfl)).trans hvalue)
    · exact spells_operandRule hg start f r
  · exact spells_operandRule hg start f r

theorem ensures_arithmeticRest (least : Nat) (f : Follow) (left : Expr) (fuel : Nat) (r : Reader) :
    Ensures r (arithmeticRest g least f left fuel) fun e s =>
      ∃ more, e.lexemes = left.lexemes ++ more ∧ Passes more r.rest s.rest := by
  induction fuel generalizing left r with
  | zero => exact .failure
  | succ fuel ih =>
    refine .peek fun p hp => ?_
    have hleft : Ensures r (pure left) fun e s =>
        ∃ more, e.lexemes = left.lexemes ++ more ∧ Passes more r.rest s.rest :=
      .pure ⟨[], by simp, .done⟩
    split
    · rename_i text htoken
      split
      · split
        · refine .take ((spells_led _ (hg.arithmetic _ _ f) p.after).bind fun value s hvalue => ?_)
          refine (ih _ s).mono ?_
          rintro e t ⟨more, hlexemes, hmore⟩
          refine ⟨_, ?_, (hp.pieces (by rw [htoken]; rfl)).trans (hvalue.trans hmore)⟩
          simp [hlexemes]
        · exact hleft
      · exact hleft
    · exact hleft

theorem spells_arithmeticRule (least : Nat) (start : Expect) (f : Follow) :
    Spells lexemes (arithmeticRule g least start f) := by
  intro r
  refine (spells_signedOperand hg start f r).bind fun first s hfirst => .get ?_
  refine (ensures_arithmeticRest hg least f first _ s).mono ?_
  rintro e t ⟨more, hlexemes, hmore⟩
  rw [hlexemes]
  exact hfirst.trans hmore

/-! ### Comparisons and words -/

omit hg in
theorem spells_comparisonOperator (f : Follow) :
    Spells (fun item => item.elim [] lexemesAll) (comparisonOperator f) := by
  intro r
  refine .peek fun p hp => ?_
  split
  · rename_i text htoken
    split
    · exact .take (.pure (hp.pieces (by rw [htoken]; rfl)))
    · exact .pure .done
  · rename_i htoken
    exact .take (.pure (hp.pieces (by rw [htoken]; rfl)))
  · rename_i htoken
    have hpieces := hp.pieces (by rw [htoken]; rfl)
    refine .take (.peek fun q hq => ?_)
    split
    · rename_i hnot
      exact .take (.pure (by simpa using hpieces.trans (hq.pieces (Peek.isSome_of_isWord hnot))))
    · exact .pure hpieces
  · rename_i htoken
    refine .take ((spells_keyword _ _ p.after).bind fun word s hword => .pure ?_)
    simpa using (hp.pieces (by rw [htoken]; rfl)).trans hword
  · exact .pure .done

theorem spells_comparison (start : Expect) (f : Follow) :
    Spells lexemes (comparison g start f) := by
  intro r
  refine (spells_arithmeticRule hg _ start f r).bind fun first s hfirst => ?_
  refine .bind (spells_many (f := lexemesAll) (fun r => ?_) s) fun more t hmore => ?_
  · refine (spells_comparisonOperator f r).bind fun item s hitem => ?_
    split
    · refine (spells_led _ (hg.arithmetic _ _ f) s).bind fun value t hvalue => .pure ?_
      simpa using hitem.trans hvalue
    · exact .pure hitem
  · have hall := hfirst.trans hmore
    split
    · exact .pure (by simpa using hall)
    · exact .pure (by simpa using hall)

theorem spells_expressionHead {lambda : Expect → Follow → Rule Expr}
    (hlambda : ∀ e f, Spells lexemes (lambda e f)) (start : Expect) (f : Follow) :
    Spells lexemes (expressionHead g lambda start f) := by
  intro r
  refine .peek fun p hp => ?_
  split
  · rename_i htoken
    refine .take ((spells_led _ (hg.expression _ _ f) p.after).bind fun value s hvalue => .pure ?_)
    simpa using (hp.leaf (by rw [htoken]; rfl)).trans hvalue
  · exact hlambda start f r
  · rename_i text _ _ htoken
    have hq := p.after.ahead_peek f.expect
    dsimp only
    split
    · rename_i hnamed
      have hpieces := hq.pieces (Peek.isSome_of_isOperator (Bool.and_eq_true_iff.mp hnamed).2)
      refine .take ((spells_led _ (hg.expression _ _ f) _).bind fun value s hvalue => .pure ?_)
      simpa using (hp.leaf (by rw [htoken]; rfl)).trans (hpieces.trans hvalue)
    · exact spells_comparison hg start f r
  · exact spells_comparison hg start f r

theorem ensures_expressionRest (least : Nat) (f : Follow) (left : Expr) (fuel : Nat) (r : Reader) :
    Ensures r (expressionRest g least f left fuel) fun e s =>
      ∃ more, e.lexemes = left.lexemes ++ more ∧ Passes more r.rest s.rest := by
  induction fuel generalizing left r with
  | zero => exact .failure
  | succ fuel ih =>
    refine .peek fun p hp => ?_
    have hleft : Ensures r (pure left) fun e s =>
        ∃ more, e.lexemes = left.lexemes ++ more ∧ Passes more r.rest s.rest :=
      .pure ⟨[], by simp, .done⟩
    have hjoin : ∀ (form : Form) (level : Nat), p.token.lexeme?.isSome = true → Ensures r (do
        take p
        let value ← led .operand (g.expression level .operand f)
        expressionRest g least f (.ofChildren form (left :: p.pieces ++ value)) fuel) fun e s =>
          ∃ more, e.lexemes = left.lexemes ++ more ∧ Passes more r.rest s.rest := by
      intro form level htoken
      refine .take ((spells_led _ (hg.expression _ _ f) p.after).bind fun value s hvalue => ?_)
      refine (ih _ s).mono ?_
      rintro e t ⟨more, hlexemes, hmore⟩
      exact ⟨_, by simp [hlexemes], (hp.pieces htoken).trans (hvalue.trans hmore)⟩
    dsimp only
    split
    · rename_i htoken
      split
      · exact hjoin _ _ (by rw [htoken]; rfl)
      · exact hleft
    · rename_i htoken
      split
      · exact hjoin _ _ (by rw [htoken]; rfl)
      · exact hleft
    · rename_i htoken
      split
      · exact hjoin _ _ (by rw [htoken]; rfl)
      · exact hleft
    · rename_i htoken
      split
      · refine .take ((spells_led _ (hg.expression 0 _ _) p.after).bind fun condition s hcond => ?_)
        refine (spells_keyword _ _ s).bind fun word t hword => ?_
        refine (spells_led _ (hg.expression 0 _ f) t).bind fun value u hvalue => ?_
        refine (ih _ u).mono ?_
        rintro e v ⟨more, hlexemes, hmore⟩
        refine ⟨_, by simp [hlexemes], (hp.pieces (by rw [htoken]; rfl)).trans
          (hcond.trans (hword.trans (hvalue.trans hmore)))⟩
      · exact hleft
    · exact hleft

theorem spells_expressionRule {lambda : Expect → Follow → Rule Expr}
    (hlambda : ∀ e f, Spells lexemes (lambda e f)) (least : Nat) (start : Expect) (f : Follow) :
    Spells lexemes (expressionRule g lambda least start f) := by
  intro r
  refine (spells_expressionHead hg hlambda start f r).bind fun first s hfirst => .get ?_
  refine (ensures_expressionRest hg least f first _ s).mono ?_
  rintro e t ⟨more, hlexemes, hmore⟩
  rw [hlexemes]
  exact hfirst.trans hmore

end

end StubLayers.Stub
