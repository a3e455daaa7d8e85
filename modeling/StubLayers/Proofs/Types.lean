import StubLayers.Proofs.Expressions
import StubLayers.Proofs.ParameterLayout
import StubLayers.Stub.Module

/-!
# Types and parameter lists as they are read

The rules for types keep their lexemes, and a parameter list that is read is a layout of some
entries.

* `spells_typeRule`, `spells_lambdaRule`: one round of the rules for types and lambdas.
* `ensures_paramItem`, `ensures_paramItems`: every entry of a parameter list is a layout of its
  tokens, and so is the list.
* `faithful_grammar`: the rules keep their lexemes, however deep they call each other.
-/

namespace StubLayers.Stub

open Rule Expr

/-! ### Extras and targets -/

theorem laidOut_extras {extras : List Expr} (h : ∀ t ∈ lexemesAll extras, IsLineJoin t) :
    LaidOut [] (extras.flatMap extraItem) := by
  induction extras with
  | nil => exact .nil
  | cons extra extras ih =>
    rw [lexemesAll_cons, List.forall_mem_append] at h
    have hrest := ih h.2
    rw [List.flatMap_cons]
    unfold extraItem
    split
    · exact .comment hrest
    · refine .lineJoin (h.1 _ ?_) hrest
      rw [lexemes_leaf (by decide)]
      exact List.mem_singleton_self _
    · exact hrest

/-- The text from the token `p` on is made of the tokens that were read there. -/
theorem OpensWith.spelled {p : Peek} {e : Expr} {s : Reader} (h : OpensWith p e s)
    (hp : Lexeme p.text) : Spelled e.tokens (p.text ++ p.after.textTo s) := by
  obtain ⟨more, hlexemes, hmore⟩ := h
  refine spelled_of_passes s.rest ?_
  rw [String.toList_append, List.append_assoc, Reader.toList_textTo hmore.suffix, hlexemes]
  exact .lexeme hp hmore

section

variable {g : Grammar} (hg : Faithful g)

include hg

/-! ### Types -/

theorem ensures_typeParameters (p : Peek) (r : Reader) :
    Ensures r (typeParameters g p) (OpensWith p) := by
  refine .take ((spells_led _ (hg.type true _ _) p.after).bind fun first s hfirst => ?_)
  refine (spells_moreElements (fun e => hg.type true e _) _ s).bind fun more t hmore => ?_
  refine (spells_operator _ _ t).bind fun close u hclose => ?_
  exact .pure (.intro (hfirst.trans (hmore.trans hclose)) (by simp))

theorem spells_typeHead (start : Expect) (f : Follow) :
    Spells (fun found => lexemesAll found.1) (typeHead g start f) := by
  intro r
  refine .peek fun p hp => ?_
  have hplain : Ensures r (do return ([← g.expression 0 start f], false)) fun found s =>
      Passes (lexemesAll found.1) r.rest s.rest :=
    (hg.expression 0 start f r).bind fun e s he => .pure (by simpa using he)
  dsimp only
  split
  · rename_i text htoken
    have hq := p.after.ahead_peek f.expect
    split
    · rename_i hbracket
      have hbracket := Peek.isSome_of_isOperator (Bool.and_eq_true_iff.mp hbracket).2
      refine (ensures_typeParameters hg _ r).bind fun arguments s harguments => .pure ?_
      have hpasses := hq.before.trans (harguments.passes_before hq hbracket)
      simpa using (hp.leaf (by rw [htoken]; rfl)).trans hpasses
    · exact hplain
  · rename_i htoken
    refine .take ((spells_name _ p.after).bind fun found s hfound => .pure ?_)
    simpa using (hp.leaf (by rw [htoken]; rfl)).trans hfound
  · rename_i htoken
    have hq := p.after.ahead_peek .operand
    split
    · rename_i text hword
      split
      · refine .take (.pure ?_)
        simpa using (hp.leaf (by rw [htoken]; rfl)).trans (hq.pieces (by rw [hword]; rfl))
      · exact hplain
    · exact hplain
  · exact hplain

theorem ensures_typeRest (bounded : Bool) (f : Follow) (pieces : List Expr) (closed : Bool)
    (fuel : Nat) (r : Reader) :
    Ensures r (typeRest g bounded f pieces closed fuel) fun e s =>
      ∃ more, e.lexemes = lexemesAll pieces ++ more ∧ Passes more r.rest s.rest := by
  induction fuel generalizing pieces closed r with
  | zero => exact .failure
  | succ fuel ih =>
    refine .peek fun p hp => ?_
    split
    · rename_i hdot
      have hdot := hp.pieces (Peek.isSome_of_isOperator (Bool.and_eq_true_iff.mp hdot).2)
      refine .take ((spells_name _ p.after).bind fun found s hfound => ?_)
      refine (ih _ true s).mono ?_
      rintro e t ⟨more, hlexemes, hmore⟩
      exact ⟨_, by simp [hlexemes], hdot.trans (hfound.trans hmore)⟩
    · split
      · rename_i hbar
        have hbar := hp.pieces (Peek.isSome_of_isOperator (Bool.and_eq_true_iff.mp hbar).2)
        refine .take ((spells_led _ (hg.type false _ f) p.after).bind fun other s hother => ?_)
        refine (ih _ true s).mono ?_
        rintro e t ⟨more, hlexemes, hmore⟩
        exact ⟨_, by simp [hlexemes], hbar.trans (hother.trans hmore)⟩
      · split
        · rename_i hcolon
          have hcolon := hp.pieces (Peek.isSome_of_isOperator (Bool.and_eq_true_iff.mp hcolon).2)
          refine .take ((spells_led _ (hg.type true _ f) p.after).bind fun bound s hbound => ?_)
          exact .pure ⟨_, by simp, hcolon.trans hbound⟩
        · exact .pure ⟨[], by simp, .done⟩

theorem spells_typeRule (bounded : Bool) (start : Expect) (f : Follow) :
    Spells lexemes (typeRule g bounded start f) := by
  intro r
  refine (spells_typeHead hg start f r).bind fun found s hfound => .get ?_
  refine (ensures_typeRest hg bounded f found.1 found.2 _ s).mono ?_
  rintro e t ⟨more, hlexemes, hmore⟩
  rw [hlexemes]
  exact hfound.trans hmore

/-! ### Parameters -/

theorem ensures_defaultValue (f : Follow) {p : Peek} {r : Reader} (hp : p.Ahead r)
    (hequals : p.token.lexeme?.isSome = true) (r' : Reader) :
    Ensures r' (defaultValue g f p) fun pieces s => Passes (lexemesAll pieces) r.rest s.rest := by
  refine .take ((spells_led _ (hg.expression 0 _ f) p.after).bind fun value s hvalue => .pure ?_)
  simpa using (hp.pieces hequals).trans hvalue

theorem ensures_typeBehind (f : Follow) {p : Peek} {r : Reader} (hp : p.Ahead r)
    (hcolon : p.token.lexeme?.isSome = true) (r' : Reader) :
    Ensures r' (typeBehind g f p) fun found s =>
      Passes (lexemesAll found.2) r.rest s.rest ∧ found.1.Lexical := by
  refine .take (.lead fun extras s hextras => (hg.type true _ f s).bind fun type t htype => ?_)
  refine .pure ⟨?_, htype.lexeme_of_mem⟩
  simpa using (hp.pieces hcolon).trans (hextras.passes.trans htype)

theorem ensures_starredParam (typed : Bool) (f : Follow) (target : ParamTarget) {p : Peek}
    {r : Reader} (hp : p.Ahead r) (hstars : p.token = .operator target.stars) :
    Ensures p.after (starredParam g typed f target p) fun found s =>
      Passes (lexemesAll found.2) r.rest s.rest ∧ ∃ e : ParamEntry, e.Written found.1 := by
  have htext : p.text = target.stars := hp.token.eq_of_lexeme? (by rw [hstars]; rfl)
  have hleaf := hp.leaf (by rw [hstars]; rfl)
  refine .lead fun extras s hextras => ?_
  refine ((hg.operand _ f s).both (hg.unstarred _ f s)).bind fun place t hplace => ?_
  obtain ⟨hplace, hunstarred⟩ := hplace
  split
  · refine .get ?_
    have hwritten : ∀ type : Option Expr, (∀ e ∈ type, e.Lexical) → ∃ e : ParamEntry,
        e.Written (.param target (p.text ++ p.after.textTo t) type false) := by
      intro type htype
      rw [htext]
      have hgap := hextras.gap.gap hplace
      refine ⟨_, .param (spelled_of_passes t.rest ?_) hunstarred.tokens htype⟩
      rwa [Reader.toList_textTo hgap.suffix]
    have hpieces := hleaf.trans (hextras.passes.trans hplace)
    refine .peek fun q hq => ?_
    split
    · rename_i hcolon
      have hcolon := Peek.isSome_of_isOperator (Bool.and_eq_true_iff.mp hcolon).2
      refine (ensures_typeBehind hg f hq hcolon t).bind fun found u hfound => ?_
      exact .pure ⟨by simpa using hpieces.trans hfound.1, hwritten _ (by simpa using hfound.2)⟩
    · exact .pure ⟨by simpa using hpieces, hwritten _ (by simp)⟩
  · exact .failure

theorem ensures_paramItem (typed : Bool) (start : Expect) (f : Follow) (r : Reader) :
    Ensures r (paramItem g typed start f) fun found s =>
      Passes (lexemesAll found.2) r.rest s.rest ∧ ∃ e : ParamEntry, e.Written found.1 := by
  refine .peek fun p hp => ?_
  split
  · rename_i htoken
    refine .take (.pure ⟨?_, _, .positionalMark⟩)
    simpa using hp.leaf (by rw [htoken]; rfl)
  · rename_i htoken
    refine .take (.peek fun q hq => ?_)
    split
    · exact ensures_starredParam hg typed f .star hp htoken
    · refine .pure ⟨?_, _, .keywordMark⟩
      simpa using hp.leaf (by rw [htoken]; rfl)
  · rename_i htoken
    exact .take (ensures_starredParam hg typed f .doubleStar hp htoken)
  · rename_i htoken
    refine (ensures_parentheses hg p r).bind fun tuple s htuple => ?_
    have hpasses := htuple.passes hp (by rw [htoken]; rfl)
    have hwritten : ∀ hasDefault : Bool, ∃ e : ParamEntry,
        e.Written (.param .plain (p.text ++ p.after.textTo s) none hasDefault) := by
      intro hasDefault
      have hspelled := htuple.spelled (hp.token.lexeme (by rw [htoken]; rfl))
      refine ⟨_, .plain hspelled (Unstarred.tokens ?_) (by simp)⟩
      obtain ⟨more, hlexemes, -⟩ := htuple
      rw [hlexemes, hp.token.eq_of_lexeme? (show p.token.lexeme? = some "(" by rw [htoken]; rfl)]
      exact ⟨"(", more, rfl, by decide, by decide⟩
    split
    · refine .get (.peek fun q hq => ?_)
      split
      · rename_i hequals
        refine (ensures_defaultValue hg f hq (Peek.isSome_of_isOperator hequals) s).bind
          fun value t hvalue => .pure ⟨?_, hwritten _⟩
        simpa using hpasses.trans hvalue
      · exact .pure ⟨by simpa using hpasses, hwritten _⟩
    · exact .failure
  · rename_i text htoken
    obtain rfl : p.text = text := hp.token.eq_of_lexeme? (by rw [htoken]; rfl)
    have hleaf := hp.leaf (by rw [htoken]; rfl)
    have hwritten : ∀ (type : Option Expr) (hasDefault : Bool), (∀ e ∈ type, e.Lexical) →
        ∃ e : ParamEntry, e.Written (.param .plain p.text type hasDefault) := by
      intro type hasDefault htype
      have hword : Unstarred (nameLeaf p).lexemes := by
        simpa using unstarred_of_isWord (hp.token.isWord htoken)
      refine ⟨_, .plain (spelled_of_passes [] ?_) hword.tokens htype⟩
      rw [Peek.lexemes_nameLeaf]
      exact .single (hp.token.lexeme (by rw [htoken]; rfl))
    split
    · refine .take (.peek fun q hq => ?_)
      split
      · rename_i hcolon
        have hcolon := Peek.isSome_of_isOperator (Bool.and_eq_true_iff.mp hcolon).2
        refine (ensures_typeBehind hg f hq hcolon _).bind fun found s hfound => ?_
        have htype : ∀ e ∈ some found.1, e.Lexical := by simpa using hfound.2
        refine .peek fun q hq => ?_
        split
        · rename_i hequals
          refine (ensures_defaultValue hg f hq (Peek.isSome_of_isOperator hequals) s).bind
            fun value t hvalue => .pure ⟨?_, hwritten _ _ htype⟩
          simpa using hleaf.trans (hfound.1.trans hvalue)
        · exact .pure ⟨by simpa using hleaf.trans hfound.1, hwritten _ _ htype⟩
      · split
        · rename_i hequals
          refine (ensures_defaultValue hg f hq (Peek.isSome_of_isOperator hequals) _).bind
            fun value t hvalue => .pure ⟨?_, hwritten _ _ (by simp)⟩
          simpa using hleaf.trans hvalue
        · exact .pure ⟨by simpa using hleaf, hwritten _ _ (by simp)⟩
    · exact .failure
  · exact .failure

theorem ensures_paramItems (typed : Bool) (f : Follow) (closer : String) (r : Reader) :
    Ensures r (paramItems g typed f closer) fun found s =>
      Passes (lexemesAll found.2) r.rest s.rest ∧ ∃ es, LaidOut es found.1 := by
  have hentry : ∀ r, Ensures r (do
      let extras ← lead f.expect
      let found ← paramItem g typed f.expect f
      return (extras.flatMap extraItem ++ [found.1], extras ++ found.2)) fun found s =>
        Passes (lexemesAll found.2) r.rest s.rest ∧ ∃ es, LaidOut es found.1 := by
    intro r
    refine .lead fun extras s hextras => ?_
    refine (ensures_paramItem hg typed _ f s).bind fun found t hfound => .pure ?_
    obtain ⟨hpasses, e, he⟩ := hfound
    refine ⟨by simpa using hextras.passes.trans hpasses, [e], ?_⟩
    exact (laidOut_extras hextras.lineJoins).append (.entry he .nil)
  refine .peek fun p _ => ?_
  dsimp only
  split
  · exact .pure ⟨.done, [], .nil⟩
  · refine (hentry r).bind fun first s hfirst => ?_
    refine .bind (ensures_many (f := fun found => lexemesAll found.2)
      (P := fun found => ∃ es, LaidOut es found.1) (fun r => ?_) s) fun more t hmore => ?_
    · refine .peek fun p hp => ?_
      split
      · rename_i hcomma
        have hpieces := hp.pieces (Peek.isSome_of_isOperator hcomma)
        have hextras := laidOut_extras hp.lineJoins
        refine .take (.peek fun q _ => ?_)
        split
        · exact .pure ⟨hpieces, by simpa using ⟨_, hextras⟩⟩
        · refine (hentry p.after).bind fun next s hnext => .pure ?_
          obtain ⟨hpasses, es, hes⟩ := hnext
          exact ⟨by simpa using hpieces.trans hpasses, by simpa using ⟨_, hextras.append hes⟩⟩
      · exact .pure ⟨.done, by simp⟩
    · refine .pure ⟨by simpa using hfirst.1.trans hmore.1, ?_⟩
      exact exists_laidOut_flatMap (List.forall_mem_cons.mpr ⟨hfirst.2, hmore.2⟩)

/-- **A parameter list is a layout of its entries.** -/
theorem ensures_parameters (r : Reader) :
    Ensures r (parameters g) fun items _ => ∃ es, LaidOut es items := by
  refine (spells_operator _ _ r).bind fun _ s _ => ?_
  refine (ensures_paramItems hg true _ _ s).bind fun found t hfound => ?_
  refine (ensures_operator _ _ t).bind fun close u hclose => .pure ?_
  obtain ⟨-, es, hes⟩ := hfound
  obtain ⟨p, hp, -, rfl, -⟩ := hclose
  refine ⟨es ++ [], hes.append ?_⟩
  have hextras := laidOut_extras hp.lineJoins
  rw [Peek.pieces, List.flatMap_append]
  exact hextras.append .nil

theorem spells_lambdaRule (start : Expect) (f : Follow) :
    Spells lexemes (lambdaRule g start f) := by
  intro r
  refine (spells_keyword _ _ r).bind fun word s hword => ?_
  refine (ensures_paramItems hg false _ _ s).bind fun found t hfound => ?_
  refine (spells_operator _ _ t).bind fun colon u hcolon => ?_
  refine (spells_led _ (hg.expression 0 _ f) u).bind fun body v hbody => .pure ?_
  simpa using hword.trans (hfound.1.trans (hcolon.trans hbody))

end

/-! ### The grammar -/

/-- **The grammar keeps lexemes**, however deep its rules call each other. -/
theorem faithful_grammar (depth : Nat) : Faithful (grammar depth) := by
  induction depth with
  | zero =>
    exact ⟨fun _ _ _ _ => .failure, fun _ _ _ _ => .failure, fun _ _ _ => .failure,
      fun _ _ _ => .failure, fun _ _ _ _ => .failure⟩
  | succ depth ih =>
    exact ⟨spells_expressionRule ih (spells_lambdaRule ih), spells_arithmeticRule ih,
      spells_operandRule ih, fun e f r => (ensures_operandRule ih e f r).mono fun _ _ h => h.2,
      spells_typeRule ih⟩

end StubLayers.Stub
