import StubLayers.Proofs.Reading
import StubLayers.Stub.Grammar.Expression

/-!
# What rules read

A rule goes from one reader to a later one and hands over what it has read.  This file has one lemma
for each way of putting rules together.

* `Rule.Ensures r rule Q`: whatever the rule reads from `r`, and where it stops, satisfy `Q`.
* `Rule.Spells f rule`: between the start of the rule and its end lie the lexemes `f a` of what it
  has read.
-/

namespace StubLayers

namespace Rule

open Expr

variable {α β : Type}

/-- Whatever the rule reads from `r`, and the reader behind it, satisfy `Q`. -/
def Ensures (r : Reader) (rule : Rule α) (Q : α → Reader → Prop) : Prop :=
  ∀ a s, rule r = some (a, s) → Q a s

namespace Ensures

variable {r : Reader} {Q : β → Reader → Prop}

theorem pure {b : β} (h : Q b r) : Ensures r (pure b) Q := by
  intro a s hr
  have hread : some (b, r) = some (a, s) := hr
  cases hread
  exact h

theorem failure : Ensures r (failure : Rule β) Q := by
  intro a s hr
  have hread : none = some (a, s) := hr
  cases hread

theorem mono {rule : Rule β} {P : β → Reader → Prop} (h : Ensures r rule P)
    (hPQ : ∀ b s, P b s → Q b s) : Ensures r rule Q := fun b s hr => hPQ b s (h b s hr)

theorem both {rule : Rule β} {P : β → Reader → Prop} (h : Ensures r rule P)
    (h' : Ensures r rule Q) : Ensures r rule fun b s => P b s ∧ Q b s :=
  fun b s hr => ⟨h b s hr, h' b s hr⟩

theorem bind {rule : Rule α} {P : α → Reader → Prop} {next : α → Rule β} (h : Ensures r rule P)
    (hnext : ∀ a s, P a s → Ensures s (next a) Q) : Ensures r (rule >>= next) Q := by
  intro b t hr
  obtain ⟨⟨a, s⟩, ha, hb⟩ := Option.bind_eq_some_iff.mp hr
  exact hnext a s (h a s ha) b t hb

theorem peek {e : Expect} {next : Peek → Rule β}
    (h : ∀ p : Peek, p.Ahead r → Ensures r (next p) Q) : Ensures r (Rule.peek e >>= next) Q :=
  h _ (r.ahead_peek e)

theorem peek_eq {e : Expect} {next : Peek → Rule β}
    (h : ∀ p : Peek, r.peek e = p → p.Ahead r → Ensures r (next p) Q) :
    Ensures r (Rule.peek e >>= next) Q :=
  h _ rfl (r.ahead_peek e)

/-- A token that is looked at once more is the same token. -/
theorem peek_lead {e : Expect} {q : Peek} {next : List Expr → Rule β} (hq : r.peek e = q)
    (h : Ensures q.before (next q.extras) Q) : Ensures r (Rule.lead e >>= next) Q := by
  subst hq
  exact h

theorem take {p : Peek} {next : Unit → Rule β} (h : Ensures p.after (next ()) Q) :
    Ensures r (Rule.take p >>= next) Q := h

theorem get {next : Reader → Rule β} (h : Ensures r (next r) Q) :
    Ensures r (MonadState.get >>= next) Q := h

theorem set {s : Reader} {next : PUnit → Rule β} (h : Ensures s (next ⟨⟩) Q) :
    Ensures r (MonadStateOf.set s >>= next) Q := h

end Ensures

/-- The extras between `r` and `s`, to be handed over or forgotten. -/
structure Led (r : Reader) (extras : List Expr) (s : Reader) : Prop where
  passes : Passes (lexemesAll extras) r.rest s.rest
  gap : Passes [] r.rest s.rest
  lineJoins : ∀ t ∈ lexemesAll extras, IsLineJoin t

theorem Ensures.lead {r : Reader} {Q : β → Reader → Prop} {e : Expect}
    {next : List Expr → Rule β} (h : ∀ extras s, Led r extras s → Ensures s (next extras) Q) :
    Ensures r (Rule.lead e >>= next) Q := by
  have hahead := r.ahead_peek e
  exact h _ _ ⟨hahead.before, hahead.passes_before, hahead.lineJoins⟩

/-- Whatever was read, the reader `s` stands at `r` or behind it. -/
def Onward (r : Reader) (_ : α) (s : Reader) : Prop := s.rest <:+ r.rest

/-- Between the start of the rule and its end lie the lexemes of what it reads. -/
def Spells (f : α → List String) (rule : Rule α) : Prop :=
  ∀ r, Ensures r rule fun a s => Passes (f a) r.rest s.rest

theorem spells_led {rule : Rule Expr} (e : Expect) (h : Spells lexemes rule) :
    Spells lexemesAll (led e rule) := by
  intro r
  refine .lead fun extras s hextras => (h s).bind fun expr t hexpr => .pure ?_
  simpa using hextras.passes.trans hexpr

theorem ensures_operator (e : Expect) (text : String) (r : Reader) :
    Ensures r (operator e text) fun pieces s =>
      ∃ p : Peek, p.Ahead r ∧ p.token.lexeme?.isSome = true ∧ pieces = p.pieces ∧ s = p.after := by
  refine .peek fun p hp => ?_
  split
  · rename_i htext
    exact .take (.pure ⟨p, hp, Peek.isSome_of_isOperator htext, rfl, rfl⟩)
  · exact .failure

theorem spells_operator (e : Expect) (text : String) : Spells lexemesAll (operator e text) := by
  intro r
  refine (ensures_operator e text r).mono ?_
  rintro pieces s ⟨p, hp, htoken, rfl, rfl⟩
  exact hp.pieces htoken

theorem spells_keyword (e : Expect) (text : String) : Spells lexemesAll (keyword e text) := by
  intro r
  refine .peek fun p hp => ?_
  split
  · rename_i htext
    exact .take (.pure (hp.pieces (Peek.isSome_of_isWord htext)))
  · exact .failure

theorem spells_name (e : Expect) : Spells (fun found => lexemesAll found.1) (name e) := by
  intro r
  refine .peek fun p hp => ?_
  split
  · rename_i text htoken
    split
    · refine .take (.pure ?_)
      simpa using hp.pieces (by rw [htoken]; rfl)
    · exact .failure
  · exact .failure

section

variable {step : Rule (Option α)} {f : α → List String} {P : α → Prop}

theorem ensures_collect
    (h : ∀ r, Ensures r step fun item s => Passes (item.elim [] f) r.rest s.rest ∧ ∀ a ∈ item, P a)
    (items : List α) (fuel : Nat) (r : Reader) : Ensures r (collect step items fuel) fun all s =>
      ∃ more, all = items.reverse ++ more ∧ Passes (more.flatMap f) r.rest s.rest ∧
        ∀ a ∈ more, P a := by
  induction fuel generalizing items r with
  | zero => exact .failure
  | succ fuel ih =>
    refine (h r).bind fun item s hitem => ?_
    cases item with
    | none => exact .pure ⟨[], by simp, hitem.1, by simp⟩
    | some a =>
      refine (ih (a :: items) s).mono fun all t hall => ?_
      obtain ⟨more, rfl, hmore, hP⟩ := hall
      exact ⟨a :: more, by simp, hitem.1.trans hmore,
        List.forall_mem_cons.mpr ⟨hitem.2 a rfl, hP⟩⟩

/-- **What is collected** lies between the start of the first step and the end of the last one. -/
theorem ensures_many
    (h : ∀ r, Ensures r step fun item s => Passes (item.elim [] f) r.rest s.rest ∧ ∀ a ∈ item, P a)
    (r : Reader) : Ensures r (many step) fun all s =>
      Passes (all.flatMap f) r.rest s.rest ∧ ∀ a ∈ all, P a := by
  refine (ensures_collect h [] (r.left + 1) r).mono fun all s hall => ?_
  obtain ⟨more, rfl, hmore⟩ := hall
  exact hmore

theorem spells_many (h : Spells (fun item => item.elim [] f) step) :
    Spells (fun all => all.flatMap f) (many step) :=
  fun r => (ensures_many (P := fun _ => True)
    (fun r => (h r).mono fun _ _ hitem => ⟨hitem, fun _ _ => trivial⟩) r).mono fun _ _ h => h.1

end

end Rule

end StubLayers
