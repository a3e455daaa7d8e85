import Mathlib.Data.List.Forall2
import StubLayers.Duplicates

/-!
# When shims are redundant

The verdict on a name is computed by narrowing down its occurrences step by step.  This file states
the condition that comes out, for any list of occurrences: the same one may stand in it twice, and
different ones may be equal in all but their number.

* `Occurrence.IsShim`, `Decides`: the shims that are compared, and the first one with a signature.
* `decidingShim_eq_some_iff`, `decidingShim_eq_none_iff`: the search for it.
* `SeenAlike`: two occurrences that the verdict does not tell apart.  How often and in which order
  signatures are written does not count, nor does anything about a type scope or an alias.
* `shimsAreRedundant_iff_repeated` is the condition.
-/

namespace StubLayers

/-! ### Shims and the one that decides -/

namespace Occurrence

/-- A method or a value: neither a type scope nor an alias. -/
def IsCompared (o : Occurrence) : Prop :=
  o.declaration.kind = .method ∨ o.declaration.kind = .attr

/-- A method or a value in a file of the shims. -/
def IsShim (shims : String) (o : Occurrence) : Prop :=
  o.IsCompared ∧ shims.toList <+: o.declaration.location.file.toList

def IsSigned (o : Occurrence) : Prop := o.declaration.signatures ≠ []

theorem isEligible_iff {o : Occurrence} : o.isEligible = true ↔ o.IsCompared := by
  rw [isEligible, IsCompared]
  cases o.declaration.kind <;> simp [DeclarationKind.isEligible]

theorem isOverride_iff {o : Occurrence} {shims : String} :
    o.isOverride shims = true ↔ shims.toList <+: o.declaration.location.file.toList := by
  rw [isOverride, Declaration.isShim, List.isPrefixOf_iff_prefix]

theorem covers_iff {o shim : Occurrence} :
    o.covers shim = true ↔ shim.declaration.signatures ⊆ o.declaration.signatures := by
  rw [covers, Declaration.covers, List.all_eq_true]
  simp only [List.contains_iff_mem]
  rfl

end Occurrence

/-- `shim` is the first of the shims that has a signature. -/
def Decides (shims : String) (os : List Occurrence) (shim : Occurrence) : Prop :=
  ∃ before after, os = before ++ shim :: after ∧ shim.IsShim shims ∧ shim.IsSigned ∧
    ∀ o ∈ before, o.IsShim shims → ¬ o.IsSigned

theorem Decides.mem {shims : String} {os : List Occurrence} {shim : Occurrence}
    (h : Decides shims os shim) : shim ∈ os := by
  obtain ⟨before, after, rfl, -⟩ := h
  exact List.mem_append_right before List.mem_cons_self

theorem Decides.isShim {shims : String} {os : List Occurrence} {shim : Occurrence}
    (h : Decides shims os shim) : shim.IsShim shims := by
  obtain ⟨-, -, -, hshim, -⟩ := h
  exact hshim

section

variable {os : List Occurrence} {shims : String}

theorem eligibleShims_eq_nil_iff : eligibleShims os shims = [] ↔ ∀ o ∈ os, ¬ o.IsShim shims := by
  rw [eligibleShims, eligible, List.filter_filter, List.filter_eq_nil_iff]
  simp only [Bool.and_eq_true, Occurrence.isEligible_iff, Occurrence.isOverride_iff]
  rfl

/-- What the deciding shim is searched by. -/
def isSignedShim (shims : String) (o : Occurrence) : Bool :=
  o.isOverride shims && o.isEligible && !o.declaration.signatures.isEmpty

theorem isSignedShim_iff {o : Occurrence} :
    isSignedShim shims o = true ↔ o.IsShim shims ∧ o.IsSigned := by
  rw [isSignedShim, Bool.and_eq_true, Bool.and_eq_true, Occurrence.isOverride_iff,
    Occurrence.isEligible_iff, Bool.not_eq_true', List.isEmpty_eq_false_iff, Occurrence.IsShim,
    Occurrence.IsSigned, and_comm (a := _ <+: _)]

theorem decidingShim_eq_find? : decidingShim os shims = os.find? (isSignedShim shims) := by
  rw [decidingShim, eligibleShims, eligible, List.find?_filter, List.find?_filter]
  congr 1
  funext o
  rw [Bool.eq_iff_iff]
  simp [isSignedShim, and_assoc]

theorem decidingShim_eq_none_iff :
    decidingShim os shims = none ↔ ∀ o ∈ os, o.IsShim shims → ¬ o.IsSigned := by
  rw [decidingShim_eq_find?, List.find?_eq_none]
  simp only [isSignedShim_iff, not_and]

theorem decidingShim_eq_some_iff {shim : Occurrence} :
    decidingShim os shims = some shim ↔ Decides shims os shim := by
  rw [decidingShim_eq_find?, List.find?_eq_some_iff_append, isSignedShim_iff, Decides]
  simp only [Bool.not_eq_true', ← Bool.not_eq_true, isSignedShim_iff, not_and]
  constructor
  · rintro ⟨⟨hshim, hsigned⟩, before, after, hsplit, hbefore⟩
    exact ⟨before, after, hsplit, hshim, hsigned, hbefore⟩
  · rintro ⟨before, after, hsplit, hshim, hsigned, hbefore⟩
    exact ⟨⟨hshim, hsigned⟩, before, after, hsplit, hbefore⟩

/-- The shims repeat another occurrence: none of them has a signature, or the first one that has is
covered by an occurrence other than itself. -/
structure Repeated (shims : String) (os : List Occurrence) : Prop where
  several : 2 ≤ os.length
  shim : ∃ o ∈ os, o.IsShim shims
  covered : (∀ o ∈ os, o.IsShim shims → ¬ o.IsSigned) ∨
    ∃ shim, Decides shims os shim ∧ ∃ o ∈ os, o.IsCompared ∧ o.number ≠ shim.number ∧
      shim.declaration.signatures ⊆ o.declaration.signatures

theorem any_covers_iff {shim : Occurrence} :
    ((eligible os).any fun o => o.number ≠ shim.number && o.covers shim) = true ↔
      ∃ o ∈ os, o.IsCompared ∧ o.number ≠ shim.number ∧
        shim.declaration.signatures ⊆ o.declaration.signatures := by
  simp only [eligible, List.any_filter, List.any_eq_true, Bool.and_eq_true, decide_eq_true_eq,
    Occurrence.isEligible_iff, Occurrence.covers_iff]

/-- **The verdict is the condition.** -/
theorem redundant_iff : shimsAreRedundant os shims = true ↔ Repeated shims os := by
  have hshims : (eligibleShims os shims).isEmpty = true ↔ ¬ ∃ o ∈ os, o.IsShim shims := by
    rw [List.isEmpty_iff, eligibleShims_eq_nil_iff]
    simp only [not_exists, not_and]
  constructor
  · intro hred
    rw [shimsAreRedundant] at hred
    split_ifs at hred with hshort hnone
    refine ⟨Nat.not_lt.mp hshort, not_not.mp (mt hshims.mpr hnone), ?_⟩
    cases hdeciding : decidingShim os shims with
    | none => exact Or.inl (decidingShim_eq_none_iff.mp hdeciding)
    | some shim =>
      rw [hdeciding] at hred
      exact Or.inr ⟨shim, decidingShim_eq_some_iff.mp hdeciding, any_covers_iff.mp hred⟩
  · rintro ⟨hseveral, hshim, hcovered⟩
    rw [shimsAreRedundant, if_neg (Nat.not_lt.mpr hseveral),
      if_neg fun hnone => hshims.mp hnone hshim]
    rcases hcovered with hunsigned | ⟨shim, hdecides, hcovers⟩
    · rw [decidingShim_eq_none_iff.mpr hunsigned]
    · rw [decidingShim_eq_some_iff.mpr hdecides]
      exact any_covers_iff.mpr hcovers

end

/-! ### What the verdict does not see -/

/-- The verdict does not tell the two occurrences apart. -/
structure SeenAlike (shims : String) (o o' : Occurrence) : Prop where
  compared : o'.IsCompared ↔ o.IsCompared
  number : o.IsCompared → o'.number = o.number
  shim : o.IsCompared → (o'.IsShim shims ↔ o.IsShim shims)
  signatures : o.IsCompared → ∀ s, s ∈ o'.declaration.signatures ↔ s ∈ o.declaration.signatures

namespace SeenAlike

variable {shims : String} {o o' : Occurrence}

theorem symm (h : SeenAlike shims o o') : SeenAlike shims o' o where
  compared := h.compared.symm
  number hc := (h.number (h.compared.mp hc)).symm
  shim hc := (h.shim (h.compared.mp hc)).symm
  signatures hc s := (h.signatures (h.compared.mp hc) s).symm

theorem isShim_iff (h : SeenAlike shims o o') : o'.IsShim shims ↔ o.IsShim shims := by
  by_cases hcompared : o.IsCompared
  · exact h.shim hcompared
  · exact iff_of_false (fun hshim => hcompared (h.compared.mp hshim.1))
      (fun hshim => hcompared hshim.1)

theorem isSigned_iff (h : SeenAlike shims o o') (hcompared : o.IsCompared) :
    o'.IsSigned ↔ o.IsSigned := by
  rw [Occurrence.IsSigned, Occurrence.IsSigned, ← List.length_pos_iff, ← List.length_pos_iff,
    List.length_pos_iff_exists_mem, List.length_pos_iff_exists_mem]
  exact exists_congr (h.signatures hcompared)

theorem isSignedShim_eq (h : SeenAlike shims o o') :
    isSignedShim shims o' = isSignedShim shims o := by
  rw [Bool.eq_iff_iff, isSignedShim_iff, isSignedShim_iff, h.isShim_iff]
  exact and_congr_right fun hshim => h.isSigned_iff hshim.1

end SeenAlike

section

variable {os os' : List Occurrence} {shims : String}

theorem exists_seenAlike {P Q : Occurrence → Prop} (h : os.Forall₂ (SeenAlike shims) os')
    (hPQ : ∀ o o', SeenAlike shims o o' → P o → Q o') (hex : ∃ o ∈ os, P o) : ∃ o ∈ os', Q o := by
  induction h with
  | nil => exact absurd hex (by simp)
  | cons ho _ ih =>
    rw [List.exists_mem_cons_iff] at hex ⊢
    exact hex.imp (hPQ _ _ ho) ih

theorem decidingShim_seenAlike (h : os.Forall₂ (SeenAlike shims) os') {shim : Occurrence}
    (hshim : decidingShim os shims = some shim) :
    ∃ shim', decidingShim os' shims = some shim' ∧ SeenAlike shims shim shim' := by
  rw [decidingShim_eq_find?] at hshim
  simp only [decidingShim_eq_find?]
  induction h with
  | nil => exact absurd hshim (by simp)
  | @cons o o' _ _ ho _ ih =>
    rw [List.find?_cons] at hshim ⊢
    rw [ho.isSignedShim_eq]
    cases hfound : isSignedShim shims o with
    | true =>
      rw [hfound] at hshim
      obtain rfl := Option.some.inj hshim
      exact ⟨o', rfl, ho⟩
    | false =>
      rw [hfound] at hshim
      exact ih hshim

theorem Repeated.seenAlike (h : os.Forall₂ (SeenAlike shims) os') (hred : Repeated shims os) :
    Repeated shims os' := by
  refine ⟨h.length_eq ▸ hred.several,
    exists_seenAlike h (fun _ _ ho => ho.isShim_iff.mpr) hred.shim, ?_⟩
  rcases hred.covered with hunsigned | ⟨shim, hdecides, hcovered⟩
  · refine Or.inl fun o' ho' hshim hsigned => ?_
    have hback : os'.Forall₂ (SeenAlike shims) os := (h.imp fun _ _ ho => ho.symm).flip
    obtain ⟨o, ho, hfound⟩ := exists_seenAlike hback
      (fun _ _ ho hfound => ho.isSignedShim_eq.trans hfound)
      ⟨o', ho', isSignedShim_iff.mpr ⟨hshim, hsigned⟩⟩
    obtain ⟨hshim, hsigned⟩ := isSignedShim_iff.mp hfound
    exact hunsigned o ho hshim hsigned
  · obtain ⟨shim', hdecides', hshim⟩ :=
      decidingShim_seenAlike h (decidingShim_eq_some_iff.mpr hdecides)
    have hisShim := hdecides.isShim
    refine Or.inr ⟨shim', decidingShim_eq_some_iff.mp hdecides', exists_seenAlike h ?_ hcovered⟩
    rintro o o' ho ⟨hcompared, hnumber, hcovers⟩
    refine ⟨ho.compared.mpr hcompared, ?_, fun s hs => ?_⟩
    · rwa [ho.number hcompared, hshim.number hisShim.1]
    · rw [ho.signatures hcompared]
      exact hcovers ((hshim.signatures hisShim.1 s).mp hs)

end

/-- **When shims are redundant.**  There are at least two occurrences and among them a shim, and
either no shim has a signature, or the first one that has is covered by a method or value other than
itself, from any layer.  The verdict sees nothing else: of a method or value, whether it is a shim
and which signatures it has; of a type scope or an alias, only that it is there. -/
theorem shimsAreRedundant_iff_repeated (os : List Occurrence) (shims : String) :
    (shimsAreRedundant os shims = true ↔ Repeated shims os) ∧
      ∀ os', os.Forall₂ (SeenAlike shims) os' →
        shimsAreRedundant os' shims = shimsAreRedundant os shims := by
  refine ⟨redundant_iff, fun os' h => ?_⟩
  rw [Bool.eq_iff_iff, redundant_iff, redundant_iff]
  exact ⟨Repeated.seenAlike (h.imp fun _ _ ho => ho.symm).flip, Repeated.seenAlike h⟩

/-- A value of type `int` in a shim file. -/
def signedShim : Declaration := ⟨.attr, "a#x", ⟨"shims/a.pyi", 1, 0, 1, 6⟩, [⟨[], some "int"⟩], []⟩

-- an equal shim covers it, but not the shim itself met again
example : shimsAreRedundant [⟨0, signedShim⟩, ⟨1, signedShim⟩] "shims/" = true := by decide
example : shimsAreRedundant [⟨0, signedShim⟩, ⟨0, signedShim⟩] "shims/" = false := by decide

end StubLayers
