import StubLayers.Duplicates
import StubLayers.Proofs.Index

/-!
# Duplicates and what is added around them

The search for duplicates lets one shim decide for its name.  This file says that declarations
which are no shims cannot take a finding back, wherever they are put.

* `Interleaved P as bs`: `bs` is `as` with further elements, all of which satisfy `P`.
* `shimsAreRedundant_interleaved`: the shims stay the same, so the same one decides, and what covers
  it is still there.
* `shimsAreRedundant_renumbered`: numbers tell occurrences apart and do nothing else.
* `exists_renumbering`: a longer sequence numbers the old declarations anew, and keeps them apart.
* `mem_duplicates_of_interleaved` and `mem_duplicates_of_interleaved_numbered`: every name that was
  reported is reported again.
-/

namespace StubLayers

/-! ### Interleavings -/

/-- The second list is the first one with further elements that satisfy `P`, at any positions. -/
inductive Interleaved {α : Type} (P : α → Prop) : List α → List α → Prop
  | nil : Interleaved P [] []
  | kept (a : α) {as bs : List α} : Interleaved P as bs → Interleaved P (a :: as) (a :: bs)
  | added {b : α} {as bs : List α} : P b → Interleaved P as bs → Interleaved P as (b :: bs)

namespace Interleaved

variable {α β : Type} {P : α → Prop} {as bs : List α}

theorem sublist (h : Interleaved P as bs) : as.Sublist bs := by
  induction h with
  | nil => exact .slnil
  | kept a _ ih => exact ih.cons_cons a
  | added _ _ ih => exact ih.cons _

theorem filter (h : Interleaved P as bs) (p : α → Bool) :
    Interleaved P (as.filter p) (bs.filter p) := by
  induction h with
  | nil => exact .nil
  | kept a _ ih =>
    cases hp : p a with
    | true =>
      rw [List.filter_cons_of_pos hp, List.filter_cons_of_pos hp]
      exact .kept a ih
    | false =>
      rw [List.filter_cons_of_neg (by simp [hp]), List.filter_cons_of_neg (by simp [hp])]
      exact ih
  | @added b _ _ hb _ ih =>
    cases hp : p b with
    | true =>
      rw [List.filter_cons_of_pos hp]
      exact .added hb ih
    | false =>
      rw [List.filter_cons_of_neg (by simp [hp])]
      exact ih

/-- A test that no further element passes does not see the difference. -/
theorem filter_eq (h : Interleaved P as bs) {p : α → Bool} (hp : ∀ b, P b → p b = false) :
    bs.filter p = as.filter p := by
  induction h with
  | nil => rfl
  | kept a _ ih => rw [List.filter_cons, List.filter_cons, ih]
  | added hb _ ih => rw [List.filter_cons_of_neg (by simp [hp _ hb]), ih]

theorem refl (as : List α) : Interleaved P as as := by
  induction as with
  | nil => exact .nil
  | cons a as ih => exact .kept a ih

theorem of_forall {bs : List α} (h : ∀ b ∈ bs, P b) : Interleaved P [] bs := by
  induction bs with
  | nil => exact .nil
  | cons b bs ih =>
    rw [List.forall_mem_cons] at h
    exact .added h.1 (ih h.2)

theorem append {as' bs' : List α} (h : Interleaved P as bs) (h' : Interleaved P as' bs') :
    Interleaved P (as ++ as') (bs ++ bs') := by
  induction h with
  | nil => exact h'
  | kept a _ ih => exact .kept a ih
  | added hb _ ih => exact .added hb ih

theorem flatMap {xs : List β} {f g : β → List α} (h : ∀ x ∈ xs, Interleaved P (f x) (g x)) :
    Interleaved P (xs.flatMap f) (xs.flatMap g) := by
  induction xs with
  | nil => exact .nil
  | cons x xs ih =>
    rw [List.forall_mem_cons] at h
    rw [List.flatMap_cons, List.flatMap_cons]
    exact h.1.append (ih h.2)

theorem flatMap_sublist {xs ys : List β} (h : xs.Sublist ys) {g : β → List α}
    (hP : ∀ y ∈ ys, ∀ b ∈ g y, P b) : Interleaved P (xs.flatMap g) (ys.flatMap g) := by
  induction h with
  | slnil => exact .nil
  | cons y _ ih =>
    rw [List.forall_mem_cons] at hP
    rw [List.flatMap_cons]
    exact (of_forall hP.1).append (ih hP.2)
  | cons_cons x _ ih =>
    rw [List.forall_mem_cons] at hP
    rw [List.flatMap_cons, List.flatMap_cons]
    exact (refl (g x)).append (ih hP.2)

end Interleaved

/-! ### The deciding shim -/

section

variable {shims : String} {os os' : List Occurrence}

theorem eligibleShims_interleaved
    (h : Interleaved (fun o => o.isOverride shims = false) os os') :
    eligibleShims os' shims = eligibleShims os shims := by
  rw [eligibleShims, eligibleShims, h.filter_eq fun _ hb => hb]

/-- **Redundant shims stay redundant** when occurrences that are no shims come in. -/
theorem shimsAreRedundant_interleaved
    (h : Interleaved (fun o => o.isOverride shims = false) os os')
    (hred : shimsAreRedundant os shims = true) : shimsAreRedundant os' shims = true := by
  have hdeciding : decidingShim os' shims = decidingShim os shims := by
    rw [decidingShim, decidingShim, eligibleShims_interleaved h]
  have hlength := h.sublist.length_le
  rw [shimsAreRedundant] at hred
  split_ifs at hred with hshort hnone
  rw [shimsAreRedundant, if_neg (by omega), eligibleShims_interleaved h, if_neg hnone, hdeciding]
  cases hshim : decidingShim os shims with
  | none => rfl
  | some shim =>
    rw [hshim] at hred
    obtain ⟨o, ho, hcovers⟩ := List.any_eq_true.mp hred
    exact List.any_eq_true.mpr ⟨o, (h.filter _).sublist.subset ho, hcovers⟩

theorem two_le_length_of_redundant (hred : shimsAreRedundant os shims = true) : 2 ≤ os.length := by
  rw [shimsAreRedundant] at hred
  split_ifs at hred with hshort
  omega

end

/-! ### Numbers -/

namespace Occurrence

def renumbered (f : Nat → Nat) (o : Occurrence) : Occurrence := ⟨f o.number, o.declaration⟩

end Occurrence

open Occurrence

theorem named_renumbered (f : Nat → Nat) (key : String) (os : List Occurrence) :
    named key (os.map (renumbered f)) = (named key os).map (renumbered f) :=
  List.filter_map

theorem eligibleShims_renumbered (f : Nat → Nat) (os : List Occurrence) (shims : String) :
    eligibleShims (os.map (renumbered f)) shims =
      (eligibleShims os shims).map (renumbered f) := by
  rw [eligibleShims, eligible, List.filter_map, List.filter_map]
  rfl

theorem decidingShim_renumbered (f : Nat → Nat) (os : List Occurrence) (shims : String) :
    decidingShim (os.map (renumbered f)) shims = (decidingShim os shims).map (renumbered f) := by
  rw [decidingShim, eligibleShims_renumbered, List.find?_map]
  rfl

/-- **Numbers only tell occurrences apart.** -/
theorem shimsAreRedundant_renumbered {f : Nat → Nat} {os : List Occurrence} (shims : String)
    (hf : ∀ o ∈ os, ∀ o' ∈ os, f o.number = f o'.number → o.number = o'.number) :
    shimsAreRedundant (os.map (renumbered f)) shims = shimsAreRedundant os shims := by
  rw [shimsAreRedundant, shimsAreRedundant, List.length_map, eligibleShims_renumbered,
    List.isEmpty_map, decidingShim_renumbered]
  congr 2
  cases hshim : decidingShim os shims with
  | none => rfl
  | some shim =>
    have hmem : shim ∈ os := List.mem_of_mem_filter
      (List.mem_of_mem_filter (List.mem_of_find?_eq_some hshim))
    rw [Option.map_some, eligible, List.filter_map]
    dsimp only
    rw [List.any_map, Bool.eq_iff_iff, List.any_eq_true, List.any_eq_true]
    refine exists_congr fun o => and_congr_right fun ho => ?_
    have hnumber : f o.number = f shim.number ↔ o.number = shim.number :=
      ⟨hf o (List.mem_of_mem_filter ho) shim hmem, congrArg f⟩
    simp only [Function.comp_apply, renumbered, Bool.and_eq_true, decide_eq_true_eq, ne_eq, hnumber]
    rfl

/-- A longer sequence numbers what it keeps anew, and keeps it apart. -/
theorem exists_renumbering {P : Declaration → Prop} {ds es : List Declaration}
    (h : Interleaved P ds es) (n m : Nat) :
    ∃ f : Nat → Nat, (∀ i, n ≤ i → m ≤ f i) ∧
      (∀ i j, n ≤ i → n ≤ j → f i = f j → i = j) ∧
      Interleaved (fun o => P o.declaration) ((numbered n ds).map (renumbered f))
        (numbered m es) := by
  induction h generalizing n m with
  | nil =>
    refine ⟨fun i => m + (i - n), ?_, ?_, .nil⟩
    · intro i _
      exact Nat.le_add_right m _
    · intro i j hi hj he
      simp only at he
      omega
  | @kept d ds es _ ih =>
    obtain ⟨f, hle, hinj, hrest⟩ := ih (n + 1) (m + 1)
    refine ⟨Function.update f n m, ?_, ?_, ?_⟩
    · intro i hi
      have hfi := hle i
      rw [Function.update_apply]
      split_ifs <;> omega
    · intro i j hi hj he
      have hfi := hle i
      have hfj := hle j
      have hij := hinj i j
      rw [Function.update_apply, Function.update_apply] at he
      split_ifs at he <;> omega
    · have hsame : (numbered (n + 1) ds).map (renumbered (Function.update f n m)) =
          (numbered (n + 1) ds).map (renumbered f) := by
        refine List.map_congr_left fun o ho => ?_
        have hnumber := le_number ho
        rw [renumbered, renumbered, Function.update_of_ne (by omega)]
      rw [numbered, List.map_cons, hsame, numbered, renumbered, Function.update_self]
      exact .kept _ hrest
  | added hb _ ih =>
    obtain ⟨f, hle, hinj, hrest⟩ := ih n (m + 1)
    exact ⟨f, fun i hi => Nat.le_of_succ_le (hle i hi), hinj, .added hb hrest⟩

/-! ### Reported names -/

/-- The reported names are those whose occurrences hold redundant shims. -/
theorem Index.Lists.mem_duplicates_iff {index : Index} {os : List Occurrence}
    (h : index.Lists os) {shims key : String} :
    key ∈ (findDuplicates index shims).map (·.1) ↔
      shimsAreRedundant (named key os) shims = true := by
  rw [findDuplicates, Index.items, h.entries_eq, grouped, List.filter_map, List.map_map]
  simp only [List.mem_map, List.mem_filter, List.mem_eraseDups, Function.comp_apply,
    exists_eq_right, and_iff_right_iff_imp]
  intro hred
  -- a name with redundant shims occurs
  by_contra hnot
  have hlength := two_le_length_of_redundant hred
  rw [named_eq_nil (by simpa using hnot)] at hlength
  exact absurd hlength (by simp)

/-- **What is no shim takes no finding back.** -/
theorem mem_duplicates_of_interleaved {index index' : Index} {os os' : List Occurrence}
    {shims key : String} (h : Interleaved (fun o => o.isOverride shims = false) os os')
    (hindex : index.Lists os) (hindex' : index'.Lists os')
    (hkey : key ∈ (findDuplicates index shims).map (·.1)) :
    key ∈ (findDuplicates index' shims).map (·.1) := by
  rw [hindex.mem_duplicates_iff] at hkey
  rw [hindex'.mem_duplicates_iff]
  exact shimsAreRedundant_interleaved (h.filter _) hkey

/-- The same for declarations as they are met, where every index has numbers of its own. -/
theorem mem_duplicates_of_interleaved_numbered {index index' : Index} {ds es : List Declaration}
    {shims key : String}
    (h : Interleaved (fun d => shims.toList.isPrefixOf d.location.file.toList = false) ds es)
    (hindex : index.Lists (numbered 0 ds)) (hindex' : index'.Lists (numbered 0 es))
    (hkey : key ∈ (findDuplicates index shims).map (·.1)) :
    key ∈ (findDuplicates index' shims).map (·.1) := by
  obtain ⟨f, -, hinj, hrenumbered⟩ := exists_renumbering h 0 0
  rw [hindex.mem_duplicates_iff] at hkey
  rw [hindex'.mem_duplicates_iff]
  refine shimsAreRedundant_interleaved (hrenumbered.filter _) ?_
  rw [← named, named_renumbered, shimsAreRedundant_renumbered shims fun o _ o' _ =>
    hinj o.number o'.number (Nat.zero_le _) (Nat.zero_le _)]
  exact hkey

end StubLayers
