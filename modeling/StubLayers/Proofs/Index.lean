import Mathlib.Data.List.Induction
import Mathlib.Data.List.Nodup
import StubLayers.Index

/-!
# The index as a view of what was added

An index is filled one declaration at a time.  This file says what it holds at any moment: nothing
but the sequence of all declarations added so far decides its entries.

* `PreOrder`: a list of declarations with all that is nested in them, told without the walk.  The
  walk is the only such list (`preOrder_iff`).
* `numbered`: declarations as they are met, each with its number.
* `grouped`: the names of a sequence by first appearance, each with all its occurrences.
* `Index.Lists`: the index holds exactly a given sequence.  `Lists.add` is the step,
  `Lists.addAll` and `Lists.addTrees` are the runs.
-/

namespace StubLayers

/-! ### Nested declarations -/

/-- The second list holds the declarations of the first and all that is nested in them: each one
stands before what is nested in it, and that before the next one. -/
inductive PreOrder : List Declaration → List Declaration → Prop
  | nil : PreOrder [] []
  | cons {d : Declaration} {ds inner rest : List Declaration} : PreOrder d.children inner →
      PreOrder ds rest → PreOrder (d :: ds) (d :: (inner ++ rest))

mutual

theorem preOrder_walk : (d : Declaration) → PreOrder d.children (Declaration.walkAll d.children)
  | ⟨_, _, _, _, children⟩ => preOrder_walkAll children

theorem preOrder_walkAll : (ds : List Declaration) → PreOrder ds (Declaration.walkAll ds)
  | [] => .nil
  | d :: ds => by
    rw [Declaration.walkAll_cons]
    exact .cons (preOrder_walk d) (preOrder_walkAll ds)

end

/-- **The walk is the pre-order.** -/
theorem preOrder_iff {ds l : List Declaration} : PreOrder ds l ↔ l = Declaration.walkAll ds := by
  constructor
  · intro h
    induction h with
    | nil => rfl
    | cons _ _ inner rest => rw [Declaration.walkAll_cons, inner, rest]
  · rintro rfl
    exact preOrder_walkAll ds

theorem walkAll_flatMap {α : Type} (xs : List α) (f : α → List Declaration) :
    Declaration.walkAll (xs.flatMap f) = xs.flatMap fun x => Declaration.walkAll (f x) := by
  induction xs with
  | nil => rfl
  | cons x xs ih => rw [List.flatMap_cons, List.flatMap_cons, Declaration.walkAll_append, ih]

/-! ### Numbered declarations -/

/-- Declarations as they are met, numbered from `n` on. -/
def numbered (n : Nat) : List Declaration → List Occurrence
  | [] => []
  | d :: ds => ⟨n, d⟩ :: numbered (n + 1) ds

theorem numbered_append (n : Nat) (ds es : List Declaration) :
    numbered n (ds ++ es) = numbered n ds ++ numbered (n + ds.length) es := by
  induction ds generalizing n with
  | nil => rfl
  | cons d ds ih =>
    rw [List.cons_append, numbered, ih, numbered, List.cons_append, List.length_cons,
      Nat.add_assoc, Nat.add_comm 1]

@[simp] theorem length_numbered (n : Nat) (ds : List Declaration) :
    (numbered n ds).length = ds.length := by
  induction ds generalizing n with
  | nil => rfl
  | cons d ds ih => rw [numbered, List.length_cons, ih, List.length_cons]

@[simp] theorem map_declaration_numbered (n : Nat) (ds : List Declaration) :
    (numbered n ds).map (·.declaration) = ds := by
  induction ds generalizing n with
  | nil => rfl
  | cons d ds ih => rw [numbered, List.map_cons, ih]

theorem map_name_numbered (n : Nat) (ds : List Declaration) :
    (numbered n ds).map (·.declaration.name) = ds.map (·.name) := by
  conv_rhs => rw [← map_declaration_numbered n ds, List.map_map]
  rfl

theorem map_number_numbered (n : Nat) (ds : List Declaration) :
    (numbered n ds).map (·.number) = List.range' n ds.length := by
  induction ds generalizing n with
  | nil => rfl
  | cons d ds ih => rw [numbered, List.map_cons, ih, List.length_cons, List.range'_succ]

theorem le_number {n : Nat} {ds : List Declaration} {o : Occurrence} (h : o ∈ numbered n ds) :
    n ≤ o.number := by
  induction ds generalizing n with
  | nil => exact absurd h (by simp [numbered])
  | cons d ds ih =>
    rcases List.mem_cons.mp h with rfl | h
    · exact Nat.le_refl n
    · exact Nat.le_of_succ_le (ih h)

/-- Occurrences with one number are one occurrence. -/
theorem eq_of_number_eq {n : Nat} {ds : List Declaration} {o o' : Occurrence}
    (h : o ∈ numbered n ds) (h' : o' ∈ numbered n ds) (he : o.number = o'.number) : o = o' := by
  induction ds generalizing n with
  | nil => exact absurd h (by simp [numbered])
  | cons d ds ih =>
    rcases List.mem_cons.mp h with rfl | h <;> rcases List.mem_cons.mp h' with rfl | h'
    · rfl
    · have hle := le_number h'
      simp only at he
      omega
    · have hle := le_number h
      simp only at he
      omega
    · exact ih h h'

theorem mem_of_mem_numbered {n : Nat} {ds : List Declaration} {o : Occurrence}
    (h : o ∈ numbered n ds) : o.declaration ∈ ds := by
  rw [← map_declaration_numbered n ds]
  exact List.mem_map_of_mem h

theorem exists_mem_numbered (n : Nat) {ds : List Declaration} {d : Declaration} (h : d ∈ ds) :
    ∃ o ∈ numbered n ds, o.declaration = d := by
  rw [← map_declaration_numbered n ds] at h
  exact List.mem_map.mp h

/-! ### Occurrences by name -/

/-- The occurrences under a name, in order. -/
def named (key : String) (os : List Occurrence) : List Occurrence :=
  os.filter fun o => o.declaration.name = key

/-- The names of occurrences by first appearance, each with all its occurrences. -/
def grouped (os : List Occurrence) : Entries :=
  (os.map (·.declaration.name)).eraseDups.map fun key => (key, named key os)

theorem mem_named {key : String} {os : List Occurrence} {o : Occurrence} :
    o ∈ named key os ↔ o ∈ os ∧ o.declaration.name = key := by
  simp [named]

theorem named_append (key : String) (os os' : List Occurrence) :
    named key (os ++ os') = named key os ++ named key os' := List.filter_append ..

theorem map_declaration_named (key : String) (os : List Occurrence) :
    (named key os).map (·.declaration) =
      (os.map (·.declaration)).filter fun d => d.name = key := by
  rw [named, List.filter_map]
  rfl

theorem eraseDups_concat (names : List String) (name : String) :
    (names ++ [name]).eraseDups =
      if name ∈ names then names.eraseDups else names.eraseDups ++ [name] := by
  rw [List.eraseDups_append]
  by_cases h : name ∈ names
  · rw [if_pos h, List.removeAll, List.filter_cons_of_neg (by simp [h])]
    simp
  · rw [if_neg h, List.removeAll, List.filter_cons_of_pos (by simp [h])]
    simp [List.eraseDups_cons]

theorem nodup_eraseDups (names : List String) : names.eraseDups.Nodup := by
  induction names using List.reverseRecOn with
  | nil => exact List.nodup_nil
  | append_singleton names name ih =>
    rw [eraseDups_concat]
    by_cases h : name ∈ names
    · rw [if_pos h]
      exact ih
    · rw [if_neg h, ← List.concat_eq_append]
      exact ih.concat fun hm => h (List.mem_eraseDups.mp hm)

/-! ### Entries -/

theorem add_map_of_mem {keys : List String} (hd : keys.Nodup) {key : String} (h : key ∈ keys)
    (o : Occurrence) (f : String → List Occurrence) :
    Entries.add key o (keys.map fun k => (k, f k)) =
      keys.map fun k => (k, if k = key then f k ++ [o] else f k) := by
  induction keys with
  | nil => exact absurd h (by simp)
  | cons k ks ih =>
    obtain ⟨hk, hks⟩ := List.nodup_cons.mp hd
    rw [List.map_cons, Entries.add, List.map_cons]
    by_cases he : k = key
    · rw [if_pos he, if_pos he]
      refine congrArg (_ :: ·) (List.map_congr_left fun k' hk' => ?_)
      rw [if_neg fun hc => hk (by rw [he, ← hc]; exact hk')]
    · rw [if_neg he, if_neg he, ih hks (List.mem_of_ne_of_mem (Ne.symm he) h)]

theorem add_map_of_not_mem {keys : List String} {key : String} (h : key ∉ keys) (o : Occurrence)
    (f : String → List Occurrence) :
    Entries.add key o (keys.map fun k => (k, f k)) =
      (keys.map fun k => (k, f k)) ++ [(key, [o])] := by
  induction keys with
  | nil => rfl
  | cons k ks ih =>
    rw [List.mem_cons, not_or] at h
    rw [List.map_cons, Entries.add, if_neg (Ne.symm h.1), ih h.2, List.cons_append]

theorem named_concat (key : String) (os : List Occurrence) (o : Occurrence) :
    named key (os ++ [o]) =
      if key = o.declaration.name then named key os ++ [o] else named key os := by
  rw [named_append]
  by_cases h : key = o.declaration.name
  · rw [if_pos h, named, named, List.filter_cons_of_pos (by simp [h]), List.filter_nil]
  · rw [if_neg h, named, named, List.filter_cons_of_neg (by simp [Ne.symm h]), List.filter_nil,
      List.append_nil]

theorem named_eq_nil {key : String} {os : List Occurrence}
    (h : key ∉ os.map (·.declaration.name)) : named key os = [] := by
  rw [named, List.filter_eq_nil_iff]
  intro o ho hk
  exact h (List.mem_map.mpr ⟨o, ho, by simpa using hk⟩)

/-- One more occurrence goes to the end of its name's entry. -/
theorem grouped_concat (os : List Occurrence) (o : Occurrence) :
    grouped (os ++ [o]) = Entries.add o.declaration.name o (grouped os) := by
  rw [grouped, List.map_append, List.map_singleton, eraseDups_concat, grouped]
  simp only [named_concat]
  by_cases h : o.declaration.name ∈ os.map (·.declaration.name)
  · rw [if_pos h, add_map_of_mem (nodup_eraseDups _) (List.mem_eraseDups.mpr h)]
  · rw [if_neg h, add_map_of_not_mem (fun hm => h (List.mem_eraseDups.mp hm)), List.map_append,
      List.map_singleton, if_pos rfl, named_eq_nil h]
    refine congrArg (· ++ _) (List.map_congr_left fun k hk => ?_)
    rw [if_neg fun hc => h (by rw [← hc]; exact List.mem_eraseDups.mp hk)]

/-! ### What an index holds -/

namespace Index

/-- The index holds the occurrences `os`, added in this order. -/
structure Lists (index : Index) (os : List Occurrence) : Prop where
  entries_eq : index.entries = grouped os
  size_eq : index.size = os.length

theorem lists_empty : Lists empty [] := ⟨rfl, rfl⟩

theorem Lists.add {index : Index} {os : List Occurrence} (h : index.Lists os) (d : Declaration) :
    (index.add d).Lists (os ++ numbered os.length [d]) := by
  refine ⟨?_, ?_⟩
  · rw [Index.add, h.entries_eq, h.size_eq, numbered, numbered, grouped_concat]
  · rw [Index.add, h.size_eq, List.length_append, length_numbered, List.length_singleton]

theorem Lists.addAll {index : Index} {os : List Occurrence} (h : index.Lists os)
    (ds : List Declaration) : (index.addAll ds).Lists (os ++ numbered os.length ds) := by
  induction ds generalizing index os with
  | nil => rw [numbered, List.append_nil]; exact h
  | cons d ds ih =>
    have hstep := ih (h.add d)
    rw [List.append_assoc, List.length_append, length_numbered, ← numbered_append] at hstep
    exact hstep

theorem addTrees_eq (index : Index) (trees : List DeclarationTree) :
    index.addTrees trees = index.addAll (trees.flatMap (·.walk)) := by
  induction trees generalizing index with
  | nil => rfl
  | cons t ts ih =>
    rw [List.flatMap_cons]
    calc index.addTrees (t :: ts) = (index.addAll t.walk).addTrees ts := rfl
      _ = (index.addAll t.walk).addAll (ts.flatMap (·.walk)) := ih _
      _ = index.addAll (t.walk ++ ts.flatMap (·.walk)) := by
        rw [addAll, addAll, addAll, List.foldl_append]

theorem Lists.addTrees {index : Index} {os : List Occurrence} (h : index.Lists os)
    (trees : List DeclarationTree) :
    (index.addTrees trees).Lists (os ++ numbered os.length (trees.flatMap (·.walk))) := by
  rw [addTrees_eq]
  exact h.addAll _

end Index

end StubLayers
