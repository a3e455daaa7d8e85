import Mathlib.Algebra.BigOperators.Group.List.Lemmas
import Mathlib.Algebra.GroupWithZero.Nat
import Mathlib.Data.Finset.Card
import StubLayers.Proofs.Index

/-!
# Runs of an index

An index is filled by single declarations and by whole trees, and it is asked questions in between.
This file says that after any such run only the sequence of what was added counts.

* `Index.Call`, `Index.perform`, `Index.performAll`: a call, what it does and answers, and a run.
* `Adds`: what calls add; trees add all that is nested in them, in pre-order (`PreOrder`).
* `replied`: the answer to a call, from the sequence alone.
* `Index.Shows`: what the questions say about an index that holds a sequence.
* `perform_fst` and `Lists.perform_snd` are the step, `performAll_fst` is the run; `run_shows_added`
  puts the parts together.
-/

namespace StubLayers

/-! ### Calls -/

namespace Index

/-- The two ways to add to an index, and the six questions. -/
inductive Call where
  | add (d : Declaration)
  | addTrees (trees : List DeclarationTree)
  | keys
  | nodes (key : String)
  | get (key : String)
  | contains (key : String)
  | length
  | items
deriving Inhabited

inductive Answer where
  | done
  | names (names : List String)
  | found (os : List Occurrence)
  /-- Nothing has this name. -/
  | missing (key : String)
  | holds (b : Bool)
  | count (n : Nat)
  | entries (entries : Entries)
deriving Inhabited

/-- The index after a call, and the answer. -/
def perform (index : Index) : Call → Index × Answer
  | .add d => (index.add d, .done)
  | .addTrees trees => (index.addTrees trees, .done)
  | .keys => (index, .names index.keys)
  | .nodes key => (index, .found (index.nodes key))
  | .get key =>
    match index.get? key with
    | some os => (index, .found os)
    | none => (index, .missing key)
  | .contains key => (index, .holds (index.contains key))
  | .length => (index, .count index.length)
  | .items => (index, .entries index.items)

/-- Make calls in order. -/
def performAll : Index → List Call → Index × List Answer
  | index, [] => (index, [])
  | index, call :: calls =>
    let (next, answer) := index.perform call
    let (last, answers) := next.performAll calls
    (last, answer :: answers)

theorem performAll_cons (index : Index) (call : Call) (calls : List Call) :
    index.performAll (call :: calls) =
      (((index.perform call).1.performAll calls).1,
        (index.perform call).2 :: ((index.perform call).1.performAll calls).2) := rfl

theorem performAll_append (index : Index) (calls more : List Call) :
    index.performAll (calls ++ more) =
      (((index.performAll calls).1.performAll more).1,
        (index.performAll calls).2 ++ ((index.performAll calls).1.performAll more).2) := by
  induction calls generalizing index with
  | nil => rfl
  | cons call calls ih => rw [List.cons_append, performAll_cons, ih, performAll_cons, List.cons_append]

theorem length_answers (index : Index) (calls : List Call) :
    (index.performAll calls).2.length = calls.length := by
  induction calls generalizing index with
  | nil => rfl
  | cons call calls ih => rw [performAll_cons, List.length_cons, ih, List.length_cons]

/-- What a call adds. -/
def Call.added : Call → List Declaration
  | .add d => [d]
  | .addTrees trees => trees.flatMap (·.walk)
  | _ => []

/-- A call that only asks. -/
def Call.IsQuestion : Call → Prop
  | .add _ | .addTrees _ => False
  | _ => True

/-- What calls add, in order.  A declaration that is added alone comes without what is nested in it;
trees come with all of it. -/
inductive Adds : List Call → List Declaration → Prop
  | nil : Adds [] []
  | add {calls : List Call} {ds : List Declaration} (d : Declaration) : Adds calls ds →
      Adds (.add d :: calls) (d :: ds)
  | addTrees {calls : List Call} {ds l : List Declaration} {trees : List DeclarationTree} :
      PreOrder (trees.flatMap (·.nodes)) l → Adds calls ds →
      Adds (.addTrees trees :: calls) (l ++ ds)
  | ask {calls : List Call} {ds : List Declaration} {call : Call} : call.IsQuestion →
      Adds calls ds → Adds (call :: calls) ds

theorem adds_added (calls : List Call) : Adds calls (calls.flatMap (·.added)) := by
  induction calls with
  | nil => exact .nil
  | cons call calls ih =>
    rw [List.flatMap_cons]
    cases call with
    | add d => exact .add d ih
    | addTrees trees =>
      refine .addTrees (preOrder_iff.mpr ?_) ih
      rw [walkAll_flatMap]
      rfl
    | keys | nodes | get | contains | length | items => exact .ask trivial ih

theorem perform_fst (index : Index) (call : Call) :
    (index.perform call).1 = index.addAll call.added := by
  cases call with
  | add d => rfl
  | addTrees trees => exact addTrees_eq index trees
  | get key =>
    rw [perform]
    cases index.get? key <;> rfl
  | keys | nodes | contains | length | items => rfl

theorem addAll_append (index : Index) (ds es : List Declaration) :
    index.addAll (ds ++ es) = (index.addAll ds).addAll es :=
  List.foldl_append

/-- **A run adds what its calls add.** -/
theorem performAll_fst (index : Index) (calls : List Call) :
    (index.performAll calls).1 = index.addAll (calls.flatMap (·.added)) := by
  induction calls generalizing index with
  | nil => rfl
  | cons call calls ih =>
    rw [performAll_cons, List.flatMap_cons, addAll_append, ← perform_fst]
    exact ih _

/-! ### Questions to an index that holds a sequence -/

theorem get?_map (keys : List String) (f : String → List Occurrence) (key : String) :
    Entries.get? key (keys.map fun k => (k, f k)) = if key ∈ keys then some (f key) else none := by
  induction keys with
  | nil => rfl
  | cons k ks ih =>
    rw [List.map_cons, Entries.get?, ih]
    by_cases h : k = key
    · rw [if_pos h, if_pos (h ▸ List.mem_cons_self), h]
    · rw [if_neg h]
      simp only [List.mem_cons, Ne.symm h, false_or]

namespace Lists

variable {index : Index} {os : List Occurrence} (h : index.Lists os)

include h

theorem keys_eq : index.keys = (os.map (·.declaration.name)).eraseDups := by
  rw [keys, h.entries_eq, grouped, List.map_map]
  exact List.map_id _

theorem get?_eq (key : String) :
    index.get? key =
      if key ∈ os.map (·.declaration.name) then some (named key os) else none := by
  rw [get?, h.entries_eq, grouped, get?_map]
  simp only [List.mem_eraseDups]

theorem nodes_eq (key : String) : index.nodes key = named key os := by
  rw [nodes, h.get?_eq]
  by_cases hkey : key ∈ os.map (·.declaration.name)
  · rw [if_pos hkey, Option.getD_some]
  · rw [if_neg hkey, Option.getD_none, named_eq_nil hkey]

theorem contains_eq (key : String) :
    index.contains key = decide (key ∈ os.map (·.declaration.name)) := by
  rw [contains, h.get?_eq]
  by_cases hkey : key ∈ os.map (·.declaration.name) <;> simp [hkey]

theorem length_eq : index.length = (os.map (·.declaration.name)).eraseDups.length := by
  rw [length, h.entries_eq, grouped, List.length_map]

theorem items_eq : index.items = index.keys.map fun key => (key, index.nodes key) := by
  simp only [items, h.keys_eq, h.nodes_eq, h.entries_eq, grouped]

end Lists

theorem lists_addAll (ds : List Declaration) : (empty.addAll ds).Lists (numbered 0 ds) :=
  lists_empty.addAll ds

/-! ### What a sequence shows -/

/-- The answer to a call, from the sequence of what was added before. -/
def replied (ds : List Declaration) : Call → Answer
  | .add _ | .addTrees _ => .done
  | .keys => .names (ds.map (·.name)).eraseDups
  | .nodes key => .found (named key (numbered 0 ds))
  | .get key =>
    if key ∈ ds.map (·.name) then .found (named key (numbered 0 ds)) else .missing key
  | .contains key => .holds (decide (key ∈ ds.map (·.name)))
  | .length => .count (ds.map (·.name)).eraseDups.length
  | .items => .entries ((ds.map (·.name)).eraseDups.map fun key => (key, named key (numbered 0 ds)))

/-- **Every answer is that of the sequence.** -/
theorem Lists.perform_snd {index : Index} {ds : List Declaration}
    (h : index.Lists (numbered 0 ds)) (call : Call) : (index.perform call).2 = replied ds call := by
  cases call with
  | add | addTrees => rfl
  | keys => rw [perform, replied, h.keys_eq, map_name_numbered]
  | nodes key => rw [perform, replied, h.nodes_eq]
  | get key =>
    rw [perform, replied, h.get?_eq, map_name_numbered]
    by_cases hkey : key ∈ ds.map (·.name)
    · rw [if_pos hkey, if_pos hkey]
    · rw [if_neg hkey, if_neg hkey]
  | contains key => rw [perform, replied, h.contains_eq, map_name_numbered]
  | length => rw [perform, replied, h.length_eq, map_name_numbered]
  | items =>
    rw [perform, replied, h.items_eq, h.keys_eq, map_name_numbered]
    simp only [h.nodes_eq]

/-- The questions show the sequence: each name with its declarations in order, names by first
appearance. -/
structure Shows (index : Index) (ds : List Declaration) : Prop where
  nodes_eq : ∀ key, (index.nodes key).map (·.declaration) = ds.filter fun d => d.name = key
  keys_eq : index.keys = (ds.map (·.name)).eraseDups
  contains_iff : ∀ key, index.contains key = true ↔ ∃ d ∈ ds, d.name = key
  get?_eq_some_iff : ∀ key, index.get? key = some (index.nodes key) ↔ ∃ d ∈ ds, d.name = key
  get?_eq_none_iff : ∀ key, index.get? key = none ↔ ¬ ∃ d ∈ ds, d.name = key
  length_eq : index.length = (ds.map (·.name)).toFinset.card
  items_eq : index.items = index.keys.map fun key => (key, index.nodes key)
  total_eq : (index.keys.map fun key => (index.nodes key).length).sum = ds.length

theorem perm_eraseDups_dedup (names : List String) : names.eraseDups.Perm names.dedup := by
  refine (List.perm_ext_iff_of_nodup (nodup_eraseDups names) names.nodup_dedup).mpr fun name => ?_
  rw [List.mem_eraseDups, List.mem_dedup]

theorem length_named (key : String) (os : List Occurrence) :
    (named key os).length = (os.map (·.declaration.name)).count key := by
  rw [named, ← List.countP_eq_length_filter, List.count, List.countP_map]
  refine List.countP_congr fun o _ => ?_
  simp

/-- Every occurrence counts for one name. -/
theorem sum_length_named (os : List Occurrence) :
    (((os.map (·.declaration.name)).eraseDups.map fun key => (named key os).length).sum) =
      os.length := by
  simp only [length_named]
  rw [((perm_eraseDups_dedup _).map _).sum_eq, List.sum_map_count_dedup_eq_length, List.length_map]

theorem Lists.shows {index : Index} {ds : List Declaration} (h : index.Lists (numbered 0 ds)) :
    index.Shows ds := by
  have hmem : ∀ key, key ∈ ds.map (·.name) ↔ ∃ d ∈ ds, d.name = key := fun key => List.mem_map
  refine ⟨?_, ?_, ?_, ?_, ?_, ?_, h.items_eq, ?_⟩
  · intro key
    rw [h.nodes_eq, map_declaration_named, map_declaration_numbered]
  · rw [h.keys_eq, map_name_numbered]
  · intro key
    rw [h.contains_eq, map_name_numbered, decide_eq_true_iff, hmem]
  · intro key
    rw [← hmem, h.get?_eq, h.nodes_eq, map_name_numbered]
    by_cases hkey : key ∈ ds.map (·.name) <;> simp [hkey]
  · intro key
    rw [← hmem, h.get?_eq, map_name_numbered]
    by_cases hkey : key ∈ ds.map (·.name) <;> simp [hkey]
  · rw [h.length_eq, map_name_numbered, List.card_toFinset]
    exact (perm_eraseDups_dedup _).length_eq
  · simp only [h.keys_eq, h.nodes_eq]
    rw [sum_length_named, length_numbered]

/-! ### Nothing is replaced -/

/-- All that the first index has stands at the beginning of what the second one has. -/
structure Extends (index later : Index) : Prop where
  keys_prefix : index.keys <+: later.keys
  nodes_prefix : ∀ key, index.nodes key <+: later.nodes key

theorem prefix_eraseDups_append (names more : List String) :
    names.eraseDups <+: (names ++ more).eraseDups := by
  rw [List.eraseDups_append]
  exact List.prefix_append _ _

/-- A longer sequence extends the index. -/
theorem Lists.extends {index later : Index} {os os' : List Occurrence} (h : index.Lists os)
    (h' : later.Lists (os ++ os')) : index.Extends later := by
  refine ⟨?_, fun key => ?_⟩
  · rw [h.keys_eq, h'.keys_eq, List.map_append]
    exact prefix_eraseDups_append _ _
  · rw [h.nodes_eq, h'.nodes_eq, named_append]
    exact List.prefix_append _ _

end Index

open Index

/-- **A run shows what was added.**  After any calls the index is that of the sequence of all
declarations added, one by one and with what is nested in trees, and its questions show this
sequence.  Every answer on the way is that of the sequence up to there.  Later calls only append,
and trees may be added in one call or in several. -/
theorem run_shows_added (calls : List Call) :
    (∃ ds, Adds calls ds ∧
      (empty.performAll calls).1 = empty.addAll ds ∧
      (empty.performAll calls).1.Shows ds ∧
      ∀ call after, (empty.performAll (calls ++ call :: after)).2[calls.length]? =
        some (replied ds call)) ∧
    (∀ after, (empty.performAll calls).1.Extends (empty.performAll (calls ++ after)).1) ∧
    (∀ batches : List (List DeclarationTree),
      ((empty.performAll calls).1.performAll (batches.map .addTrees)).1 =
        (empty.performAll calls).1.addTrees batches.flatten) := by
  have hlists := lists_addAll (calls.flatMap (·.added))
  rw [← performAll_fst] at hlists
  refine ⟨⟨_, adds_added calls, performAll_fst empty calls, hlists.shows, ?_⟩, ?_, ?_⟩
  · intro call after
    rw [performAll_append, performAll_cons, List.getElem?_append_right (length_answers _ _).le,
      length_answers, Nat.sub_self, List.getElem?_cons_zero, hlists.perform_snd]
  · intro after
    have hlater := lists_addAll ((calls ++ after).flatMap (·.added))
    rw [← performAll_fst, List.flatMap_append, numbered_append] at hlater
    exact hlists.extends hlater
  · intro batches
    rw [performAll_fst, addTrees_eq, List.flatMap_map, List.flatten_eq_flatMap, List.flatMap_assoc]
    rfl

end StubLayers
