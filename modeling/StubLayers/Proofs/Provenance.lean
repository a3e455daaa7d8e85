import StubLayers.Proofs.Origin
import StubLayers.Proofs.Tags

/-!
# The layer of a declaration

A check indexes one layer after the other and keeps no note of the layer: what counts as a shim is
told later, by the text of its file.  This file says where each occurrence in the index was met and
that the text tells it.

* `Index.Lists.mem_items_iff`: the index holds every occurrence of its sequence and no other.
* `Check.MetIn`: the occurrence was met in a layer, at the turn of this layer.
* `mem_numbered_declared_iff`: every occurrence of a check was met in one of its layers.
* `isOverride_iff_met_in_shims`: an occurrence counts as a shim exactly if it was met in the layer
  of the shims.
-/

namespace StubLayers

/-! ### Occurrences in an index -/

theorem mem_grouped_iff {os : List Occurrence} {o : Occurrence} :
    (∃ entry ∈ grouped os, o ∈ entry.2) ↔ o ∈ os := by
  constructor
  · rintro ⟨entry, hentry, ho⟩
    obtain ⟨key, -, rfl⟩ := List.mem_map.mp hentry
    exact (mem_named.mp ho).1
  · intro ho
    refine ⟨(o.declaration.name, named o.declaration.name os), ?_, mem_named.mpr ⟨ho, rfl⟩⟩
    have hname : o.declaration.name ∈ (os.map (·.declaration.name)).eraseDups :=
      List.mem_eraseDups.mpr (List.mem_map_of_mem ho)
    exact List.mem_map_of_mem hname

theorem Index.Lists.mem_items_iff {index : Index} {os : List Occurrence} (h : index.Lists os)
    {o : Occurrence} : (∃ entry ∈ index.items, o ∈ entry.2) ↔ o ∈ os := by
  rw [Index.items, h.entries_eq]
  exact mem_grouped_iff

/-! ### The turn of a layer -/

namespace Check

theorem declared_append (host : Host) (root : Path) (layers more : List Layer) :
    declared host root (layers ++ more) = declared host root layers ++ declared host root more :=
  List.flatMap_append

theorem declared_cons (host : Host) (root : Path) (layer : Layer) (rest : List Layer) :
    declared host root (layer :: rest) =
      declared host root [layer] ++ declared host root rest :=
  declared_append host root [layer] rest

/-- The occurrence was met in `layer`, when all that stands before this layer had been indexed. -/
def MetIn (host : Host) (root : Path) (layers : List Layer) (o : Occurrence) (layer : Layer) :
    Prop :=
  ∃ before after, layers = before ++ layer :: after ∧
    o ∈ numbered (declared host root before).length (declared host root [layer])

theorem MetIn.mem_layers {host : Host} {root : Path} {layers : List Layer} {o : Occurrence}
    {layer : Layer} (h : MetIn host root layers o layer) : layer ∈ layers := by
  obtain ⟨before, after, rfl, -⟩ := h
  exact List.mem_append_right before List.mem_cons_self

/-- What was met in a layer is declared by a stub file of this layer. -/
theorem MetIn.exists_file {host : Host} {root : Path} {layers : List Layer} {o : Occurrence}
    {layer : Layer} (h : MetIn host root layers o layer) :
    ∃ path ∈ findStubFiles host (layerPath root layer.dir), ∃ tree,
      loadFile host (layerPath root layer.dir) (some root) path = .ok tree ∧
        o.declaration ∈ tree.walk := by
  obtain ⟨before, after, -, ho⟩ := h
  obtain ⟨_, hlayer, hfile⟩ := mem_declared.mp (mem_of_mem_numbered ho)
  rw [List.mem_singleton] at hlayer
  rw [hlayer] at hfile
  exact hfile

theorem mem_numbered_declared_split {host : Host} {root : Path} {layers : List Layer} {n : Nat}
    {o : Occurrence} :
    o ∈ numbered n (declared host root layers) ↔
      ∃ before layer after, layers = before ++ layer :: after ∧
        o ∈ numbered (n + (declared host root before).length) (declared host root [layer]) := by
  constructor
  · intro ho
    induction layers generalizing n with
    | nil => exact absurd ho List.not_mem_nil
    | cons first rest ih =>
      rw [declared_cons, numbered_append, List.mem_append] at ho
      rcases ho with ho | ho
      · exact ⟨[], first, rest, rfl, ho⟩
      · obtain ⟨before, layer, after, rfl, hlayer⟩ := ih ho
        refine ⟨first :: before, layer, after, rfl, ?_⟩
        rw [declared_cons, List.length_append, ← Nat.add_assoc]
        exact hlayer
  · rintro ⟨before, layer, after, rfl, ho⟩
    rw [declared_append, numbered_append, declared_cons, numbered_append]
    exact List.mem_append_right _ (List.mem_append_left _ ho)

/-- **Every occurrence was met in a layer.** -/
theorem mem_numbered_declared_iff {host : Host} {root : Path} {layers : List Layer}
    {o : Occurrence} :
    o ∈ numbered 0 (declared host root layers) ↔ ∃ layer, MetIn host root layers o layer := by
  rw [mem_numbered_declared_split]
  simp only [Nat.zero_add, MetIn]
  constructor
  · rintro ⟨before, layer, after, h⟩
    exact ⟨layer, before, after, h⟩
  · rintro ⟨layer, before, after, h⟩
    exact ⟨before, layer, after, h⟩

end Check

/-! ### Tags by layers -/

open Check

theorem CheckConfig.dir_of_shim_layer {config : CheckConfig} {layer : Layer}
    (h : layer ∈ config.layers) (hkind : layer.kind = .shim) : layer.dir = config.shimDir := by
  rw [layers, List.mem_append, List.mem_cons, List.mem_map, List.mem_map] at h
  rcases h with ⟨dir, -, rfl⟩ | rfl | ⟨dir, -, rfl⟩
  · exact absurd hkind (by simp)
  · rfl
  · exact absurd hkind (by simp)

/-- **The text of a file tells its layer.**  In a check that is not refused and whose directories
are relative to the project, every occurrence in the index was met in a layer, and it counts as a
shim exactly if that is the layer of the shims.  So nothing in a sibling directory does, even if
its name starts with that of the shim directory. -/
theorem isOverride_iff_met_in_shims (host : Host) (config : CheckConfig)
    (accepted : config.obstacle? = none)
    (relative : ∀ dir ∈ config.shimDir :: config.otherDirs, (Path.ofString dir).isAbsolute = false)
    (key : String) (os : List Occurrence)
    (indexed : (key, os) ∈ (indexOf (config.layers.map (loadLayer host config.root))).items)
    (o : Occurrence) (ho : o ∈ os) :
    (∃ layer, MetIn host config.root config.layers o layer) ∧
      ∀ layer, MetIn host config.root config.layers o layer →
        (o.isOverride (shimPrefix config.shimDir config.root) = true ↔ layer.kind = .shim) := by
  have hshim := relative config.shimDir List.mem_cons_self
  refine ⟨?_, ?_⟩
  · rw [← mem_numbered_declared_iff]
    exact (lists_indexOf host config.root config.layers).mem_items_iff.mp ⟨_, indexed, ho⟩
  · intro layer hmet
    obtain ⟨path, hpath, tree, hload, hd⟩ := hmet.exists_file
    have htags : o.isOverride (shimPrefix config.shimDir config.root) =
        config.tags (shownPath path (some config.root)) := by
      rw [Occurrence.isOverride, Declaration.isShim, file_loadFile hload _ hd, CheckConfig.tags]
    rw [htags]
    by_cases hkind : layer.kind = .shim
    · rw [CheckConfig.dir_of_shim_layer hmet.mem_layers hkind] at hpath
      exact iff_of_true (CheckConfig.tags_shim hshim hpath) hkind
    · have hother := CheckConfig.mem_otherDirs_of_layer hmet.mem_layers hkind
      exact iff_of_false (CheckConfig.not_tags_other hshim accepted hother
        (relative _ (List.mem_cons_of_mem _ hother)) hpath) hkind

/-- The shims of the sample project beside a directory whose name goes on where theirs ends. -/
def siblingHost : Host :=
  { sampleHost with
    tree := (FileTree.empty.write ["p", "shims", "a.pyi"] (Utf8.encode "x: int\n")).write
      ["p", "shims2", "a.pyi"] (Utf8.encode "x: int\n") }

def siblingConfig : CheckConfig :=
  { sampleConfig with shimDir := "./shims//", generatedDirs := ["shims2/", "shims2/../shims"] }

theorem isOverride_iff_met_in_shims_sibling :
    siblingConfig.obstacle? = none ∧
    ∃ o, MetIn siblingHost siblingConfig.root siblingConfig.layers o ⟨.generated, "shims2/"⟩ ∧
      o.isOverride (shimPrefix "./shims//" siblingConfig.root) = false := by
  have accepted : siblingConfig.obstacle? = none := by decide
  have hsome : declared siblingHost siblingConfig.root [⟨.generated, "shims2/"⟩] ≠ [] := by
    rw [← List.isEmpty_eq_false_iff]
    decide +kernel
  obtain ⟨d, hd⟩ := List.exists_mem_of_ne_nil _ hsome
  obtain ⟨o, ho, rfl⟩ := exists_mem_numbered
    (declared siblingHost siblingConfig.root [⟨.shim, "./shims//"⟩]).length hd
  have hmet : MetIn siblingHost siblingConfig.root siblingConfig.layers o
      ⟨.generated, "shims2/"⟩ := ⟨[⟨.shim, "./shims//"⟩], [⟨.generated, "shims2/../shims"⟩], rfl, ho⟩
  obtain ⟨⟨key, os⟩, hentry, hmem⟩ :=
    (lists_indexOf siblingHost siblingConfig.root siblingConfig.layers).mem_items_iff.mpr
      (mem_numbered_declared_iff.mpr ⟨_, hmet⟩)
  obtain ⟨-, htag⟩ := isOverride_iff_met_in_shims siblingHost siblingConfig accepted
    (by decide +kernel) key os hentry o hmem
  refine ⟨accepted, o, hmet, ?_⟩
  rw [← Bool.not_eq_true]
  exact fun h => absurd ((htag _ hmet).mp h) (by decide)

end StubLayers
