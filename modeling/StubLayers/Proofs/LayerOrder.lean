import StubLayers.Proofs.Copies
import StubLayers.Proofs.Growth

/-!
# The order of the layers

A check takes in one layer after the other, and the first shim with a signature decides for its
name.  This file says that the layers may still come in any order: all shims come from one layer,
so their order is that of their files.

* `covered_iff`: the deciding shim covers itself, so it is repeated exactly if two declarations
  cover it.
* `Repeated.rearranged`: the verdict is the same for every arrangement that keeps the shims in
  order, whatever the numbers by which it tells occurrences apart.
* `Check.filter_isShim_declared`: layers in any order declare the same shims in the same order.
* `check_layers_reordered` puts them together.
-/

namespace StubLayers

/-! ### The verdict without numbers -/

section

variable {shims : String} {os os' : List Occurrence}

theorem map_declaration_decidingShim (os : List Occurrence) (shims : String) :
    (decidingShim os shims).map (·.declaration) =
      ((os.map (·.declaration)).filter (·.isShim shims)).find?
        fun d => d.kind.isEligible && !d.signatures.isEmpty := by
  rw [decidingShim_eq_find?, List.find?_filter, List.find?_map]
  congr 2
  funext o
  rw [Bool.eq_iff_iff]
  simp [isSignedShim, Occurrence.isOverride, Occurrence.isEligible, and_assoc]

/-- Another occurrence passes a test that `shim` passes exactly if two occurrences do. -/
theorem exists_other_iff {os : List Occurrence} (distinct : (os.map (·.number)).Nodup)
    {shim : Occurrence} (hshim : shim ∈ os) {p : Occurrence → Bool} (hp : p shim = true) :
    (∃ o ∈ os, o.number ≠ shim.number ∧ p o = true) ↔ 2 ≤ os.countP p := by
  obtain ⟨before, after, rfl⟩ := List.append_of_mem hshim
  have hcount : (before ++ shim :: after).countP p = (before ++ after).countP p + 1 := by
    rw [List.countP_append, List.countP_cons_of_pos hp, List.countP_append, Nat.add_assoc]
  -- the numbers on both sides of the shim are not its own
  have hothers : ∀ o ∈ before ++ after, o.number ≠ shim.number := by
    intro o ho he
    rw [List.map_append, List.map_cons, List.nodup_middle, List.nodup_cons,
      ← List.map_append] at distinct
    exact distinct.1 (he ▸ List.mem_map_of_mem ho)
  have htwo : 2 ≤ (before ++ after).countP p + 1 ↔ 0 < (before ++ after).countP p := by omega
  rw [hcount, htwo, List.countP_pos_iff]
  constructor
  · rintro ⟨o, ho, hne, hpo⟩
    have hother : o ∈ before ++ after := by
      rw [List.mem_append, List.mem_cons] at ho
      rw [List.mem_append]
      rcases ho with ho | rfl | ho
      · exact Or.inl ho
      · exact absurd rfl hne
      · exact Or.inr ho
    exact ⟨o, hother, hpo⟩
  · rintro ⟨o, ho, hpo⟩
    refine ⟨o, ?_, hothers o ho, hpo⟩
    rw [List.mem_append] at ho
    rw [List.mem_append, List.mem_cons]
    exact ho.imp_right Or.inr

/-- The deciding shim covers itself. -/
theorem covered_iff (distinct : (os.map (·.number)).Nodup) {shim : Occurrence}
    (hdecides : Decides shims os shim) :
    (∃ o ∈ os, o.IsCompared ∧ o.number ≠ shim.number ∧
        shim.declaration.signatures ⊆ o.declaration.signatures) ↔
      2 ≤ (os.map (·.declaration)).countP fun d =>
        d.kind.isEligible && d.covers shim.declaration := by
  have htest : ∀ o : Occurrence, (o.isEligible && o.covers shim) = true ↔
      o.IsCompared ∧ shim.declaration.signatures ⊆ o.declaration.signatures := by
    intro o
    rw [Bool.and_eq_true, Occurrence.isEligible_iff, Occurrence.covers_iff]
  have hself := (htest shim).mpr ⟨hdecides.isShim.1, List.Subset.refl _⟩
  rw [List.countP_map]
  refine Iff.trans ?_ (exists_other_iff distinct hdecides.mem hself)
  refine exists_congr fun o => and_congr_right fun _ => ?_
  rw [and_left_comm]
  exact and_congr_right fun _ => (htest o).symm

/-- **Numbers only tell occurrences apart, and the order of other declarations does not count.** -/
theorem Repeated.rearranged (h : Repeated shims os) (distinct : (os.map (·.number)).Nodup)
    (distinct' : (os'.map (·.number)).Nodup)
    (hperm : (os'.map (·.declaration)).Perm (os.map (·.declaration)))
    (hshims : (os'.map (·.declaration)).filter (·.isShim shims) =
      (os.map (·.declaration)).filter (·.isShim shims)) :
    Repeated shims os' := by
  have hlength : os'.length = os.length := by simpa using hperm.length_eq
  have hdeciding : (decidingShim os' shims).map (·.declaration) =
      (decidingShim os shims).map (·.declaration) := by
    rw [map_declaration_decidingShim, hshims, map_declaration_decidingShim]
  refine ⟨hlength ▸ h.several, ?_, ?_⟩
  · obtain ⟨o, ho, hshim⟩ := h.shim
    obtain ⟨o', ho', hsame⟩ := List.mem_map.mp (hperm.mem_iff.mpr (List.mem_map_of_mem ho))
    refine ⟨o', ho', ?_⟩
    rw [Occurrence.IsShim, Occurrence.IsCompared, hsame]
    exact hshim
  · rcases h.covered with hunsigned | ⟨shim, hdecides, hcovered⟩
    · rw [← decidingShim_eq_none_iff] at hunsigned ⊢
      rw [hunsigned, Option.map_none, Option.map_eq_none_iff] at hdeciding
      exact Or.inl hdeciding
    · rw [decidingShim_eq_some_iff.mpr hdecides, Option.map_some,
        Option.map_eq_some_iff] at hdeciding
      obtain ⟨shim', hshim', hsame⟩ := hdeciding
      have hdecides' := decidingShim_eq_some_iff.mp hshim'
      refine Or.inr ⟨shim', hdecides', (covered_iff distinct' hdecides').mpr ?_⟩
      rw [hsame, hperm.countP_eq]
      exact (covered_iff distinct hdecides).mp hcovered

theorem repeated_iff_of_rearranged (distinct : (os.map (·.number)).Nodup)
    (distinct' : (os'.map (·.number)).Nodup)
    (hperm : (os'.map (·.declaration)).Perm (os.map (·.declaration)))
    (hshims : (os'.map (·.declaration)).filter (·.isShim shims) =
      (os.map (·.declaration)).filter (·.isShim shims)) :
    Repeated shims os' ↔ Repeated shims os :=
  ⟨fun h => h.rearranged distinct' distinct hperm.symm hshims.symm,
    fun h => h.rearranged distinct distinct' hperm hshims⟩

end

theorem nodup_number_numbered (n : Nat) (ds : List Declaration) :
    ((numbered n ds).map (·.number)).Nodup := by
  rw [map_number_numbered]
  exact List.nodup_range'

theorem nodup_number_named (key : String) (ds : List Declaration) :
    ((named key (numbered 0 ds)).map (·.number)).Nodup := by
  exact (List.filter_sublist.map _).nodup (nodup_number_numbered 0 ds)

/-! ### Reported names -/

theorem flatMap_filter_of_nil {α β : Type} {xs : List α} {f : α → List β} {p : α → Bool}
    (h : ∀ x ∈ xs, p x = false → f x = []) : xs.flatMap f = (xs.filter p).flatMap f := by
  induction xs with
  | nil => rfl
  | cons x xs ih =>
    rw [List.forall_mem_cons] at h
    rw [List.flatMap_cons, ih h.2]
    cases hp : p x with
    | true => rw [List.filter_cons_of_pos hp, List.flatMap_cons]
    | false => rw [List.filter_cons_of_neg (by simp [hp]), h.1 hp, List.nil_append]

namespace Check

/-- A name is reported with all its declarations, exactly if its shims are redundant. -/
theorem mem_redundantNames_iff {shims key : String} {ds es : List Declaration} :
    (key, es) ∈ redundantNames shims ds ↔
      es = ds.filter (fun d => d.name = key) ∧ Repeated shims (numbered 0 es) := by
  have hverdict : ∀ name, shimsAreRedundant (named name (numbered 0 ds)) shims = true ↔
      Repeated shims (numbered 0 (ds.filter fun d => d.name = name)) := by
    intro name
    have hsame : (named name (numbered 0 ds)).map (·.declaration) =
        (numbered 0 (ds.filter fun d => d.name = name)).map (·.declaration) := by
      rw [map_declaration_named, map_declaration_numbered, map_declaration_numbered]
    rw [redundant_iff]
    exact repeated_iff_of_rearranged (nodup_number_numbered 0 _) (nodup_number_named name ds)
      (hsame ▸ List.Perm.refl _) (by rw [hsame])
  rw [redundantNames, List.mem_map]
  constructor
  · rintro ⟨name, hname, hentry⟩
    obtain ⟨rfl, rfl⟩ := Prod.mk.inj hentry
    exact ⟨rfl, (hverdict name).mp (List.mem_filter.mp hname).2⟩
  · rintro ⟨rfl, hred⟩
    refine ⟨key, List.mem_filter.mpr ⟨?_, (hverdict key).mpr hred⟩, rfl⟩
    -- redundant shims are at least two declarations, so the name occurs
    have hseveral := hred.several
    rw [length_numbered] at hseveral
    obtain ⟨d, hd⟩ := List.exists_mem_of_length_pos (Nat.lt_of_lt_of_le Nat.two_pos hseveral)
    obtain ⟨hmem, hname⟩ := List.mem_filter.mp hd
    rw [List.mem_eraseDups]
    exact List.mem_map.mpr ⟨d, hmem, of_decide_eq_true hname⟩

/-! ### Layers in any order -/

/-- What a layer declares under a name. -/
def layerPart (host : Host) (root : Path) (key : String) (layer : Layer) : List Declaration :=
  (declared host root [layer]).filter fun d => d.name = key

theorem filter_name_declared (host : Host) (root : Path) (key : String) (layers : List Layer) :
    (declared host root layers).filter (fun d => d.name = key) =
      layers.flatMap (layerPart host root key) := by
  rw [declared_eq_flatMap, List.filter_flatMap]
  rfl

theorem filter_shim_layers {config : CheckConfig} {layers : List Layer}
    (reordered : layers.Perm config.layers) :
    layers.filter (fun layer => layer.kind = .shim) = [⟨.shim, config.shimDir⟩] := by
  have hdefault : config.layers.filter (fun layer => layer.kind = .shim) =
      [⟨.shim, config.shimDir⟩] := by
    rw [CheckConfig.layers, List.filter_append, List.filter_cons_of_pos (by simp),
      List.filter_eq_nil_iff.mpr (by simp), List.filter_eq_nil_iff.mpr (by simp), List.nil_append]
  rw [← List.perm_singleton, ← hdefault]
  exact reordered.filter _

section

variable {config : CheckConfig} (accepted : config.obstacle? = none)
  (relative : ∀ dir ∈ config.shimDir :: config.otherDirs, (Path.ofString dir).isAbsolute = false)
  {layers : List Layer} (reordered : layers.Perm config.layers)

include accepted relative reordered

/-- **The shims come in the order of their own layer.** -/
theorem filter_isShim_declared (host : Host) :
    (declared host config.root layers).filter
        (·.isShim (shimPrefix config.shimDir config.root)) =
      (declared host config.root [⟨.shim, config.shimDir⟩]).filter
        (·.isShim (shimPrefix config.shimDir config.root)) := by
  rw [declared_eq_flatMap, List.filter_flatMap,
    flatMap_filter_of_nil (p := fun layer => layer.kind = .shim), filter_shim_layers reordered,
    List.flatMap_singleton]
  intro layer hlayer hkind
  rw [List.filter_eq_nil_iff]
  intro d hd
  rw [Bool.not_eq_true]
  exact not_tags_declared accepted relative host (reordered.mem_iff.mp hlayer)
    (of_decide_eq_false hkind) d hd

/-- What is redundant in one order of the layers is redundant in the usual one, and the other way
round. -/
theorem repeated_reordered_iff (host : Host) (key : String) :
    Repeated (shimPrefix config.shimDir config.root)
        (numbered 0 (layers.flatMap (layerPart host config.root key))) ↔
      Repeated (shimPrefix config.shimDir config.root)
        (numbered 0 (config.layers.flatMap (layerPart host config.root key))) := by
  have hperm : (layers.flatMap (layerPart host config.root key)).Perm
      (config.layers.flatMap (layerPart host config.root key)) := reordered.flatMap_right _
  have hshims : (layers.flatMap (layerPart host config.root key)).filter
        (·.isShim (shimPrefix config.shimDir config.root)) =
      (config.layers.flatMap (layerPart host config.root key)).filter
        (·.isShim (shimPrefix config.shimDir config.root)) := by
    rw [← filter_name_declared, ← filter_name_declared, List.filter_comm,
      filter_isShim_declared accepted relative reordered,
      List.filter_comm _ _ (declared host config.root config.layers),
      filter_isShim_declared accepted relative (List.Perm.refl config.layers)]
  apply repeated_iff_of_rearranged (nodup_number_numbered 0 _) (nodup_number_numbered 0 _)
  · rw [map_declaration_numbered, map_declaration_numbered]
    exact hperm
  · rw [map_declaration_numbered, map_declaration_numbered]
    exact hshims

end

/-- The entries of a report: each name with redundant shims and what the layers declare under it,
layer by layer. -/
theorem mem_duplicates_report_iff {host : Host} {config : CheckConfig} {layers : List Layer}
    (hsome : hasShims host config = true) {key : String} {ds : List Declaration} :
    (key, ds) ∈ (report host config layers).duplicates ↔
      ds = layers.flatMap (layerPart host config.root key) ∧
        Repeated (shimPrefix config.shimDir config.root) (numbered 0 ds) := by
  rw [report, if_pos hsome, duplicates_reportOf, mem_redundantNames_iff, filter_name_declared]

end Check

theorem Report.exitCode_eq_of_keys {r r' : Report}
    (h : ∀ key, key ∈ r'.duplicates.map (·.1) ↔ key ∈ r.duplicates.map (·.1)) :
    r'.exitCode = r.exitCode := by
  have hnil : r'.duplicates = [] ↔ r.duplicates = [] := by
    rw [← List.map_eq_nil_iff (f := Prod.fst),
      ← List.map_eq_nil_iff (f := Prod.fst) (l := r.duplicates),
      List.eq_nil_iff_forall_not_mem, List.eq_nil_iff_forall_not_mem]
    exact forall_congr' fun key => not_congr (h key)
  rw [exitCode, exitCode]
  by_cases hr : r.duplicates = []
  · rw [hr, hnil.mpr hr]
  · simp [hr, hnil.not.mpr hr]

open Check

/-- **The layers may come in any order.**  In a check that is not refused and whose directories are
relative to the project, every order of the layers gives the same reported names and the same exit
code.  A reported name has the same declarations in either order: what each layer declares under
it, as one piece, and the pieces in the order of the layers. -/
theorem check_layers_reordered (host : Host) (config : CheckConfig)
    (accepted : config.obstacle? = none)
    (relative : ∀ dir ∈ config.shimDir :: config.otherDirs, (Path.ofString dir).isAbsolute = false)
    (layers : List Layer) (reordered : layers.Perm config.layers) :
    ∃ usual report, check host config config.layers = .ok usual ∧
      check host config layers = .ok report ∧
      report.shimsChecked = usual.shimsChecked ∧
      (∀ key, key ∈ report.duplicates.map (·.1) ↔ key ∈ usual.duplicates.map (·.1)) ∧
      report.exitCode = usual.exitCode ∧
      ∀ key ds ds', (key, ds) ∈ usual.duplicates → (key, ds') ∈ report.duplicates →
        ds'.Perm ds ∧
        ds = config.layers.flatMap (layerPart host config.root key) ∧
        ds' = layers.flatMap (layerPart host config.root key) := by
  refine ⟨_, _, check_of_accepted host config.layers accepted,
    check_of_accepted host layers accepted, ?_⟩
  cases hsome : hasShims host config with
  | false =>
    rw [report, report, if_neg (by simp [hsome]), if_neg (by simp [hsome])]
    refine ⟨rfl, fun _ => Iff.rfl, rfl, fun key ds ds' hds => ?_⟩
    exact absurd hds List.not_mem_nil
  | true =>
    have hkeys : ∀ key, key ∈ (report host config layers).duplicates.map (·.1) ↔
        key ∈ (report host config config.layers).duplicates.map (·.1) := by
      intro key
      simp only [List.mem_map, Prod.exists, exists_and_right, exists_eq_right,
        mem_duplicates_report_iff hsome, exists_eq_left]
      exact repeated_reordered_iff accepted relative reordered host key
    refine ⟨?_, hkeys, Report.exitCode_eq_of_keys hkeys, fun key ds ds' hds hds' => ?_⟩
    · rw [report, report, if_pos hsome, if_pos hsome]
      rfl
    · obtain ⟨rfl, -⟩ := (mem_duplicates_report_iff hsome).mp hds
      obtain ⟨rfl, -⟩ := (mem_duplicates_report_iff hsome).mp hds'
      exact ⟨reordered.flatMap_right _, rfl, rfl⟩

/-- The sample, read from its last layer to its first. -/
theorem check_layers_reordered_sample :
    sampleConfig.obstacle? = none ∧ sampleConfig.layers.reverse.Perm sampleConfig.layers ∧
    ∃ usual report, check sampleHost sampleConfig sampleConfig.layers = .ok usual ∧
      check sampleHost sampleConfig sampleConfig.layers.reverse = .ok report ∧
      (∀ key, key ∈ report.duplicates.map (·.1) ↔ key ∈ usual.duplicates.map (·.1)) ∧
      usual.duplicates.map (fun entry => (entry.1, entry.2.map (·.location.file))) =
        [("a#x", ["shims/a.pyi", "made/a.pyi"])] ∧
      report.duplicates.map (fun entry => (entry.1, entry.2.map (·.location.file))) =
        [("a#x", ["made/a.pyi", "shims/a.pyi"])] := by
  have accepted : sampleConfig.obstacle? = none := by decide
  have reordered := List.reverse_perm sampleConfig.layers
  obtain ⟨usual, report, husual, hreport, -, hkeys, -, -⟩ := check_layers_reordered sampleHost
    sampleConfig accepted (by decide) sampleConfig.layers.reverse reordered
  obtain rfl := Except.ok.inj
    (husual.symm.trans (check_of_accepted sampleHost sampleConfig.layers accepted))
  obtain rfl := Except.ok.inj
    (hreport.symm.trans (check_of_accepted sampleHost sampleConfig.layers.reverse accepted))
  exact ⟨accepted, reordered, _, _, husual, hreport, hkeys, by decide +kernel, by decide +kernel⟩

end StubLayers
