import StubLayers.Proofs.Check
import StubLayers.Proofs.Stubs

/-!
# Layers that share files

A check is refused if the shim directory and another layer contain one another by their
components.  Files are loaded from the places that the directories lead to.  This file says when
the two disagree.

* `overlaps_iff`: what is compared, the anchor and the components.
* `exists_common_start`: two directories that start alike and never go up lead to places that lie
  to each other as their components do.
* `loaded_twice_iff`: in a check that is not refused, a file is loaded through the shims and
  through another layer exactly if the directories are spelled apart (they start differently, or
  one goes up), one leads into the other, and the inner one has a stub file.
-/

namespace StubLayers

/-! ### Directories by their components -/

theorem overlaps_iff {a b : String} :
    overlaps a b = true ↔
      (Path.ofString a).anchor = (Path.ofString b).anchor ∧
        ((Path.ofString a).parts <+: (Path.ofString b).parts ∨
          (Path.ofString b).parts <+: (Path.ofString a).parts) := by
  rw [overlaps]
  generalize Path.ofString a = p
  generalize Path.ofString b = q
  obtain ⟨x, ps⟩ := p
  obtain ⟨y, qs⟩ := q
  simp only [Path.isWithin, Bool.or_eq_true, Bool.and_eq_true, decide_eq_true_eq,
    bne_iff_ne, Path.mk.injEq, List.isPrefixOf_iff_prefix]
  constructor
  · rintro ((⟨hx, rfl⟩ | ⟨⟨hx, hp⟩, -⟩) | ⟨⟨hx, hp⟩, -⟩)
    · exact ⟨hx, Or.inl List.prefix_rfl⟩
    · exact ⟨hx, Or.inr hp⟩
    · exact ⟨hx.symm, Or.inl hp⟩
  · rintro ⟨hx, hp⟩
    by_cases he : ps = qs
    · exact Or.inl (Or.inl ⟨hx, he⟩)
    · rcases hp with hp | hp
      · exact Or.inr ⟨⟨hx.symm, hp⟩, Ne.symm he⟩
      · exact Or.inl (Or.inr ⟨⟨hx, hp⟩, he⟩)

namespace CheckConfig

/-- A check that is not refused has no other layer around or inside its shims. -/
theorem not_overlaps_of_accepted {config : CheckConfig} (accepted : config.obstacle? = none)
    {dir : String} (h : dir ∈ config.otherDirs) : overlaps config.shimDir dir = false := by
  rw [obstacle?] at accepted
  split at accepted
  · exact absurd accepted (by simp)
  · rw [Option.map_eq_none_iff, List.find?_eq_none] at accepted
    simpa using accepted dir h

theorem mem_otherDirs_of_layer {config : CheckConfig} {layer : Layer} (h : layer ∈ config.layers)
    (hk : layer.kind ≠ .shim) : layer.dir ∈ config.otherDirs := by
  rw [layers, List.mem_append, List.mem_cons, List.mem_map, List.mem_map] at h
  rw [otherDirs, List.mem_append]
  rcases h with ⟨dir, hdir, rfl⟩ | rfl | ⟨dir, hdir, rfl⟩
  · exact Or.inr hdir
  · exact absurd rfl hk
  · exact Or.inl hdir

theorem mem_dirs_layers {config : CheckConfig} {dir : String} :
    dir ∈ config.layers.map (·.dir) ↔ dir ∈ config.shimDir :: config.otherDirs := by
  simp only [layers, otherDirs, List.map_append, List.map_cons, List.map_map, Function.comp_def,
    List.map_id', List.mem_append, List.mem_cons]
  tauto

end CheckConfig

/-! ### The places that directories lead to -/

/-- The two paths start differently or one of them goes up, so that their components alone do not
show how they lie to each other. -/
def Path.SpelledApart (p q : Path) : Prop := p.anchor ≠ q.anchor ∨ ".." ∈ p.parts ∨ ".." ∈ q.parts

open Check

theorem Check.layerPath_relative {root : Path} {dir : String}
    (h : (Path.ofString dir).anchor = .relative) :
    layerPath root dir = ⟨root.anchor, root.parts ++ (Path.ofString dir).parts⟩ := by
  rw [layerPath, Path.join, if_neg (by simp [Path.isAbsolute, h])]

theorem Check.layerPath_absolute {root : Path} {dir : String}
    (h : (Path.ofString dir).anchor ≠ .relative) : layerPath root dir = Path.ofString dir := by
  rw [layerPath, Path.join, if_pos (by simp [Path.isAbsolute, h])]

theorem exists_common_start {host : Host} {root : Path} {dir other : String} {a b : Components}
    (halike : ¬ (Path.ofString dir).SpelledApart (Path.ofString other))
    (ha : host.locate (layerPath root dir) = .ok a)
    (hb : host.locate (layerPath root other) = .ok b) :
    ∃ start, a = start ++ (Path.ofString dir).parts ∧ b = start ++ (Path.ofString other).parts := by
  rw [Path.SpelledApart, not_or, not_or, not_not] at halike
  obtain ⟨hanchor, hdir, hother⟩ := halike
  by_cases hrel : (Path.ofString dir).anchor = .relative
  · rw [layerPath_relative hrel, Host.locate_append] at ha
    rw [layerPath_relative (hanchor ▸ hrel), Host.locate_append] at hb
    cases hroot : host.locate root with
    | error fault => rw [hroot] at ha; exact absurd ha (by simp)
    | ok start =>
      rw [hroot] at ha hb
      exact ⟨start, Host.follow_of_no_parent hdir ha, Host.follow_of_no_parent hother hb⟩
  · have hrel' : (Path.ofString other).anchor ≠ .relative := hanchor ▸ hrel
    rw [layerPath_absolute hrel, Host.locate, Host.start,
      if_pos (by simp [Path.isAbsolute, hrel])] at ha
    rw [layerPath_absolute hrel', Host.locate, Host.start,
      if_pos (by simp [Path.isAbsolute, hrel'])] at hb
    exact ⟨[], Host.follow_of_no_parent hdir ha, Host.follow_of_no_parent hother hb⟩

/-- Directories that are not spelled apart lead into one another only if they overlap. -/
theorem overlaps_of_prefix {host : Host} {root : Path} {dir other : String} {a b : Components}
    (halike : ¬ (Path.ofString dir).SpelledApart (Path.ofString other))
    (ha : host.locate (layerPath root dir) = .ok a)
    (hb : host.locate (layerPath root other) = .ok b) (h : a <+: b ∨ b <+: a) :
    overlaps dir other = true := by
  obtain ⟨start, rfl, rfl⟩ := exists_common_start halike ha hb
  rw [List.prefix_append_right_inj, List.prefix_append_right_inj] at h
  refine overlaps_iff.mpr ⟨?_, h⟩
  by_contra hne
  exact halike (Or.inl hne)

/-! ### Files that two directories share -/

theorem Host.loads_of_findStubFiles {host : Host} {dir : Path} (h : findStubFiles host dir ≠ []) :
    ∃ place, host.Loads dir place := by
  obtain ⟨path, hpath⟩ := List.exists_mem_of_ne_nil _ h
  obtain ⟨top, rel, hdir, -, hfile, -, rfl⟩ := mem_findStubFiles.mp hpath
  exact ⟨top ++ rel, _, hpath, locate_stub hdir hfile⟩

theorem Host.Loads.findStubFiles_ne_nil {host : Host} {dir : Path} {place : Components}
    (h : host.Loads dir place) : findStubFiles host dir ≠ [] := by
  obtain ⟨path, hpath, -⟩ := h
  exact List.ne_nil_of_mem hpath

/-- What an inner directory loads, an outer one loads too. -/
theorem Host.Loads.of_prefix {host : Host} {outer inner : Path} {a b place : Components}
    (ha : host.locate outer = .ok a) (hb : host.locate inner = .ok b) (hab : a <+: b)
    (h : host.Loads inner place) : host.Loads outer place := by
  obtain ⟨top, rel, htop, hrel, rfl, hfile, hstub⟩ := Host.loads_iff.mp h
  obtain rfl := Except.ok.inj (hb.symm.trans htop)
  obtain ⟨way, rfl⟩ := hab
  refine Host.loads_iff.mpr ⟨a, way ++ rel, ha, ?_, List.append_assoc .., hfile, hstub⟩
  exact fun hnil => hrel (List.append_eq_nil_iff.mp hnil).2

/-- Two directories share a stub file exactly if one leads into the other and the inner one has a
stub file. -/
theorem Host.loads_both_iff {host : Host} {dir other : Path} :
    (∃ place, host.Loads dir place ∧ host.Loads other place) ↔
      ∃ a b, host.locate dir = .ok a ∧ host.locate other = .ok b ∧
        (a <+: b ∧ findStubFiles host other ≠ [] ∨ b <+: a ∧ findStubFiles host dir ≠ []) := by
  constructor
  · rintro ⟨place, hdir, hother⟩
    obtain ⟨a, rel, ha, -, hplace, -, -⟩ := Host.loads_iff.mp hdir
    obtain ⟨b, rel', hb, -, hplace', -, -⟩ := Host.loads_iff.mp hother
    refine ⟨a, b, ha, hb, ?_⟩
    rcases List.prefix_or_prefix_of_prefix (⟨rel, hplace.symm⟩ : a <+: place)
      (⟨rel', hplace'.symm⟩ : b <+: place) with hab | hba
    · exact Or.inl ⟨hab, hother.findStubFiles_ne_nil⟩
    · exact Or.inr ⟨hba, hdir.findStubFiles_ne_nil⟩
  · rintro ⟨a, b, ha, hb, ⟨hab, hstub⟩ | ⟨hba, hstub⟩⟩
    · obtain ⟨place, hplace⟩ := Host.loads_of_findStubFiles hstub
      exact ⟨place, hplace.of_prefix ha hb hab, hplace⟩
    · obtain ⟨place, hplace⟩ := Host.loads_of_findStubFiles hstub
      exact ⟨place, hplace, hplace.of_prefix hb ha hba⟩

/-- **When a file is loaded twice.**  In a check that is not refused, the shims and another layer
share a file exactly if their directories are spelled apart, one leads into the other, and the
inner one has a stub file. -/
theorem loaded_twice_iff (host : Host) (config : CheckConfig) (accepted : config.obstacle? = none)
    (layer : Layer) (hlayer : layer ∈ config.layers) (hkind : layer.kind ≠ .shim) :
    (∃ place, host.Loads (layerPath config.root config.shimDir) place ∧
        host.Loads (layerPath config.root layer.dir) place) ↔
      (Path.ofString config.shimDir).SpelledApart (Path.ofString layer.dir) ∧
      ∃ a b, host.locate (layerPath config.root config.shimDir) = .ok a ∧
        host.locate (layerPath config.root layer.dir) = .ok b ∧
        (a <+: b ∧ findStubFiles host (layerPath config.root layer.dir) ≠ [] ∨
          b <+: a ∧ findStubFiles host (layerPath config.root config.shimDir) ≠ []) := by
  rw [Host.loads_both_iff]
  refine ⟨fun h => ⟨?_, h⟩, fun h => h.2⟩
  obtain ⟨a, b, ha, hb, hab⟩ := h
  -- the comparison of components would have refused directories that are spelled alike
  by_contra halike
  have hover := overlaps_of_prefix halike ha hb (hab.imp And.left And.left)
  have hnot := CheckConfig.not_overlaps_of_accepted accepted
    (CheckConfig.mem_otherDirs_of_layer hlayer hkind)
  rw [hover] at hnot
  exact absurd hnot (by simp)

/-- The shims of the sample project, generated once more under the absolute spelling of their
directory. -/
def respelledConfig : CheckConfig := { sampleConfig with generatedDirs := ["/p/shims"] }

theorem loads_sample_shim :
    sampleHost.Loads (layerPath respelledConfig.root respelledConfig.shimDir)
      ["p", "shims", "a.pyi"] :=
  ⟨⟨.slash, ["p", "shims", "a.pyi"]⟩, by decide +kernel, by decide +kernel⟩

theorem loads_respelled_shim :
    sampleHost.Loads (layerPath respelledConfig.root "/p/shims") ["p", "shims", "a.pyi"] :=
  ⟨⟨.slash, ["p", "shims", "a.pyi"]⟩, by decide +kernel, by decide +kernel⟩

theorem loaded_twice_iff_respelled :
    respelledConfig.obstacle? = none ∧ ⟨.generated, "/p/shims"⟩ ∈ respelledConfig.layers ∧
    (Path.ofString "shims").SpelledApart (Path.ofString "/p/shims") ∧
      ∃ a b, sampleHost.locate (layerPath respelledConfig.root "shims") = .ok a ∧
        sampleHost.locate (layerPath respelledConfig.root "/p/shims") = .ok b ∧
        (a <+: b ∧ findStubFiles sampleHost (layerPath respelledConfig.root "/p/shims") ≠ [] ∨
          b <+: a ∧ findStubFiles sampleHost (layerPath respelledConfig.root "shims") ≠ []) :=
  ⟨by decide, by decide,
    (loaded_twice_iff sampleHost respelledConfig (by decide) ⟨.generated, "/p/shims"⟩ (by decide)
      (by decide)).mp ⟨_, loads_sample_shim, loads_respelled_shim⟩⟩

/-- **Shims can be loaded twice.**  The spelling of a directory can hide from the comparison of
components that it holds the shims; then a shim is reported as a duplicate of itself. -/
theorem shim_compared_with_itself :
    (¬ ∀ (host : Host) (config : CheckConfig), config.obstacle? = none →
        ∀ layer ∈ config.layers, layer.kind ≠ .shim → ∀ place,
          ¬ (host.Loads (layerPath config.root config.shimDir) place ∧
            host.Loads (layerPath config.root layer.dir) place)) ∧
    ∃ report, check sampleHost respelledConfig respelledConfig.layers = .ok report ∧
      report.duplicates.map (fun entry => (entry.1, entry.2.map (·.location))) =
        [("a#x", [⟨"shims/a.pyi", 1, 0, 1, 6⟩, ⟨"shims/a.pyi", 1, 0, 1, 6⟩])] := by
  refine ⟨fun hclaim => ?_, _, check_of_accepted sampleHost _ (by decide), by decide +kernel⟩
  exact hclaim sampleHost respelledConfig (by decide) ⟨.generated, "/p/shims"⟩ (by decide)
    (by decide) _ ⟨loads_sample_shim, loads_respelled_shim⟩

end StubLayers
