import Mathlib.Data.List.Basic
import StubLayers.Proofs.Listing
import StubLayers.Proofs.Provenance
import StubLayers.Proofs.Spelling

/-!
# Published files

A report gives the published address of a file instead of its place if the text of the file begins
with the text of the base directory.  No slash ends that text, so the test also meets files beside
the base directory whose names only begin like its own.  This file says which ones.

* `joined_prefix_iff`: a joined text begins another exactly if all its names but the last are the
  first names of the other, and its last one begins the next.
* `Path.LooksBelow`: this, said of paths; `looksBelow_iff_prefix` for the texts of stub files.
* `Location.resolve_eq_render_iff`: an address is never the text of a place, so a file is shown by
  its place exactly if the test fails.
* `resolve_indexed`: what is shown for everything that a check has indexed.
-/

namespace StubLayers

/-! ### Texts that begin alike -/

/-- What holds no slash cannot go on behind one. -/
theorem prefix_of_prefix_slash {cs ds es : List Char} (hcs : '/' ∉ cs)
    (h : cs <+: ds ++ '/' :: es) : cs <+: ds := by
  rcases List.prefix_or_prefix_of_prefix h (List.prefix_append ds ('/' :: es)) with h' | ⟨more, rfl⟩
  · exact h'
  · rw [List.prefix_append_right_inj] at h
    cases more with
    | nil => simp
    | cons c more =>
      rw [List.cons_prefix_cons] at h
      exact absurd (List.mem_append_right ds (h.1 ▸ List.mem_cons_self)) hcs

/-- A joined text is its first name, which ends there or at a slash. -/
theorem toList_joined_cons (first : String) (more : List String) :
    ∃ tail, ("/".intercalate (first :: more)).toList = first.toList ++ tail ∧
      (tail = [] ∨ ∃ es, tail = '/' :: es) := by
  cases more with
  | nil => exact ⟨[], by simp, Or.inl rfl⟩
  | cons next more =>
    refine ⟨'/' :: ("/".intercalate (next :: more)).toList, ?_, Or.inr ⟨_, rfl⟩⟩
    rw [String.intercalate_cons_cons, String.toList_append, String.toList_append, List.append_assoc]
    rfl

theorem first_prefix_joined (first : String) (more : List String) :
    first.toList <+: ("/".intercalate (first :: more)).toList := by
  obtain ⟨tail, htext, -⟩ := toList_joined_cons first more
  exact ⟨tail, htext.symm⟩

theorem name_prefix_iff {name : String} (hname : '/' ∉ name.toList) {names : List String}
    (hne : names ≠ []) :
    name.toList <+: ("/".intercalate names).toList ↔
      ∃ last rest, names = last :: rest ∧ name.toList <+: last.toList := by
  constructor
  · intro h
    obtain ⟨last, rest, rfl⟩ := List.exists_cons_of_ne_nil hne
    obtain ⟨tail, htext, rfl | ⟨es, rfl⟩⟩ := toList_joined_cons last rest
    · rw [htext, List.append_nil] at h
      exact ⟨last, rest, rfl, h⟩
    · rw [htext] at h
      exact ⟨last, rest, rfl, prefix_of_prefix_slash hname h⟩
  · rintro ⟨last, rest, rfl, h⟩
    exact h.trans (first_prefix_joined last rest)

/-- **Joined texts begin alike** if the names do, the last one up to where it ends. -/
theorem joined_prefix_iff {front : List String} {name : String} {names : List String}
    (hfront : ∀ n ∈ front ++ [name], '/' ∉ n.toList) (hnames : ∀ n ∈ names, '/' ∉ n.toList)
    (hne : names ≠ []) :
    ("/".intercalate (front ++ [name])).toList <+: ("/".intercalate names).toList ↔
      ∃ last rest, names = front ++ last :: rest ∧ name.toList <+: last.toList := by
  rw [List.forall_mem_append] at hfront
  have hname : '/' ∉ name.toList := hfront.2 name List.mem_cons_self
  by_cases hnil : front = []
  · subst hnil
    rw [List.nil_append, String.intercalate_singleton]
    simp only [List.nil_append, name_prefix_iff hname hne]
  · have happend : ∀ rest, rest ≠ [] → ("/".intercalate (front ++ rest)).toList =
        ("/".intercalate front ++ "/").toList ++ ("/".intercalate rest).toList := by
      intro rest hrest
      rw [String.intercalate_append_of_ne_nil hnil hrest, ← String.toList_append]
    have hjoined := happend [name] (List.cons_ne_nil name [])
    rw [String.intercalate_singleton] at hjoined
    rw [hjoined]
    constructor
    · intro h
      have hslash := (List.prefix_append _ name.toList).trans h
      obtain ⟨rest, hrest, rfl⟩ := (prefix_slash_iff hnil hfront.1 hnames).mp hslash
      rw [happend rest hrest, List.prefix_append_right_inj] at h
      obtain ⟨last, more, rfl, hlast⟩ := (name_prefix_iff hname hrest).mp h
      exact ⟨last, more, rfl, hlast⟩
    · rintro ⟨last, rest, rfl, hlast⟩
      rw [happend _ (List.cons_ne_nil last rest), List.prefix_append_right_inj]
      exact hlast.trans (first_prefix_joined last rest)

/-! ### Addresses and places -/

namespace Location

/-- Digits and a sign. -/
def isNumeral (c : Char) : Bool := c.isDigit || c = '-'

theorem isNumeral_of_mem_toString {n : Int} {c : Char} (h : c ∈ (toString n).toList) :
    isNumeral c = true := by
  have hdigits : ∀ m : Nat, c ∈ m.repr.toList → isNumeral c = true := by
    intro m hm
    rw [Nat.toList_repr] at hm
    rw [isNumeral, Nat.isDigit_of_mem_toDigits (by decide) (by decide) hm, Bool.true_or]
  rw [Int.toString_eq_repr, Int.repr_eq_if] at h
  split at h
  · exact hdigits _ h
  · rw [String.toList_append, List.mem_append] at h
    rcases h with h | h
    · obtain rfl : c = '-' := by simpa using h
      rfl
    · exact hdigits _ h

/-- What stands before the number at the end of a text. -/
theorem dropWhile_isNumeral_append (cs : List Char) {c : Char} (hc : isNumeral c = false)
    (n : Int) :
    (cs ++ c :: (toString n).toList).reverse.dropWhile isNumeral = c :: cs.reverse := by
  rw [List.reverse_append, List.reverse_cons, List.append_assoc, List.dropWhile_append_of_pos]
  · rw [List.singleton_append, List.dropWhile_cons_of_neg (by simp [hc])]
  · intro d hd
    exact isNumeral_of_mem_toString (List.mem_reverse.mp hd)

/-- **An address is no place**: a line number follows an `L`, a column follows a colon. -/
theorem address_ne_render (l : Location) (start : String) (line : Int) :
    start ++ "#L" ++ toString line ≠ l.render := by
  intro h
  have hlist := congrArg (fun text => text.toList.reverse.dropWhile isNumeral) h
  have haddress : (start ++ "#L" ++ toString line).toList =
      (start ++ "#").toList ++ 'L' :: (toString line).toList := by
    simp
  have hplace : l.render.toList =
      (l.file ++ ":" ++ toString l.startLine ++ ":" ++ toString l.startCol ++ "-" ++
        toString l.endLine).toList ++ ':' :: (toString l.endCol).toList := by
    simp [render]
  rw [haddress, hplace, dropWhile_isNumeral_append _ (by decide),
    dropWhile_isNumeral_append _ (by decide), List.cons.injEq] at hlist
  exact absurd hlist.1 (by decide)

section

variable {base url : String} (hbase : base ≠ "") (hurl : url ≠ "")

include hbase hurl

theorem resolve_of_prefix (l : Location) {more : List Char}
    (h : l.file.toList = base.toList ++ more) :
    l.resolve (some base) (some url) =
      url ++ String.ofList more ++ "#L" ++ toString l.startLine := by
  have hprefix : base.toList.isPrefixOf l.file.toList = true := by
    rw [List.isPrefixOf_iff_prefix, h]
    exact List.prefix_append _ _
  rw [resolve, if_pos ⟨hbase, hurl, hprefix⟩, h, ← String.length_toList, List.drop_left]

/-- **A file is shown by its place exactly if its text does not begin with the prefix.** -/
theorem resolve_eq_render_iff (l : Location) :
    l.resolve (some base) (some url) = l.render ↔ ¬ base.toList <+: l.file.toList := by
  constructor
  · rintro h ⟨more, hmore⟩
    rw [l.resolve_of_prefix hbase hurl hmore.symm] at h
    exact l.address_ne_render _ _ h
  · intro h
    rw [resolve, if_neg]
    rintro ⟨-, -, hprefix⟩
    exact h (List.isPrefixOf_iff_prefix.mp hprefix)

end

end Location

/-! ### Paths below the base directory -/

open Check

/-- The path lies in the parent of `dir`, in an entry whose name begins with that of `dir`.  All
that lies below `dir` does so, and so does what stands beside it under a longer name. -/
def Path.LooksBelow (p dir : Path) : Prop :=
  p.anchor = dir.anchor ∧ ∃ front name last rest, dir.parts = front ++ [name] ∧
    p.parts = front ++ last :: rest ∧ name.toList <+: last.toList

theorem Path.looksBelow_iff_join {root p : Path} {front : List String} {name : String} :
    p.LooksBelow (root.join ⟨.relative, front ++ [name]⟩) ↔
      ∃ last rest, p = root.join ⟨.relative, front ++ last :: rest⟩ ∧
        name.toList <+: last.toList := by
  simp only [join_relative, LooksBelow]
  constructor
  · rintro ⟨hanchor, front', name', last, rest, hdir, hparts, hname⟩
    rw [← List.append_assoc] at hdir
    obtain ⟨rfl, hsame⟩ := List.append_inj' hdir rfl
    obtain rfl : name = name' := List.singleton_inj.mp hsame
    exact ⟨last, rest, by rw [← hanchor, ← List.append_assoc, ← hparts], hname⟩
  · rintro ⟨last, rest, rfl, hname⟩
    exact ⟨rfl, root.parts ++ front, name, last, rest, (List.append_assoc ..).symm,
      (List.append_assoc ..).symm, hname⟩

theorem Path.seenFrom_of_outside {root p : Path} (h : ∀ names, p ≠ root.join ⟨.relative, names⟩) :
    p.seenFrom root = p := by
  rw [seenFrom, relativeTo?, if_neg, Option.getD_none]
  rintro ⟨hanchor, hprefix⟩
  obtain ⟨names, hnames⟩ := List.isPrefixOf_iff_prefix.mp hprefix
  exact h names (by rw [join_relative, hnames, ← hanchor])

theorem Path.head?_render_of_absolute {p : Path} (habsolute : p.anchor ≠ .relative)
    (hne : p.parts ≠ []) : p.render.toList.head? = some '/' := by
  rw [render_of_ne_nil hne, String.toList_append]
  cases hanchor : p.anchor with
  | relative => exact absurd hanchor habsolute
  | slash => rfl
  | doubleSlash => rfl

/-- How a stub file of a layer is shown: by the names below the project, or, if it is not below it,
by a text that no names below it have. -/
theorem shown_cases {host : Host} {root path : Path} {dir : String}
    (h : path ∈ findStubFiles host (layerPath root dir)) :
    (∃ names, names ≠ [] ∧ (∀ n ∈ names, '/' ∉ n.toList) ∧
      path = root.join ⟨.relative, names⟩ ∧
        shownPath path (some root) = "/".intercalate names) ∨
    (∀ names, names ≠ [] → path ≠ root.join ⟨.relative, names⟩) ∧
      (shownPath path (some root) = "." ∨
        (shownPath path (some root)).toList.head? = some '/') := by
  obtain ⟨top, rel, -, hne, hfile, -, hpath⟩ := mem_findStubFiles.mp h
  have hslash : ∀ n ∈ (Path.ofString dir).parts ++ rel, '/' ∉ n.toList := by
    rw [List.forall_mem_append]
    exact ⟨fun n hn => (Path.part_of_ofString hn).2.2, slash_notMem_of_isFile hfile⟩
  have hparts : (Path.ofString dir).parts ++ rel ≠ [] := by simp [hne]
  by_cases hrel : (Path.ofString dir).isAbsolute = false
  · refine Or.inl ⟨_, hparts, hslash, ?_, hpath ▸ shownPath_layer root hrel hne⟩
    rw [hpath, layerPath_relative (Path.anchor_of_relative hrel), Path.join_relative,
      List.append_assoc]
  · have hanchor : (Path.ofString dir).anchor ≠ .relative := by simpa [Path.isAbsolute] using hrel
    rw [layerPath_absolute hanchor] at hpath
    rw [shownPath]
    by_cases hbelow : ∃ names, path = root.join ⟨.relative, names⟩
    · -- the directory is written in full and leads into the project
      obtain ⟨names, hnames⟩ := hbelow
      have hseen : path.seenFrom root = ⟨.relative, names⟩ := by
        rw [hnames, Path.seenFrom_join_relative root rfl]
      rw [hseen]
      by_cases hnil : names = []
      · refine Or.inr ⟨fun names' hne' he => hne' ?_, Or.inl (by rw [hnil]; rfl)⟩
        rw [← root.join_relative_injective (hnames.symm.trans he), hnil]
      · refine Or.inl ⟨names, hnil, fun n hn => hslash n ?_, hnames, Path.render_relative hnil⟩
        have hall : (Path.ofString dir).parts ++ rel = root.parts ++ names :=
          (Path.mk.inj (hpath.symm.trans hnames)).2
        rw [hall]
        exact List.mem_append_right root.parts hn
    · rw [not_exists] at hbelow
      refine Or.inr ⟨fun names _ => hbelow names, Or.inr ?_⟩
      rw [Path.seenFrom_of_outside hbelow, hpath]
      exact Path.head?_render_of_absolute hanchor hparts

/-- **The text of a stub file begins with that of a directory** of the project exactly if the file
looks to be below it. -/
theorem looksBelow_iff_prefix {host : Host} {root path : Path} {layerDir dir : String}
    (h : path ∈ findStubFiles host (layerPath root layerDir))
    (hinside : (Path.ofString dir).parts ≠ []) :
    path.LooksBelow (root.join ⟨.relative, (Path.ofString dir).parts⟩) ↔
      ("/".intercalate (Path.ofString dir).parts).toList <+:
        (shownPath path (some root)).toList := by
  have hparts : ∀ n ∈ (Path.ofString dir).parts, n ≠ "" ∧ n ≠ "." ∧ '/' ∉ n.toList :=
    fun n hn => Path.part_of_ofString hn
  generalize (Path.ofString dir).parts = ps at hinside hparts ⊢
  obtain ⟨front, name, rfl⟩ := List.eq_nil_or_concat ps |>.resolve_left hinside
  rw [List.concat_eq_append] at hparts hinside ⊢
  rw [Path.looksBelow_iff_join]
  rcases shown_cases h with ⟨names, hne, hslash, rfl, hshown⟩ | ⟨hout, hshown⟩
  · rw [hshown, joined_prefix_iff (fun n hn => (hparts n hn).2.2) hslash hne]
    simp only [root.join_relative_injective.eq_iff]
  · refine iff_of_false ?_ fun hprefix => ?_
    · rintro ⟨last, rest, hpath, -⟩
      exact hout _ (by simp) hpath
    · -- the first name of the directory begins neither a point nor a slash
      obtain ⟨first, more, hfirst⟩ := List.exists_cons_of_ne_nil hinside
      rw [hfirst] at hparts hprefix
      obtain ⟨hempty, hpoint, hnone⟩ := hparts first List.mem_cons_self
      have hbegin := (first_prefix_joined first more).trans hprefix
      rw [← String.toList_inj.ne] at hempty hpoint
      obtain ⟨c, cs, hc⟩ := List.exists_cons_of_ne_nil hempty
      rw [hc] at hbegin hpoint hnone
      rcases hshown with hshown | hshown
      · rw [hshown, show ".".toList = ['.'] from rfl, List.cons_prefix_cons,
          List.prefix_nil] at hbegin
        exact hpoint (by rw [hbegin.1, hbegin.2]; rfl)
      · obtain ⟨rest, hrest⟩ := List.head?_eq_some_iff.mp hshown
        rw [hrest, List.cons_prefix_cons] at hbegin
        exact hnone (hbegin.1 ▸ List.mem_cons_self)

/-! ### The base directory of a check -/

/-- The base stubs lie in a directory inside the project, and are published below an address. -/
structure CheckConfig.Publishes (config : CheckConfig) (dir url : String) : Prop where
  based : config.base.dir = some dir
  relative : (Path.ofString dir).isAbsolute = false
  inside : (Path.ofString dir).parts ≠ []
  unset : config.base.pathPrefix.getD "" = ""
  published : config.base.url = some url
  address : url ≠ ""

namespace CheckConfig.Publishes

variable {config : CheckConfig} {dir url : String} (h : config.Publishes dir url)

include h

theorem layerPath_eq :
    layerPath config.root dir = config.root.join ⟨.relative, (Path.ofString dir).parts⟩ := by
  rw [layerPath_relative (Path.anchor_of_relative h.relative), Path.join_relative]

theorem basePrefix_eq : config.basePrefix = some ("/".intercalate (Path.ofString dir).parts) := by
  have hdirs : config.baseDirs = [dir] := by
    rw [baseDirs, h.based]
    refine if_neg ?_
    rintro rfl
    exact h.inside rfl
  rw [config.basePrefix_eq, if_pos h.unset, hdirs]
  rw [List.map_singleton, List.head?_cons, Option.map_some, h.layerPath_eq,
    Path.seenFrom_join_relative _ rfl, Path.render_relative h.inside]

theorem prefix_ne : "/".intercalate (Path.ofString dir).parts ≠ "" := by
  intro hempty
  obtain ⟨first, more, hfirst⟩ := List.exists_cons_of_ne_nil h.inside
  have hbegin := first_prefix_joined first more
  rw [← hfirst, hempty, show "".toList = [] from rfl, List.prefix_nil, String.toList_eq_nil_iff]
    at hbegin
  exact (Path.part_of_ofString (hfirst ▸ List.mem_cons_self : first ∈ _)).1 hbegin

/-- **What lies in the base directory is shown by its address.** -/
theorem resolve_inside {way : List String} (hway : way ≠ []) {l : Location}
    (hfile : l.file =
      shownPath ((layerPath config.root dir).join ⟨.relative, way⟩) (some config.root)) :
    l.resolve config.basePrefix config.base.url =
      url ++ "/" ++ "/".intercalate way ++ "#L" ++ toString l.startLine := by
  have htext : l.file.toList = ("/".intercalate (Path.ofString dir).parts).toList ++
      ("/" ++ "/".intercalate way).toList := by
    rw [hfile, Path.join_relative, shownPath_layer config.root h.relative hway,
      String.intercalate_append_of_ne_nil h.inside hway, ← String.toList_append,
      String.append_assoc]
  rw [h.basePrefix_eq, h.published, l.resolve_of_prefix h.prefix_ne h.address htext,
    String.ofList_toList, ← String.append_assoc]

/-- **What a stub file shows by its place** is what does not look to be below the base
directory. -/
theorem resolve_eq_render_iff {host : Host} {path : Path} {layerDir : String}
    (hpath : path ∈ findStubFiles host (layerPath config.root layerDir)) {l : Location}
    (hfile : l.file = shownPath path (some config.root)) :
    l.resolve config.basePrefix config.base.url = l.render ↔
      ¬ path.LooksBelow (layerPath config.root dir) := by
  rw [h.basePrefix_eq, h.published, l.resolve_eq_render_iff h.prefix_ne h.address, hfile,
    h.layerPath_eq, looksBelow_iff_prefix hpath h.inside]

end CheckConfig.Publishes

/-- **Which files are shown by their address.**  Let the base stubs lie in a directory inside the
project.  Everything in the index comes from a stub file of a layer.  If the file lies in the base
directory, it is shown by the address and the way down from there.  It is shown by its place
exactly if it does not look to be below the base directory, so a file beside that directory has an
address too if the name it lies under begins with the name of the directory. -/
theorem resolve_indexed (host : Host) (config : CheckConfig) (dir url : String)
    (publishes : config.Publishes dir url) (layers : List Layer) (key : String)
    (os : List Occurrence)
    (indexed : (key, os) ∈ (indexOf (layers.map (loadLayer host config.root))).items)
    (o : Occurrence) (ho : o ∈ os) :
    ∃ layer ∈ layers, ∃ path ∈ findStubFiles host (layerPath config.root layer.dir),
      (∃ tree, loadFile host (layerPath config.root layer.dir) (some config.root) path = .ok tree ∧
        o.declaration ∈ tree.walk) ∧
      (∀ way, way ≠ [] → path = (layerPath config.root dir).join ⟨.relative, way⟩ →
        o.declaration.location.resolve config.basePrefix config.base.url =
          url ++ "/" ++ "/".intercalate way ++ "#L" ++
            toString o.declaration.location.startLine) ∧
      (o.declaration.location.resolve config.basePrefix config.base.url =
          o.declaration.location.render ↔
        ¬ path.LooksBelow (layerPath config.root dir)) := by
  have hmem := (lists_indexOf host config.root layers).mem_items_iff.mp ⟨_, indexed, ho⟩
  obtain ⟨layer, hlayer, path, hpath, tree, hload, hd⟩ :=
    mem_declared.mp (mem_of_mem_numbered hmem)
  have hfile := file_loadFile hload _ hd
  refine ⟨layer, hlayer, path, hpath, ⟨tree, hload, hd⟩, ?_, ?_⟩
  · rintro way hway rfl
    exact publishes.resolve_inside hway hfile
  · exact publishes.resolve_eq_render_iff hpath hfile

/-- A base stub, and a shim that is generated beside the base directory. -/
def besideHost : Host :=
  { sampleHost with
    tree := ((FileTree.empty.write ["p", "base", "q", "b.pyi"] (Utf8.encode "x: int\n")).write
      ["p", "shims", "a.pyi"] (Utf8.encode "x: int\n")).write
      ["p", "base2", "a.pyi"] (Utf8.encode "x: int\n") }

def besideConfig : CheckConfig := { publishedConfig with generatedDirs := ["base2"] }

theorem besideConfig_publishes : besideConfig.Publishes "base" "u" :=
  ⟨rfl, by decide +kernel, by decide +kernel, rfl, rfl, by decide⟩

/-- What the layers of a check declare is in its index. -/
theorem Check.exists_indexed {host : Host} {root : Path} {layers : List Layer} {d : Declaration}
    (h : d ∈ declared host root layers) :
    ∃ entry ∈ (indexOf (layers.map (loadLayer host root))).items, ∃ o ∈ entry.2,
      o.declaration = d := by
  obtain ⟨o, ho, rfl⟩ := exists_mem_numbered 0 h
  obtain ⟨entry, hentry, hmem⟩ := (lists_indexOf host root layers).mem_items_iff.mpr ho
  exact ⟨entry, hentry, o, hmem, rfl⟩

theorem resolve_indexed_below :
    besideConfig.Publishes "base" "u" ∧
    ∃ entry ∈ (indexOf ([⟨.base, "base"⟩].map (loadLayer besideHost besideConfig.root))).items,
      ∃ o ∈ entry.2, o.declaration.location.resolve besideConfig.basePrefix besideConfig.base.url =
        "u/q/b.pyi#L" ++ toString o.declaration.location.startLine := by
  obtain ⟨d, hd⟩ := List.exists_mem_of_ne_nil
    (declared besideHost besideConfig.root [⟨.base, "base"⟩])
    (by rw [← List.isEmpty_eq_false_iff]; decide +kernel)
  obtain ⟨entry, hentry, o, ho, rfl⟩ := exists_indexed hd
  obtain ⟨layer, hlayer, path, hpath, -, hinside, -⟩ := resolve_indexed besideHost besideConfig
    "base" "u" besideConfig_publishes [⟨.base, "base"⟩] entry.1 entry.2 hentry o ho
  obtain rfl := List.mem_singleton.mp hlayer
  have hfiles : findStubFiles besideHost (layerPath besideConfig.root "base") =
      [(layerPath besideConfig.root "base").join ⟨.relative, ["q", "b.pyi"]⟩] := by decide +kernel
  rw [hfiles, List.mem_singleton] at hpath
  exact ⟨besideConfig_publishes, entry, hentry, o, ho, hinside _ (by decide) hpath⟩

/-- **A file beside the base directory can have an address.**  Its text begins with that of the
directory, so it is shown as if it were published. -/
theorem published_beside_base :
    (¬ ∀ (host : Host) (config : CheckConfig) (dir url : String), config.obstacle? = none →
        config.Publishes dir url → ∀ entry ∈
          (indexOf (config.layers.map (loadLayer host config.root))).items, ∀ o ∈ entry.2,
        (∀ way, o.declaration.location.file ≠
          shownPath ((layerPath config.root dir).join ⟨.relative, way⟩) (some config.root)) →
        o.declaration.location.resolve config.basePrefix config.base.url =
          o.declaration.location.render) ∧
    ∃ report, check besideHost besideConfig besideConfig.layers = .ok report ∧
      (report.duplicates.map fun entry => (entry.1, entry.2.map fun d =>
          d.location.resolve besideConfig.basePrefix besideConfig.base.url)) =
        [("a#x", ["shims/a.pyi:1:0-1:6", "u2/a.pyi#L1"])] := by
  have accepted : besideConfig.obstacle? = none := by decide +kernel
  refine ⟨fun hclaim => ?_, _, check_of_accepted besideHost _ accepted, by decide +kernel⟩
  have hbeside : ∃ d ∈ declared besideHost besideConfig.root besideConfig.layers,
      d.location = ⟨"base2/a.pyi", 1, 0, 1, 6⟩ := by decide +kernel
  obtain ⟨d, hd, hlocation⟩ := hbeside
  obtain ⟨entry, hentry, o, ho, rfl⟩ := exists_indexed hd
  have hshown := hclaim besideHost besideConfig "base" "u" accepted besideConfig_publishes entry
    hentry o ho ?_
  · rw [hlocation] at hshown
    exact absurd hshown (by decide +kernel)
  · intro way hfile
    rw [hlocation] at hfile
    by_cases hway : way = []
    · subst hway
      exact absurd hfile (by decide +kernel)
    · rw [Path.join_relative, shownPath_layer _ besideConfig_publishes.relative hway,
        String.intercalate_append_of_ne_nil besideConfig_publishes.inside hway] at hfile
      have hslash : ("/".intercalate (Path.ofString "base").parts ++ "/").toList <+:
          "base2/a.pyi".toList :=
        ⟨_, (String.toList_append ..).symm.trans (congrArg String.toList hfile.symm)⟩
      exact absurd hslash (by decide +kernel)

end StubLayers
