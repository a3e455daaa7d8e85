import Mathlib.Data.List.Basic
import StubLayers.Layer.Stubs

/-!
# Where stub files are found

A directory is searched by its path and yields paths again.  This file says which places of the
tree these are.

* `FileTree.IsFile`: a regular file stands at a place.  All its names can stand between slashes,
  so following them leads to the file (`follow_file`).
* `follow_append`, `follow_of_no_parent`: a path is followed in parts, and without `..` it leads
  straight down.
* `mem_findStubFiles`: the stub files of a directory are the regular files below it whose names
  end as those of stubs do.
* `Host.Loads`: a file is among the stub files of a directory.
-/

namespace StubLayers

/-! ### Regular files -/

namespace FileTree

/-- A regular file stands at the place. -/
def IsFile (t : FileTree) (place : Components) : Prop :=
  place ∈ t.files.map (·.1) ∧ t.isDirectory place = false

theorem IsFile.entryName {t : FileTree} {place : Components} (h : t.IsFile place) {name : String}
    (hn : name ∈ place) : isEntryName name = true :=
  List.all_eq_true.mp (t.named place h.1) name hn

theorem isFile_of_bytes? {t : FileTree} {place : Components} {bytes : List UInt8}
    (h : t.bytes? place = some bytes) : t.IsFile place := by
  rw [bytes?] at h
  cases hd : t.isDirectory place with
  | true => simp [hd] at h
  | false =>
    rw [hd, if_neg (by simp), Option.map_eq_some_iff] at h
    obtain ⟨entry, he, -⟩ := h
    have hplace : entry.1 = place := by simpa using List.find?_some he
    exact ⟨List.mem_map.mpr ⟨entry, List.mem_of_find?_eq_some he, hplace⟩, hd⟩

theorem isBelow_iff {place top : Components} :
    isBelow place top = true ↔ ∃ rel, rel ≠ [] ∧ place = top ++ rel := by
  rw [isBelow, Bool.and_eq_true, List.isPrefixOf_iff_prefix, bne_iff_ne]
  constructor
  · rintro ⟨⟨rel, rfl⟩, hne⟩
    exact ⟨rel, fun hnil => hne (by rw [hnil, List.append_nil]), rfl⟩
  · rintro ⟨rel, hrel, rfl⟩
    exact ⟨List.prefix_append top rel, fun he => hrel (List.append_right_eq_self.mp he)⟩

/-- What has a file below it is a directory. -/
theorem isDirectory_of_isFile_append {t : FileTree} {place rel : Components}
    (h : t.IsFile (place ++ rel)) (hrel : rel ≠ []) : t.isDirectory place = true := by
  obtain ⟨entry, he, hplace⟩ := List.mem_map.mp h.1
  have hbelow : t.files.any (fun entry => isBelow entry.1 place) = true :=
    List.any_eq_true.mpr ⟨entry, he, isBelow_iff.mpr ⟨rel, hrel, hplace⟩⟩
  rw [isDirectory, hbelow, Bool.or_true, Bool.true_or]

theorem mem_filesBelow {t : FileTree} {top rel : Components} :
    rel ∈ t.filesBelow top ↔ rel ≠ [] ∧ t.IsFile (top ++ rel) := by
  rw [filesBelow, List.mem_map]
  constructor
  · rintro ⟨place, hplace, rfl⟩
    rw [List.mem_filter, Bool.and_eq_true, isBelow_iff] at hplace
    obtain ⟨hmem, ⟨rel, hrel, rfl⟩, hdir⟩ := hplace
    rw [List.drop_left]
    exact ⟨hrel, hmem, by simpa using hdir⟩
  · rintro ⟨hrel, hmem, hdir⟩
    refine ⟨top ++ rel, ?_, List.drop_left⟩
    rw [List.mem_filter, Bool.and_eq_true, isBelow_iff]
    exact ⟨hmem, ⟨rel, hrel, rfl⟩, by rw [hdir]; rfl⟩

end FileTree

/-! ### Following a path -/

namespace Host

theorem follow_append (t : FileTree) (place : Components) (parts more : List String) :
    follow t place (parts ++ more) =
      match follow t place parts with
      | .ok place => follow t place more
      | .error fault => .error fault := by
  induction parts generalizing place with
  | nil => rfl
  | cons part rest ih =>
    rw [List.cons_append, follow, follow]
    by_cases hd : t.isDirectory place = true
    · rw [if_pos hd, if_pos hd, ih]
    · rw [if_neg hd, if_neg hd]
      by_cases hc : t.contains place = true
      · rw [if_pos hc]
      · rw [if_neg hc]

/-- **Names lead to their file.** -/
theorem follow_file {t : FileTree} {top rel : Components} (h : t.IsFile (top ++ rel)) :
    follow t top rel = .ok (top ++ rel) := by
  induction rel generalizing top with
  | nil => rw [follow, List.append_nil]
  | cons name rest ih =>
    have hname : name ≠ ".." := by
      rintro rfl
      exact absurd (h.entryName (List.mem_append_right top List.mem_cons_self)) (by decide)
    rw [follow, if_pos (FileTree.isDirectory_of_isFile_append h (List.cons_ne_nil name rest)),
      if_neg hname, ih (by rw [List.append_assoc]; exact h), List.append_assoc,
      List.singleton_append]

/-- **Without `..` a path leads straight down.** -/
theorem follow_of_no_parent {t : FileTree} {place final : Components} {parts : List String}
    (hp : ".." ∉ parts) (h : follow t place parts = .ok final) : final = place ++ parts := by
  induction parts generalizing place with
  | nil =>
    rw [follow] at h
    rw [List.append_nil]
    exact (Except.ok.inj h).symm
  | cons part rest ih =>
    rw [List.mem_cons, not_or] at hp
    rw [follow] at h
    by_cases hd : t.isDirectory place = true
    · rw [if_pos hd, if_neg (Ne.symm hp.1)] at h
      rw [ih hp.2 h, List.append_assoc, List.singleton_append]
    · rw [if_neg hd] at h
      split at h <;> exact absurd h (by simp)

theorem locate_append (h : Host) (path : Path) (more : List String) :
    h.locate ⟨path.anchor, path.parts ++ more⟩ =
      match h.locate path with
      | .ok place => follow h.tree place more
      | .error fault => .error fault :=
  follow_append h.tree (h.start path) path.parts more

end Host

/-! ### The stub files of a directory -/

theorem Path.join_relative (dir : Path) (p : List String) :
    dir.join ⟨.relative, p⟩ = ⟨dir.anchor, dir.parts ++ p⟩ := rfl

theorem Path.relativeTo?_join (dir : Path) (p : List String) :
    (dir.join ⟨.relative, p⟩).relativeTo? dir = some ⟨.relative, p⟩ := by
  rw [join_relative, relativeTo?, if_pos ⟨rfl, by simp⟩, List.drop_left]

/-- A path of a directory's stub file: a way down from the directory to a regular file. -/
theorem mem_findStubFiles {host : Host} {dir path : Path} :
    path ∈ findStubFiles host dir ↔
      ∃ top rel, host.locate dir = .ok top ∧ rel ≠ [] ∧ host.tree.IsFile (top ++ rel) ∧
        isStubName (rel.getLastD "") = true ∧ path = ⟨dir.anchor, dir.parts ++ rel⟩ := by
  rw [findStubFiles]
  cases hl : host.locate dir with
  | error fault => simp
  | ok top =>
    dsimp only
    have hsort : ∀ paths : List Path, path ∈ sortPaths paths ↔ path ∈ paths := fun paths => by
      rw [sortPaths, List.mem_mergeSort]
    by_cases hd : host.tree.isDirectory top = true
    · rw [if_pos hd, hsort, List.mem_map]
      constructor
      · rintro ⟨rel, hrel, rfl⟩
        rw [List.mem_filter, FileTree.mem_filesBelow] at hrel
        exact ⟨top, rel, rfl, hrel.1.1, hrel.1.2, hrel.2, rfl⟩
      · rintro ⟨_, rel, htop, hrel, hfile, hstub, rfl⟩
        obtain rfl := Except.ok.inj htop
        exact ⟨rel, List.mem_filter.mpr ⟨FileTree.mem_filesBelow.mpr ⟨hrel, hfile⟩, hstub⟩, rfl⟩
    · rw [if_neg hd]
      constructor
      · exact fun h => absurd h (by simp)
      · rintro ⟨_, rel, htop, hrel, hfile, -, -⟩
        obtain rfl := Except.ok.inj htop
        exact absurd (FileTree.isDirectory_of_isFile_append hfile hrel) hd

/-- The path of a stub file leads to it. -/
theorem locate_stub {host : Host} {dir : Path} {top rel : Components}
    (hdir : host.locate dir = .ok top) (hfile : host.tree.IsFile (top ++ rel)) :
    host.locate ⟨dir.anchor, dir.parts ++ rel⟩ = .ok (top ++ rel) := by
  rw [Host.locate_append, hdir]
  exact Host.follow_file hfile

theorem Host.isFile_of_readText {host : Host} {path : Path} {text : String}
    (h : host.readText path = .ok text) :
    ∃ place, host.locate path = .ok place ∧ host.tree.IsFile place := by
  rw [readText, readBytes] at h
  cases hl : host.locate path with
  | error fault => simp [hl] at h
  | ok place =>
    cases hb : host.tree.bytes? place with
    | some bytes => exact ⟨place, rfl, FileTree.isFile_of_bytes? hb⟩
    | none =>
      by_cases hd : host.tree.isDirectory place = true <;> simp [hl, hb, hd] at h

/-- A stub that can be read below a directory is found there. -/
theorem mem_findStubFiles_of_readText {host : Host} {dir : Path} {p : Components} {text : String}
    (hp : ".." ∉ p) (hstub : isStubName (p.getLastD "") = true)
    (h : host.readText (dir.join ⟨.relative, p⟩) = .ok text) :
    dir.join ⟨.relative, p⟩ ∈ findStubFiles host dir := by
  obtain ⟨place, hplace, hfile⟩ := Host.isFile_of_readText h
  rw [Path.join_relative, Host.locate_append] at hplace
  cases htop : host.locate dir with
  | error fault =>
    rw [htop] at hplace
    exact absurd hplace (by simp)
  | ok top =>
    rw [htop] at hplace
    obtain rfl := Host.follow_of_no_parent hp hplace
    have hne : p ≠ [] := by
      rintro rfl
      exact absurd hstub (by decide)
    exact mem_findStubFiles.mpr ⟨top, p, htop, hne, hfile, hstub, Path.join_relative dir p⟩

/-- The file at a place is among the stub files of a directory. -/
def Host.Loads (host : Host) (dir : Path) (place : Components) : Prop :=
  ∃ path ∈ findStubFiles host dir, host.locate path = .ok place

theorem Host.loads_iff {host : Host} {dir : Path} {place : Components} :
    host.Loads dir place ↔
      ∃ top rel, host.locate dir = .ok top ∧ rel ≠ [] ∧ place = top ++ rel ∧
        host.tree.IsFile place ∧ isStubName (place.getLastD "") = true := by
  have hlast : ∀ {top rel : Components}, rel ≠ [] →
      (top ++ rel).getLastD "" = rel.getLastD "" := by
    intro top rel hrel
    rw [List.getLastD_eq_getLast?, List.getLastD_eq_getLast?,
      List.getLast?_append_of_ne_nil _ hrel]
  constructor
  · rintro ⟨path, hpath, hplace⟩
    obtain ⟨top, rel, hdir, hrel, hfile, hstub, rfl⟩ := mem_findStubFiles.mp hpath
    rw [locate_stub hdir hfile] at hplace
    obtain rfl := Except.ok.inj hplace
    exact ⟨top, rel, hdir, hrel, rfl, hfile, by rw [hlast hrel]; exact hstub⟩
  · rintro ⟨top, rel, hdir, hrel, rfl, hfile, hstub⟩
    rw [hlast hrel] at hstub
    exact ⟨_, mem_findStubFiles.mpr ⟨top, rel, hdir, hrel, hfile, hstub, rfl⟩,
      locate_stub hdir hfile⟩

end StubLayers
