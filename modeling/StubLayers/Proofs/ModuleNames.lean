import StubLayers.Proofs.Listing
import StubLayers.Proofs.Names

/-!
# Which stub files share a module

The name of a module is made from the way to its stub file in three steps, after which points join
what is left: the file loses its ending, a last name `__init__` is dropped, and the first name loses
the ending of stub packages.  The steps may leave nothing, and each of them makes some ways alike.
This file says which ones.

* `IsPlainName`: a name without points and hyphens, such as an identifier.
* `StubWay`: a way to a stub file through plain names, with or without the ending of stub packages
  on the leading directory; `StubWay.parts` is the way as it is written.
* `StubWay.bare`: the names that are left; `moduleParts_parts` says that the three steps leave them.
* `joined_inj`: points join no two lists of plain names to the same text.
* `StubWay.bare_eq_iff`, `StubWay.parts_eq_iff`: when two ways leave the same, and when they are
  one.
* `shared_module_iff` puts the parts together.
-/

namespace StubLayers

/-! ### Plain names -/

/-- A name without the signs that a module's name or a stub package's directory is put together
with. -/
structure IsPlainName (name : String) : Prop where
  ne_empty : name ≠ ""
  point : '.' ∉ name.toList
  hyphen : '-' ∉ name.toList

theorem IsWord.isPlainName {name : String} (h : IsWord name) : IsPlainName name where
  ne_empty := h.ne_empty
  point := h.not_mem isNameContinue_point
  hyphen := h.not_mem (by decide)

/-- **Points keep plain names apart**, also where there are none. -/
theorem joined_inj {ps qs : List String} (hps : ∀ p ∈ ps, IsPlainName p)
    (hqs : ∀ q ∈ qs, IsPlainName q) : ".".intercalate ps = ".".intercalate qs ↔ ps = qs := by
  -- the pieces of the empty text are one empty piece, which is no plain name
  have hpieces : ∀ names : List String, (∀ n ∈ names, IsPlainName n) →
      ((".".intercalate names).toList.splitOn '.').filter (· ≠ []) = names.map String.toList := by
    intro names hnames
    by_cases hne : names = []
    · rw [hne]
      rfl
    · rw [splitOn_joined_by rfl hne fun n hn => (hnames n hn).point, List.filter_eq_self]
      intro cs hcs
      obtain ⟨n, hn, rfl⟩ := List.mem_map.mp hcs
      simpa using (hnames n hn).ne_empty
  constructor
  · intro h
    apply map_toList_injective
    rw [← hpieces ps hps, ← hpieces qs hqs, h]
  · intro h
    rw [h]

/-! ### The three steps -/

/-- A stub file loses its ending, whatever its name. -/
theorem dropEnding_stub {name : String} (h : name ≠ "") :
    dropEnding (name ++ stubSuffix).toList = name.toList := by
  have hname : name.toList ≠ [] := fun hnil => h (String.toList_inj.mp hnil)
  have htext : (name ++ stubSuffix).toList = name.toList ++ ['.', 'p', 'y', 'i'] :=
    String.toList_append
  have htail : (((name ++ stubSuffix).toList.reverse.takeWhile (· ≠ '.')).length) = 3 := by
    rw [htext]
    simp
  have hstem : (name ++ stubSuffix).toList.take ((name ++ stubSuffix).toList.length - 3 - 1) =
      name.toList := by
    rw [htext, List.length_append]
    simp
  rw [dropEnding, htail, hstem, if_neg (by simpa using h)]

theorem dropInit_concat (front : List String) (last : String) :
    dropInit (front ++ [last]) = front ++ if last = "__init__" then [] else [last] := by
  rw [dropInit, List.getLast?_concat, List.dropLast_concat]
  by_cases h : last = "__init__"
  · rw [if_pos (congrArg some h), if_pos h, List.append_nil]
  · rw [if_neg fun hsome => h (Option.some.inj hsome), if_neg h]

theorem dropPackageSuffix_append (name : String) :
    dropPackageSuffix (name ++ packageSuffix) = name := by
  rw [dropPackageSuffix, if_pos]
  · rw [String.length_append, Nat.add_sub_cancel, String.toList_append, ← String.length_toList,
      List.take_left, String.ofList_toList]
  · rw [String.toList_append, List.isSuffixOf_iff_suffix]
    exact List.suffix_append _ _

theorem IsPlainName.dropPackageSuffix_eq {name : String} (h : IsPlainName name) :
    dropPackageSuffix name = name := by
  rw [dropPackageSuffix, if_neg]
  intro hsuffix
  have hmem : '-' ∈ packageSuffix.toList := by decide
  exact h.hyphen ((List.isSuffixOf_iff_suffix.mp hsuffix).subset hmem)

/-! ### Ways to stub files -/

/-- A way from a layer down to a stub file: directories and the file, all with plain names.  The
leading directory may carry the ending of stub packages besides. -/
structure StubWay where
  folders : List String
  /-- The leading directory carries the ending. -/
  marked : Bool
  /-- The file without its ending. -/
  file : String
  plain : ∀ name ∈ folders ++ [file], IsPlainName name

namespace StubWay

/-- What follows the name of the leading directory. -/
def mark (w : StubWay) : String := if w.marked then packageSuffix else ""

/-- The way as it is written. -/
def parts (w : StubWay) : List String :=
  w.folders.modifyHead (· ++ w.mark) ++ [w.file ++ stubSuffix]

/-- The stub file, in a layer. -/
def path (w : StubWay) (root : Path) : Path := root.join ⟨.relative, w.parts⟩

/-- The names on the way, without the ending of the leading directory and without a file
`__init__`. -/
def bare (w : StubWay) : List String :=
  w.folders ++ if w.file = "__init__" then [] else [w.file]

variable (w w' : StubWay)

theorem plain_folder {name : String} (h : name ∈ w.folders) : IsPlainName name :=
  w.plain name (List.mem_append_left _ h)

theorem plain_file : IsPlainName w.file := w.plain w.file (List.mem_append_right _ (by simp))

theorem plain_bare {name : String} (h : name ∈ w.bare) : IsPlainName name := by
  rcases List.mem_append.mp h with h | h
  · exact w.plain_folder h
  · split at h
    · exact absurd h List.not_mem_nil
    · exact List.mem_singleton.mp h ▸ w.plain_file

theorem dropPackageSuffix_mark {name : String} (h : IsPlainName name) :
    dropPackageSuffix (name ++ w.mark) = name := by
  rw [mark]
  split
  · exact dropPackageSuffix_append name
  · rw [String.append_empty, h.dropPackageSuffix_eq]

/-- **The three steps leave the bare names.** -/
theorem moduleParts_parts : moduleParts w.parts = w.bare := by
  have hlast : w.parts.getLastD "" = w.file ++ stubSuffix := by
    rw [parts, List.getLastD_concat]
  rw [moduleParts, hlast, parts, List.dropLast_concat, dropEnding_stub w.plain_file.ne_empty,
    String.ofList_toList, dropInit_concat, bare]
  cases hfolders : w.folders with
  | nil =>
    -- without directories the first name is that of the file, which has no ending to lose
    rw [List.modifyHead_nil, List.nil_append]
    split_ifs with hinit
    · rfl
    · exact congrArg (· :: []) w.plain_file.dropPackageSuffix_eq
  | cons first rest =>
    have hfirst : IsPlainName first := w.plain_folder (hfolders ▸ List.mem_cons_self)
    rw [List.modifyHead_cons, List.cons_append, List.cons_append]
    dsimp only
    rw [w.dropPackageSuffix_mark hfirst]

theorem moduleName?_path (root : Path) :
    moduleName? (w.path root) root = some (".".intercalate w.bare) := by
  have hne : w.parts.isEmpty = false := by simp [parts]
  rw [moduleName?, path, root.relativeTo?_join]
  dsimp only
  rw [hne, if_neg (by simp), moduleParts_parts]

/-! ### Ways that leave the same -/

/-- Beside the file `w` stands a directory of its name, and `w'` is the file `__init__` of that. -/
structure HasPackage : Prop where
  folders : w'.folders = w.folders ++ [w.file]
  init : w'.file = "__init__"
  named : w.file ≠ "__init__"

/-- The two ways differ in the leading directory only, which has the ending of stub packages on one
of them. -/
structure IsTwinOf : Prop where
  folders : w.folders = w'.folders
  file : w.file = w'.file
  leading : w.folders ≠ []
  marked : w.marked ≠ w'.marked

variable {w w'}

theorem bare_eq_iff :
    w.bare = w'.bare ↔
      w.folders = w'.folders ∧ w.file = w'.file ∨ w.HasPackage w' ∨ w'.HasPackage w := by
  constructor
  · intro h
    rw [bare, bare] at h
    split_ifs at h with hinit hinit' hinit'
    · rw [List.append_nil, List.append_nil] at h
      exact .inl ⟨h, hinit.trans hinit'.symm⟩
    · rw [List.append_nil] at h
      exact .inr (.inr ⟨h, hinit, hinit'⟩)
    · rw [List.append_nil] at h
      exact .inr (.inl ⟨h.symm, hinit', hinit⟩)
    · obtain ⟨hfolders, hfile⟩ := List.append_inj' h rfl
      exact .inl ⟨hfolders, List.singleton_inj.mp hfile⟩
  · have hpackage : ∀ {v v' : StubWay}, v.HasPackage v' → v.bare = v'.bare := by
      intro v v' h
      rw [bare, bare, if_neg h.named, if_pos h.init, List.append_nil, h.folders]
    rintro (⟨hfolders, hfile⟩ | h | h)
    · rw [bare, bare, hfolders, hfile]
    · exact hpackage h
    · exact (hpackage h).symm

/-- The ending tells the two spellings of a leading directory apart. -/
theorem append_mark_inj {name name' : String} (h : IsPlainName name) (h' : IsPlainName name') :
    name ++ w.mark = name' ++ w'.mark ↔ name = name' ∧ w.marked = w'.marked := by
  have hother : ∀ {n m : String}, IsPlainName m → n ++ packageSuffix ≠ m := by
    rintro n m hm rfl
    exact hm.hyphen (by simp [packageSuffix])
  rw [mark, mark]
  cases w.marked with
  | true =>
    cases w'.marked with
    | true => simp
    | false => simpa using hother h'
  | false =>
    cases w'.marked with
    | true => simpa using fun he => hother h he.symm
    | false => simp

theorem parts_eq_iff :
    w.parts = w'.parts ↔
      w.folders = w'.folders ∧ w.file = w'.file ∧ (w.folders ≠ [] → w.marked = w'.marked) := by
  constructor
  · intro h
    obtain ⟨hheads, hlast⟩ := List.append_inj' h rfl
    have hfile : w.file = w'.file := (String.append_left_inj _).mp (List.singleton_inj.mp hlast)
    cases hfolders : w.folders with
    | nil =>
      cases hfolders' : w'.folders with
      | nil => exact ⟨rfl, hfile, absurd rfl⟩
      | cons first' rest' => simp [hfolders, hfolders'] at hheads
    | cons first rest =>
      cases hfolders' : w'.folders with
      | nil => simp [hfolders, hfolders'] at hheads
      | cons first' rest' =>
        have hfirst : IsPlainName first := w.plain_folder (hfolders ▸ List.mem_cons_self)
        have hfirst' : IsPlainName first' := w'.plain_folder (hfolders' ▸ List.mem_cons_self)
        rw [hfolders, hfolders', List.modifyHead_cons, List.modifyHead_cons, List.cons.injEq,
          append_mark_inj hfirst hfirst'] at hheads
        obtain ⟨⟨rfl, hmarked⟩, rfl⟩ := hheads
        exact ⟨rfl, hfile, fun _ => hmarked⟩
  · rintro ⟨hfolders, hfile, hmarked⟩
    rw [parts, parts, ← hfolders, hfile]
    cases hnames : w.folders with
    | nil => rfl
    | cons first rest =>
      rw [List.modifyHead_cons, List.modifyHead_cons, mark, mark,
        hmarked (hnames ▸ List.cons_ne_nil first rest)]

/-- A file and the package of its name lie at different depths. -/
theorem HasPackage.parts_ne (h : w.HasPackage w') : w.parts ≠ w'.parts := by
  intro hparts
  have hfolders := (parts_eq_iff.mp hparts).1
  rw [h.folders] at hfolders
  exact List.cons_ne_nil _ _ (List.self_eq_append_right.mp hfolders)

/-- Both stub files are of one module. -/
def ShareModule (root : Path) (w w' : StubWay) : Prop :=
  ∃ name, moduleName? (w.path root) root = some name ∧ moduleName? (w'.path root) root = some name

theorem shareModule_iff_bare (root : Path) : ShareModule root w w' ↔ w.bare = w'.bare := by
  rw [← joined_inj (fun _ => w.plain_bare) (fun _ => w'.plain_bare), ShareModule]
  simp only [moduleName?_path, Option.some.injEq, exists_eq_left']
  exact eq_comm

end StubWay

open StubWay in
/-- **Stub files share a module** exactly if the same names are left of their ways without the
ending of the leading directory and without a last `__init__`.  So two different files of a layer
share one only where a file stands beside a package of its name, and where a leading directory is
there both with and without the ending. -/
theorem shared_module_iff (root : Path) (w w' : StubWay) :
    (ShareModule root w w' ↔ w.bare = w'.bare) ∧
    (w.path root ≠ w'.path root ∧ ShareModule root w w' ↔
      w.IsTwinOf w' ∨ w.HasPackage w' ∨ w'.HasPackage w) := by
  have hpath : w.path root = w'.path root ↔ w.parts = w'.parts :=
    ⟨fun h => root.join_relative_injective h, fun h => by rw [path, path, h]⟩
  refine ⟨shareModule_iff_bare root, ?_⟩
  rw [shareModule_iff_bare, bare_eq_iff, ne_eq, hpath]
  constructor
  · rintro ⟨hne, ⟨hfolders, hfile⟩ | hpackage⟩
    · rw [parts_eq_iff, not_and, not_and, Classical.not_imp] at hne
      obtain ⟨hleading, hmarked⟩ := hne hfolders hfile
      exact .inl ⟨hfolders, hfile, hleading, hmarked⟩
    · exact .inr hpackage
  · rintro (htwin | hpackage | hpackage)
    · refine ⟨fun hparts => ?_, .inl ⟨htwin.folders, htwin.file⟩⟩
      exact htwin.marked ((parts_eq_iff.mp hparts).2.2 htwin.leading)
    · exact ⟨hpackage.parts_ne, .inr (.inl hpackage)⟩
    · exact ⟨hpackage.parts_ne.symm, .inr (.inr hpackage)⟩

theorem isWord_pkg : IsWord "pkg" :=
  ⟨'p', ['k', 'g'], rfl, by decide, forall_mem_of_all (by decide)⟩

theorem isWord_init : IsWord "__init__" :=
  ⟨'_', "_init__".toList, rfl, by decide, forall_mem_of_all (by decide)⟩

def pkgFile : StubWay := ⟨[], false, "pkg", by simpa using isWord_pkg.isPlainName⟩

def pkgStubs : StubWay :=
  ⟨["pkg"], true, "__init__", by
    simpa using And.intro isWord_pkg.isPlainName isWord_init.isPlainName⟩

/-- A file and the stub package of its name. -/
theorem shared_module_of_stub_package :
    pkgFile.path (.ofString "lib") = .ofString "lib/pkg.pyi" ∧
    pkgStubs.path (.ofString "lib") = .ofString "lib/pkg-stubs/__init__.pyi" ∧
    StubWay.ShareModule (.ofString "lib") pkgFile pkgStubs := by
  have hpackage : pkgFile.HasPackage pkgStubs := ⟨rfl, rfl, by decide⟩
  have hiff := shared_module_iff (.ofString "lib") pkgFile pkgStubs
  exact ⟨by decide, by decide, (hiff.2.mpr (.inr (.inl hpackage))).2⟩

end StubLayers
