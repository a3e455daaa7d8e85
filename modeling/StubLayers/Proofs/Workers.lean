import StubLayers.Layer.Workers
import StubLayers.Proofs.Check
import StubLayers.Proofs.Listing
import StubLayers.Proofs.Origin

/-!
# Workers

A layer's files are loaded by workers who take them in order and complete them in any order.  This
file says that the schedule leaves no trace in what is loaded, and neither does the order in which
the machine lists the files.

* `Pool.step?_cases`: what an event does to a pool.  A task waits, runs or has its result
  (`Accounted`), and every event brings the end nearer (`left`).
* `Pool.left_of_stuck`, `Pool.Accounted.results?_of_left`: where nothing can happen any more, all
  results are there, in the order of the tasks.
* `Host.Enumerates`: the stub files of a directory in some order.  Sorting forgets the order
  (`Enumerates.sortPaths_eq`).
* `LoadResult.Accounts`: every file gives one tree or one warning, in the order of the files.
* `FileTree.SameShape`: the same files and directories, with other bytes.  A file gives what its own
  bytes say (`loadFile_congr`), and new bytes change one outcome (`loadDirectory_overwrite`).
* `load_ignores_schedule`: the result for all schedules and listings, and for a file that changes.
-/

namespace StubLayers

/-! ### Runs of a pool -/

theorem mapM_eq_some_iff {γ δ : Type} {f : γ → Option δ} {cs : List γ} {ds : List δ} :
    cs.mapM f = some ds ↔ cs.map f = ds.map some := by
  induction cs generalizing ds with
  | nil => cases ds <;> simp
  | cons c rest ih =>
    simp only [List.mapM_cons, bind, pure, Option.bind_eq_some_iff, ih]
    cases ds with
    | nil => simp
    | cons d more => simp

namespace Pool

variable {α β : Type} {workers : Nat} {work : α → β} {tasks : List α} {pool next : Pool α β}

/-- **What an event does.** -/
theorem step?_cases {event : Event} (h : pool.step? workers work event = some next) :
    (∃ task rest, event = .take ∧ pool.waiting = task :: rest ∧ pool.running.length < workers ∧
      next = ⟨rest, pool.running ++ [task], pool.finished⟩) ∨
    (∃ before task after, event = .complete before.length ∧
      pool.running = before ++ task :: after ∧
      next = ⟨pool.waiting, before ++ after, pool.finished ++ [(task.2, work task.1)]⟩) := by
  cases event with
  | take =>
    rw [step?] at h
    split at h
    · exact absurd h (by simp)
    · rename_i task rest hwaiting
      split_ifs at h with hidle
      exact .inl ⟨task, rest, rfl, hwaiting, hidle, (Option.some.inj h).symm⟩
  | complete position =>
    rw [step?] at h
    split at h
    · exact absurd h (by simp)
    · rename_i a number hrunning
      obtain ⟨hlt, htask⟩ := List.getElem?_eq_some_iff.mp hrunning
      have hlength : (pool.running.take position).length = position :=
        List.length_take_of_le (Nat.le_of_lt hlt)
      refine .inr ⟨pool.running.take position, (a, number), pool.running.drop (position + 1),
        by rw [hlength], ?_, ?_⟩
      · rw [← htask, List.getElem_cons_drop, List.take_append_drop]
      · rw [← Option.some.inj h, List.eraseIdx_eq_take_drop_succ]

/-- Each task waits, runs or has its result under its number. -/
def Accounted (work : α → β) (tasks : List α) (pool : Pool α β) : Prop :=
  ∃ done : List (α × Nat), pool.finished = done.map (fun task => (task.2, work task.1)) ∧
    (pool.waiting ++ pool.running ++ done).Perm tasks.zipIdx

theorem accounted_submit : Accounted work tasks (submit tasks) :=
  ⟨[], rfl, by simp [submit]⟩

theorem Accounted.step {event : Event} (h : pool.Accounted work tasks)
    (hstep : pool.step? workers work event = some next) : next.Accounted work tasks := by
  obtain ⟨done, hfinished, hperm⟩ := h
  -- the task that moves stands at the end of one part and in the middle of another
  obtain ⟨task, rest, -, hwaiting, -, rfl⟩ | ⟨before, task, after, -, hrunning, rfl⟩ :=
    step?_cases hstep
  · refine ⟨done, hfinished, List.Perm.trans ?_ hperm⟩
    have hmoved : (rest ++ pool.running ++ task :: done).Perm
        (task :: (rest ++ pool.running ++ done)) := List.perm_middle
    simpa [hwaiting] using hmoved
  · refine ⟨done ++ [task], by rw [hfinished, List.map_append, List.map_singleton],
      List.Perm.trans ?_ hperm⟩
    have hlast : (pool.waiting ++ before ++ after ++ done ++ [task]).Perm
        (task :: (pool.waiting ++ before ++ after ++ done)) := List.perm_append_singleton task _
    have hmiddle : (pool.waiting ++ before ++ task :: (after ++ done)).Perm
        (task :: (pool.waiting ++ before ++ (after ++ done))) := List.perm_middle
    rw [← List.append_assoc] at hmiddle
    simpa [hrunning] using hlast.trans hmiddle.symm

theorem Accounted.run {schedule : List Event} (h : pool.Accounted work tasks)
    (hrun : pool.run? workers work schedule = some next) : next.Accounted work tasks := by
  induction schedule generalizing pool with
  | nil =>
    obtain rfl := Option.some.inj hrun
    exact h
  | cons event rest ih =>
    obtain ⟨middle, hstep, hrest⟩ := Option.bind_eq_some_iff.mp hrun
    exact ih (h.step hstep) hrest

/-- The number of events to come. -/
def left (pool : Pool α β) : Nat := 2 * pool.waiting.length + pool.running.length

theorem left_step {event : Event} (h : pool.step? workers work event = some next) :
    next.left + 1 = pool.left := by
  obtain ⟨task, rest, -, hwaiting, -, rfl⟩ | ⟨before, task, after, -, hrunning, rfl⟩ :=
    step?_cases h
  · simp only [left, hwaiting, List.length_append, List.length_cons, List.length_nil]
    omega
  · simp only [left, hrunning, List.length_append, List.length_cons]
    omega

theorem left_run {schedule : List Event} (h : pool.run? workers work schedule = some next) :
    next.left + schedule.length = pool.left := by
  induction schedule generalizing pool with
  | nil =>
    obtain rfl := Option.some.inj h
    rfl
  | cons event rest ih =>
    obtain ⟨middle, hstep, hrest⟩ := Option.bind_eq_some_iff.mp h
    rw [← left_step hstep, ← ih hrest, List.length_cons, Nat.add_assoc]

/-- **Workers stop only when all is done.** -/
theorem left_of_stuck (hworkers : 0 < workers)
    (h : ∀ event, pool.step? workers work event = none) : pool.left = 0 := by
  -- a running task could complete, and with nothing running some worker is idle
  have hrunning : pool.running = [] := by
    cases hr : pool.running with
    | nil => rfl
    | cons task rest =>
      have hnone := h (.complete 0)
      simp [step?, hr] at hnone
  have hwaiting : pool.waiting = [] := by
    cases hw : pool.waiting with
    | nil => rfl
    | cons task rest =>
      have hnone := h .take
      simp [step?, hw, hrunning, hworkers] at hnone
  simp [left, hrunning, hwaiting]

theorem Accounted.lookup_eq {number : Nat} {b : β} (h : pool.Accounted work tasks)
    (hlookup : pool.finished.lookup number = some b) : tasks[number]?.map work = some b := by
  obtain ⟨done, hfinished, hperm⟩ := h
  obtain ⟨before, after, hsplit, -⟩ := List.lookup_eq_some_iff.mp hlookup
  have hmem : (number, b) ∈ done.map (fun task => (task.2, work task.1)) := by
    rw [← hfinished, hsplit]
    exact List.mem_append_right _ List.mem_cons_self
  obtain ⟨⟨a, n⟩, hdone, heq⟩ := List.mem_map.mp hmem
  obtain ⟨rfl, rfl⟩ := Prod.mk.inj heq
  have htask : tasks[n]? = some a :=
    List.mem_zipIdx_iff_getElem?.mp (hperm.subset (List.mem_append_right _ hdone))
  rw [htask, Option.map_some]

/-- The results can be read once each number has its own. -/
theorem results?_eq_some_iff {rs : List β} {count : Nat} :
    pool.results? count = some rs ↔
      rs.length = count ∧ ∀ n < count, pool.finished.lookup n = rs[n]? := by
  rw [results?, mapM_eq_some_iff]
  constructor
  · intro h
    have hlength : rs.length = count := by simpa using (congrArg List.length h).symm
    refine ⟨hlength, fun n hn => ?_⟩
    have hn' := congrArg (·[n]?) h
    simpa [hn, hlength] using hn'
  · rintro ⟨hlength, h⟩
    refine List.ext_getElem (by simpa using hlength.symm) fun n hn hn' => ?_
    simp only [List.length_map, List.length_range] at hn
    simp [h n hn, hlength, hn]

/-- **Results are those of the tasks, in their order.** -/
theorem Accounted.results?_eq {rs : List β} (h : pool.Accounted work tasks)
    (hresults : pool.results? tasks.length = some rs) : rs = tasks.map work := by
  obtain ⟨hlength, hlookup⟩ := results?_eq_some_iff.mp hresults
  refine List.ext_getElem (by simpa using hlength) fun n hn hn' => ?_
  have hn'' := h.lookup_eq ((hlookup n (by omega)).trans (List.getElem?_eq_getElem hn))
  simpa [List.getElem?_eq_getElem (hlength ▸ hn)] using hn''.symm

theorem Accounted.results?_of_left (h : pool.Accounted work tasks) (hleft : pool.left = 0) :
    pool.results? tasks.length = some (tasks.map work) := by
  have hwaiting : pool.waiting = [] := List.length_eq_zero_iff.mp (by rw [left] at hleft; omega)
  have hrunning : pool.running = [] := List.length_eq_zero_iff.mp (by rw [left] at hleft; omega)
  refine results?_eq_some_iff.mpr ⟨List.length_map work, fun n hn => ?_⟩
  have hvalue : ∀ b, pool.finished.lookup n = some b → tasks[n]?.map work = some b :=
    fun b => h.lookup_eq
  obtain ⟨done, hfinished, hperm⟩ := h
  rw [hwaiting, hrunning, List.nil_append, List.nil_append] at hperm
  have hdone : (tasks[n], n) ∈ done :=
    hperm.symm.subset (List.mem_zipIdx_iff_getElem?.mpr (List.getElem?_eq_getElem hn))
  have hfound : (pool.finished.lookup n).isSome = true := by
    rw [List.lookup_isSome_iff, hfinished]
    exact ⟨_, List.mem_map_of_mem hdone, by simp⟩
  obtain ⟨b, hb⟩ := Option.isSome_iff_exists.mp hfound
  rw [hb, ← hvalue b hb, List.getElem?_map]

end Pool

theorem workersFor_pos (jobs : Int) : 0 < workersFor jobs := by
  rw [workersFor]
  omega

section

variable {α β : Type} {jobs : Int} {schedule : List Pool.Event} {work : α → β} {tasks : List α}

/-- **The schedule leaves no trace.** -/
theorem performAll?_eq {rs : List β} (h : performAll? jobs schedule work tasks = some rs) :
    rs = tasks.map work := by
  rw [performAll?] at h
  split_ifs at h with hplain
  · exact (Option.some.inj h).symm
  · obtain ⟨pool, hrun, hresults⟩ := Option.bind_eq_some_iff.mp h
    exact (Pool.accounted_submit.run hrun).results?_eq hresults

/-- **A schedule that cannot go on has results.** -/
theorem performAll?_of_stuck {pool : Pool α β}
    (hrun : (Pool.submit tasks).run? (workersFor jobs) work schedule = some pool)
    (hstuck : ∀ event, pool.step? (workersFor jobs) work event = none) :
    performAll? jobs schedule work tasks = some (tasks.map work) := by
  rw [performAll?]
  split_ifs with hplain
  · rfl
  · rw [hrun, Option.bind_some]
    exact (Pool.accounted_submit.run hrun).results?_of_left
      (Pool.left_of_stuck (workersFor_pos jobs) hstuck)

theorem length_schedule_le {workers : Nat} {pool : Pool α β}
    (hrun : (Pool.submit tasks).run? workers work schedule = some pool) :
    schedule.length ≤ 2 * tasks.length := by
  have h := Pool.left_run hrun
  have hstart : (Pool.submit tasks : Pool α β).left = 2 * tasks.length := by
    simp [Pool.submit, Pool.left]
  omega

end

/-! ### Files in any order -/

/-- A path stands for a stub file of a directory: it leads down from there to a regular file whose
name ends as those of stubs do. -/
def Host.IsStub (host : Host) (dir path : Path) : Prop :=
  ∃ top rel, host.locate dir = .ok top ∧ rel ≠ [] ∧ host.tree.IsFile (top ++ rel) ∧
    isStubName (rel.getLastD "") = true ∧ path = ⟨dir.anchor, dir.parts ++ rel⟩

/-- The stub files of a directory, each once, as the machine may list them. -/
structure Host.Enumerates (host : Host) (dir : Path) (found : List Path) : Prop where
  nodup : found.Nodup
  mem_iff : ∀ path, path ∈ found ↔ host.IsStub dir path

/-- **Sorting forgets how the files were found.** -/
theorem Host.Enumerates.sortPaths_eq {host : Host} {dir : Path} {found : List Path}
    (h : host.Enumerates dir found) : sortPaths found = findStubFiles host dir := by
  have hfound : found.Perm (findStubFiles host dir) :=
    (List.perm_ext_iff_of_nodup h.nodup (nodup_findStubFiles host dir)).mpr fun path =>
      (h.mem_iff path).trans mem_findStubFiles.symm
  exact eq_findStubFiles ((List.mergeSort_perm found _).trans hfound) (pairwise_sortPaths found)

theorem strictly_ascending_findStubFiles (host : Host) (dir : Path) :
    (findStubFiles host dir).Pairwise fun p q => p.render < q.render := by
  refine ((pairwise_findStubFiles host dir).and (nodup_findStubFiles host dir)).imp_of_mem ?_
  rintro p q hp hq ⟨hle, hne⟩
  refine String.not_le.mp fun hge => hne ?_
  exact render_injective_stubs hp hq (String.le_antisymm hle hge)

/-- Each outcome gives one tree or one warning, in the order of the outcomes. -/
inductive Split : List (Except Warning DeclarationTree) → List DeclarationTree → List Warning → Prop
  | nil : Split [] [] []
  | tree {outcomes trees warnings} (tree : DeclarationTree) (rest : Split outcomes trees warnings) :
      Split (.ok tree :: outcomes) (tree :: trees) warnings
  | warning {outcomes trees warnings} (warning : Warning) (rest : Split outcomes trees warnings) :
      Split (.error warning :: outcomes) trees (warning :: warnings)

theorem split_successes_failures (outcomes : List (Except Warning DeclarationTree)) :
    Split outcomes (successes outcomes) (failures outcomes) := by
  induction outcomes with
  | nil => exact .nil
  | cons outcome rest ih =>
    cases outcome with
    | ok tree => exact .tree tree ih
    | error warning => exact .warning warning ih

/-- A result tells of each stub file of a directory once: the files ascend by their texts, trees and
warnings are what the files give, in their order, and both speak of their file. -/
structure LoadResult.Accounts (result : LoadResult) (host : Host) (dir : Path)
    (base : Option Path) : Prop where
  ascending : result.files.Pairwise fun p q => p.render < q.render
  mem_iff : ∀ path, path ∈ result.files ↔ host.IsStub dir path
  split : Split (result.files.map (loadFile host dir base)) result.trees result.warnings
  declared_in : ∀ path ∈ result.files, ∀ tree, loadFile host dir base path = .ok tree →
    ∀ d ∈ tree.walk, d.location.file = shownPath path base
  warned_of : ∀ path ∈ result.files, ∀ w, loadFile host dir base path = .error w →
    w.place.file = shownPath path base

theorem accounts_loadDirectory (host : Host) (dir : Path) (base : Option Path) :
    (loadDirectory host dir base).Accounts host dir base where
  ascending := strictly_ascending_findStubFiles host dir
  mem_iff _ := mem_findStubFiles
  split := split_successes_failures _
  declared_in _ _ _ h := file_loadFile h
  warned_of _ _ _ h := place_loadFile h

/-! ### A file that changes -/

namespace FileTree

/-- The same files and directories, with other bytes. -/
structure SameShape (t t' : FileTree) : Prop where
  places : t'.files.map (·.1) = t.files.map (·.1)
  folders : t'.folders = t.folders

theorem sameShape_write {t : FileTree} {place : Components} (h : place ∈ t.files.map (·.1))
    (bytes : List UInt8) : t.SameShape (t.write place bytes) := by
  rw [write, dif_pos h]
  exact ⟨replaced_places place bytes t.files, rfl⟩

namespace SameShape

variable {t t' : FileTree} (same : t.SameShape t')

include same

theorem isDirectory_eq (place : Components) : t'.isDirectory place = t.isDirectory place := by
  have hfiles : ∀ tree : FileTree, tree.files.any (fun entry => isBelow entry.1 place) =
      (tree.files.map (·.1)).any (isBelow · place) := fun tree => by rw [List.any_map]; rfl
  rw [isDirectory, isDirectory, hfiles, hfiles, same.places, same.folders]

theorem isFile_iff (place : Components) : t'.IsFile place ↔ t.IsFile place := by
  rw [IsFile, IsFile, same.places, same.isDirectory_eq]

theorem contains_eq (place : Components) : t'.contains place = t.contains place := by
  have hfound : ∀ tree : FileTree, (tree.files.find? (·.1 = place)).isSome =
      (tree.files.map (·.1)).any (· = place) := fun tree => by
    rw [List.isSome_find?, List.any_map]
    rfl
  rw [contains, contains, bytes?, bytes?, same.isDirectory_eq]
  cases t.isDirectory place with
  | true => rfl
  | false =>
    simp only [Bool.false_or, Bool.false_eq_true, if_false, Option.isSome_map, hfound, same.places]

end SameShape

/-- Other files keep their bytes. -/
theorem bytes?_write_of_ne {t : FileTree} {place other : Components}
    (h : place ∈ t.files.map (·.1)) (bytes : List UInt8) (hne : other ≠ place) :
    (t.write place bytes).bytes? other = t.bytes? other := by
  have hfind : (replaced place bytes t.files).find? (·.1 = other) =
      t.files.find? (·.1 = other) := by
    induction t.files with
    | nil => rfl
    | cons entry rest ih =>
      have hcons : replaced place bytes (entry :: rest) =
          (if entry.1 = place then (place, bytes) else entry) :: replaced place bytes rest := rfl
      rw [hcons, List.find?_cons, List.find?_cons, ih]
      by_cases hentry : entry.1 = place
      · simp [hentry, hne.symm]
      · rw [if_neg hentry]
  rw [bytes?, bytes?, (sameShape_write h bytes).isDirectory_eq, write, dif_pos h]
  exact congrArg (fun found => if t.isDirectory other then none else found.map (·.2)) hfind

end FileTree

namespace Host

/-- The same machine with other bytes in a file. -/
def overwrite (host : Host) (place : Components) (bytes : List UInt8) : Host :=
  { host with tree := host.tree.write place bytes }

variable {host : Host} {place : Components} (file : host.tree.IsFile place) (bytes : List UInt8)

include file

theorem sameShape_overwrite : host.tree.SameShape (host.overwrite place bytes).tree :=
  FileTree.sameShape_write file.1 bytes

theorem locate_overwrite (path : Path) :
    (host.overwrite place bytes).locate path = host.locate path := by
  have hfollow : ∀ top, follow (host.overwrite place bytes).tree top path.parts =
      follow host.tree top path.parts := by
    induction path.parts with
    | nil => exact fun _ => rfl
    | cons part rest ih =>
      intro top
      rw [follow, follow, (sameShape_overwrite file bytes).isDirectory_eq,
        (sameShape_overwrite file bytes).contains_eq, ih]
  exact hfollow (host.start path)

theorem isStub_overwrite_iff (dir path : Path) :
    (host.overwrite place bytes).IsStub dir path ↔ host.IsStub dir path := by
  simp only [IsStub, locate_overwrite file, (sameShape_overwrite file bytes).isFile_iff]

theorem readBytes_overwrite {path : Path} (hother : host.locate path ≠ .ok place) :
    (host.overwrite place bytes).readBytes path = host.readBytes path := by
  rw [readBytes, readBytes, locate_overwrite file]
  cases hplace : host.locate path with
  | error fault => rfl
  | ok other =>
    have hne : other ≠ place := fun he => hother (by rw [hplace, he])
    dsimp only
    rw [(sameShape_overwrite file bytes).isDirectory_eq, overwrite,
      FileTree.bytes?_write_of_ne file.1 bytes hne]

end Host

/-- **A file gives what its own bytes say.** -/
theorem loadFile_congr {host other : Host} {path : Path}
    (h : other.readBytes path = host.readBytes path) (dir : Path) (base : Option Path) :
    loadFile other dir base path = loadFile host dir base path := by
  rw [loadFile, loadFile, parseFile, parseFile, Host.readText, Host.readText, h]

/-- No two stub files of a directory are one file. -/
theorem eq_of_locate_stubs {host : Host} {dir p q : Path} {place : Components}
    (hp : p ∈ findStubFiles host dir) (hq : q ∈ findStubFiles host dir)
    (hplace : host.locate p = .ok place) (hplace' : host.locate q = .ok place) : p = q := by
  obtain ⟨top, rel, htop, -, hfile, -, rfl⟩ := mem_findStubFiles.mp hp
  obtain ⟨top', rel', htop', -, hfile', -, rfl⟩ := mem_findStubFiles.mp hq
  obtain rfl := Except.ok.inj (htop.symm.trans htop')
  rw [locate_stub htop hfile] at hplace
  rw [locate_stub htop hfile', ← hplace] at hplace'
  rw [List.append_cancel_left (Except.ok.inj hplace')]

section

variable {host : Host} {place : Components} (file : host.tree.IsFile place) (bytes : List UInt8)

include file

theorem loadFile_overwrite (dir : Path) (base : Option Path) {path : Path}
    (hother : host.locate path ≠ .ok place) :
    loadFile (host.overwrite place bytes) dir base path = loadFile host dir base path :=
  loadFile_congr (Host.readBytes_overwrite file bytes hother) dir base

theorem Host.Enumerates.overwrite {dir : Path} {found : List Path}
    (h : host.Enumerates dir found) : (host.overwrite place bytes).Enumerates dir found :=
  ⟨h.nodup, fun path => (h.mem_iff path).trans (isStub_overwrite_iff file bytes dir path).symm⟩

theorem Host.findStubFiles_overwrite (dir : Path) :
    findStubFiles (host.overwrite place bytes) dir = findStubFiles host dir := by
  have hlisted : host.Enumerates dir (findStubFiles host dir) :=
    ⟨nodup_findStubFiles host dir, fun _ => mem_findStubFiles⟩
  rw [← hlisted.sortPaths_eq, ← (hlisted.overwrite file bytes).sortPaths_eq]

/-- **Other bytes change one outcome.** -/
theorem loadDirectory_overwrite {dir path : Path} (base : Option Path)
    (hpath : path ∈ findStubFiles host dir) (hplace : host.locate path = .ok place) :
    ∃ files before after,
      loadDirectory host dir base =
        .gather files (before ++ loadFile host dir base path :: after) ∧
      loadDirectory (host.overwrite place bytes) dir base =
        .gather files (before ++ loadFile (host.overwrite place bytes) dir base path :: after) := by
  obtain ⟨before, after, hsplit⟩ := List.append_of_mem hpath
  have hlisting := Host.findStubFiles_overwrite file bytes dir
  -- the listing has the changed file once, so all others lead elsewhere
  have hother : ∀ q ∈ before ++ after,
      loadFile (host.overwrite place bytes) dir base q = loadFile host dir base q := by
    intro q hq
    have hmoved : (before ++ path :: after).Perm (path :: (before ++ after)) := List.perm_middle
    have hlisted : q ∈ findStubFiles host dir := by
      rw [hsplit]
      exact hmoved.symm.subset (List.mem_cons_of_mem path hq)
    have hnodup := hmoved.nodup_iff.mp (hsplit ▸ nodup_findStubFiles host dir)
    refine loadFile_overwrite file bytes dir base fun hq' => ?_
    exact (List.nodup_cons.mp hnodup).1 (eq_of_locate_stubs hpath hlisted hplace hq' ▸ hq)
  refine ⟨findStubFiles host dir, before.map (loadFile host dir base),
    after.map (loadFile host dir base), ?_, ?_⟩
  · rw [← List.map_cons, ← List.map_append, ← hsplit]
    rfl
  · rw [← List.map_congr_left fun q hq => hother q (List.mem_append_left after hq),
      ← List.map_congr_left fun q hq => hother q (List.mem_append_right before hq),
      ← List.map_cons, ← List.map_append, ← hsplit, ← hlisting]
    rfl

end

/-! ### All schedules -/

/-- **Loading ignores the schedule and the listing.**  However the machine lists the stub files,
however many jobs there are and in whatever order the workers complete the files, the result is that
of loading one file after the other, and it accounts for each file.  No schedule goes on for ever,
and where no worker can do anything there is a result.  A file gives what its bytes say: other bytes
in one file leave the listing and the outcomes of all other files as they are. -/
theorem load_ignores_schedule (host : Host) (dir : Path) (base : Option Path) (jobs : Int)
    (found : List Path) (enumerated : host.Enumerates dir found) :
    (∀ schedule result, loadFound? jobs schedule host dir base found = some result →
      result = loadDirectory host dir base ∧ result.Accounts host dir base) ∧
    (∀ schedule pool, (Pool.submit (sortPaths found)).run? (workersFor jobs)
        (loadFile host dir base) schedule = some pool →
      schedule.length ≤ 2 * found.length ∧
      ((∀ event, pool.step? (workersFor jobs) (loadFile host dir base) event = none) →
        ∃ result, loadFound? jobs schedule host dir base found = some result)) ∧
    (∀ other path, Host.readBytes other path = host.readBytes path →
      loadFile other dir base path = loadFile host dir base path) ∧
    (∀ place bytes, host.tree.IsFile place →
      (host.overwrite place bytes).Enumerates dir found ∧
      (∀ path, host.locate path ≠ .ok place →
        loadFile (host.overwrite place bytes) dir base path = loadFile host dir base path) ∧
      ∀ path ∈ found, host.locate path = .ok place → ∃ files before after,
        loadDirectory host dir base =
          .gather files (before ++ loadFile host dir base path :: after) ∧
        loadDirectory (host.overwrite place bytes) dir base =
          .gather files
            (before ++ loadFile (host.overwrite place bytes) dir base path :: after)) := by
  refine ⟨?_, ?_, fun other path h => loadFile_congr h dir base, ?_⟩
  · intro schedule result h
    obtain ⟨outcomes, houtcomes, rfl⟩ := Option.map_eq_some_iff.mp h
    have hresult : LoadResult.gather (sortPaths found) outcomes = loadDirectory host dir base := by
      rw [performAll?_eq houtcomes, enumerated.sortPaths_eq]
      rfl
    exact ⟨hresult, hresult ▸ accounts_loadDirectory host dir base⟩
  · intro schedule pool hrun
    refine ⟨?_, fun hstuck => ?_⟩
    · have hlength : (sortPaths found).length = found.length :=
        (List.mergeSort_perm found _).length_eq
      exact hlength ▸ length_schedule_le hrun
    · exact ⟨_, by rw [loadFound?, performAll?_of_stuck hrun hstuck, Option.map_some]⟩
  · intro place bytes file
    refine ⟨enumerated.overwrite file bytes, fun path => loadFile_overwrite file bytes dir base,
      fun path hpath hplace => loadDirectory_overwrite file bytes base ?_ hplace⟩
    exact mem_findStubFiles.mpr ((enumerated.mem_iff path).mp hpath)

/-- The stub files of the sample, not in the order of their texts. -/
def sampleFound : List Path :=
  [⟨.slash, ["p", "shims", "a.pyi"]⟩, ⟨.slash, ["p", "more", "b.pyi"]⟩,
    ⟨.slash, ["p", "made", "a.pyi"]⟩]

theorem findStubFiles_sample :
    findStubFiles sampleHost ⟨.slash, ["p"]⟩ = sampleFound.reverse :=
  findStubFiles_eq ["p"] [["made", "a.pyi"], ["more", "b.pyi"], ["shims", "a.pyi"]]
    (by decide +kernel) (by decide +kernel) (by decide +kernel)

theorem enumerates_sample : sampleHost.Enumerates ⟨.slash, ["p"]⟩ sampleFound where
  nodup := by decide
  mem_iff path := by
    rw [← List.mem_reverse, ← findStubFiles_sample]
    exact mem_findStubFiles

/-- Two workers; the second file, which cannot be read as a stub, completes first and the first one
last. -/
def sampleSchedule : List Pool.Event :=
  [.take, .take, .complete 1, .take, .complete 1, .complete 0]

theorem load_ignores_schedule_sample :
    sampleHost.Enumerates ⟨.slash, ["p"]⟩ sampleFound ∧
    ∃ result, loadFound? 2 sampleSchedule sampleHost ⟨.slash, ["p"]⟩ none sampleFound =
        some result ∧
      result.files = sampleFound.reverse ∧
      result.trees.map (·.module) = ["made.a", "shims.a"] ∧
      result.warnings.map (·.place.file) = ["/p/more/b.pyi"] := by
  obtain ⟨hresult, hends, -, -⟩ := load_ignores_schedule sampleHost ⟨.slash, ["p"]⟩ none 2
    sampleFound enumerates_sample
  have hruns : ((Pool.submit (sortPaths sampleFound)).run? (workersFor 2)
      (loadFile sampleHost ⟨.slash, ["p"]⟩ none) sampleSchedule).isSome = true := by
    rw [enumerates_sample.sortPaths_eq, findStubFiles_sample]
    decide +kernel
  obtain ⟨pool, hrun⟩ := Option.isSome_iff_exists.mp hruns
  have hleft : pool.left = 0 := by
    have hcount := Pool.left_run hrun
    rw [enumerates_sample.sortPaths_eq, findStubFiles_sample] at hcount
    simpa [Pool.left, Pool.submit, sampleSchedule, sampleFound] using hcount
  obtain ⟨result, hloaded⟩ := (hends sampleSchedule pool hrun).2 fun event => by
    cases hstep : pool.step? (workersFor 2) (loadFile sampleHost ⟨.slash, ["p"]⟩ none) event with
    | none => rfl
    | some next => exact absurd (Pool.left_step hstep) (by omega)
  refine ⟨enumerates_sample, result, hloaded, ?_⟩
  rw [(hresult sampleSchedule result hloaded).1, loadDirectory, findStubFiles_sample]
  decide +kernel

end StubLayers
