import StubLayers.Log.Session
import StubLayers.Proofs.Growth
import StubLayers.Proofs.Workers

/-!
# Runs of a log

Set-ups and records follow each other in any order.  A set-up drops the sinks of the one before it
and may fail half-way, when the console is set up and the log file does not open.  This file says
what becomes of every record of such a run.

* `Host.bytes?_openLog`, `Host.bytes?_append`: what opening and adding to a log file does to all
  files.
* `Log.InForce`: a set-up as it turned out, with the log file that it opened.
* `Session.Follows`: the sinks of a session are those of a set-up.  `follows_configure` says so
  after every set-up, `Follows.consoleText_eq` and `Follows.bytes?_emit` what then becomes of a
  record.
* `Log.Call`, `Log.Run`: a run, with the history of its set-ups and records.
* `Run.Delivers`: what holds of a run.  `Delivers.step` is the step, `delivers_after` the run, and
  `records_delivered` says it in full.
-/

namespace StubLayers

/-! ### Log files -/

namespace FileTree

variable {t : FileTree} {place : Components}

theorem isFile_iff_isSome : t.IsFile place ↔ (t.bytes? place).isSome = true := by
  rw [Option.isSome_iff_exists]
  exact ⟨fun h => h.exists_bytes, fun ⟨_, hbytes⟩ => isFile_of_bytes? hbytes⟩

theorem find?_replaced {files : List (Components × List UInt8)} (h : place ∈ files.map (·.1))
    (bytes : List UInt8) :
    (replaced place bytes files).find? (·.1 = place) = some (place, bytes) := by
  induction files with
  | nil => exact absurd h List.not_mem_nil
  | cons entry rest ih =>
    have hcons : replaced place bytes (entry :: rest) =
        (if entry.1 = place then (place, bytes) else entry) :: replaced place bytes rest := rfl
    rw [hcons]
    by_cases hentry : entry.1 = place
    · rw [if_pos hentry, List.find?_cons_of_pos (by simp)]
    · rw [if_neg hentry, List.find?_cons_of_neg (by simpa using hentry)]
      exact ih (by simpa [Ne.symm hentry] using h)

/-- The file itself gets its new bytes. -/
theorem bytes?_write_self (h : t.IsFile place) (bytes : List UInt8) :
    (t.write place bytes).bytes? place = some bytes := by
  rw [bytes?, (sameShape_write h.1 bytes).isDirectory_eq, h.2, if_neg (by simp), write, dif_pos h.1]
  exact congrArg (Option.map (·.2)) (find?_replaced h.1 bytes)

/-- A new file in a directory that is there. -/
theorem bytes?_write_new (fresh : place ∉ t.files.map (·.1)) (named : place.all isEntryName = true)
    (hdirs : ∀ top, isBelow place top = true → t.isDirectory top = true)
    (hplace : t.isDirectory place = false) (bytes : List UInt8) (other : Components) :
    (t.write place bytes).bytes? other = if other = place then some bytes else t.bytes? other := by
  have hdir : (t.write place bytes).isDirectory other = t.isDirectory other := by
    rw [isDirectory_write fresh named]
    cases hbelow : isBelow place other with
    | false => rw [Bool.or_false]
    | true => rw [hdirs other hbelow, Bool.true_or]
  have hold : t.files.find? (·.1 = place) = none := by
    rw [List.find?_eq_none]
    intro entry hentry hsame
    exact fresh (List.mem_map.mpr ⟨entry, hentry, by simpa using hsame⟩)
  rw [bytes?, bytes?, hdir, files_write fresh named, List.find?_append]
  by_cases hother : other = place
  · rw [if_pos hother, hother, hplace, hold]
    simp
  · rw [if_neg hother]
    have hnew : ([(place, bytes)] : List (Components × List UInt8)).find? (·.1 = other) = none := by
      simp [Ne.symm hother]
    rw [hnew, Option.or_none]

end FileTree

namespace Host

/-- Every component but the last one of a path that leads somewhere is a directory. -/
theorem isDirectory_of_follow {t : FileTree} {top final : Components} {front back : List String}
    (hp : ".." ∉ front) (hback : back ≠ []) (h : follow t top (front ++ back) = .ok final) :
    t.isDirectory (top ++ front) = true := by
  rw [follow_append] at h
  cases hfront : follow t top front with
  | error fault => simp [hfront] at h
  | ok middle =>
    obtain rfl := follow_of_no_parent hp hfront
    obtain ⟨part, rest, rfl⟩ := List.exists_cons_of_ne_nil hback
    by_contra hdir
    simp only [hfront, follow, if_neg hdir] at h
    split at h <;> exact absurd h (by simp)

/-- The bytes at a place; none if no file is there. -/
def content (h : Host) (place : Components) : List UInt8 := (h.tree.bytes? place).getD []

variable {h h' : Host} {path : Path} {place : Components}

/-- What opening a log file does: nothing to a file that is there, else it makes one in a directory
that is there. -/
theorem openLog_cases (hopen : h.openLog path = .ok (h', place)) :
    (h' = h ∧ (h.tree.bytes? place).isSome = true) ∨
    (h' = { h with tree := h.tree.write place [] } ∧ h.tree.bytes? place = none ∧
      h.tree.isDirectory place = false ∧ place.all isEntryName = true ∧
      ∃ final, follow h.tree [] place = .ok final) := by
  rw [openLog] at hopen
  split at hopen
  · exact absurd hopen (by simp)
  · rename_i final hfollow
    by_cases hdir : h.tree.isDirectory (h.absolute path).parts = true
    · rw [if_pos hdir] at hopen
      exact absurd hopen (by simp)
    rw [if_neg hdir] at hopen
    split at hopen
    · rename_i bytes hbytes
      obtain ⟨rfl, rfl⟩ := Prod.mk.inj (Except.ok.inj hopen)
      exact .inl ⟨rfl, by rw [hbytes]; rfl⟩
    · rename_i hbytes
      split_ifs at hopen with hnamed
      obtain ⟨rfl, rfl⟩ := Prod.mk.inj (Except.ok.inj hopen)
      exact .inr ⟨rfl, hbytes, by simpa using hdir, hnamed, final, hfollow⟩

/-- A log file that opens is there afterwards, empty if it was not there before, and nothing else
changes. -/
theorem bytes?_openLog (hopen : h.openLog path = .ok (h', place)) (other : Components) :
    h'.tree.bytes? other =
      if other = place then some (h.content place) else h.tree.bytes? other := by
  rcases openLog_cases hopen with ⟨rfl, hsome⟩ | ⟨rfl, hnone, hdir, hnamed, final, hfollow⟩
  · obtain ⟨bytes, hbytes⟩ := Option.isSome_iff_exists.mp hsome
    by_cases hother : other = place
    · rw [if_pos hother, hother, content, hbytes, Option.getD_some]
    · rw [if_neg hother]
  · have fresh : place ∉ h.tree.files.map (·.1) := by
      intro hmem
      have hfile : h.tree.IsFile place := ⟨hmem, hdir⟩
      obtain ⟨bytes, hbytes⟩ := hfile.exists_bytes
      exact absurd (hnone.symm.trans hbytes) (by simp)
    have hdirs : ∀ top, FileTree.isBelow place top = true → h.tree.isDirectory top = true := by
      intro top hbelow
      obtain ⟨rel, hrel, rfl⟩ := FileTree.isBelow_iff.mp hbelow
      have hparent : ".." ∉ top := by
        intro hmem
        exact absurd (List.all_eq_true.mp hnamed ".." (List.mem_append_left rel hmem)) (by decide)
      simpa using isDirectory_of_follow hparent hrel hfollow
    rw [FileTree.bytes?_write_new fresh hnamed hdirs hdir, content, hnone, Option.getD_none]

/-- What is added to a file stands at its end, and nothing else changes. -/
theorem bytes?_append (file : h.tree.IsFile place) (bytes : List UInt8) (other : Components) :
    (h.append place bytes).tree.bytes? other =
      if other = place then some (h.content place ++ bytes) else h.tree.bytes? other := by
  by_cases hother : other = place
  · rw [if_pos hother, hother]
    exact FileTree.bytes?_write_self file _
  · rw [if_neg hother]
    exact FileTree.bytes?_write_of_ne file.1 _ hother

end Host

/-! ### Set-ups -/

namespace Log

/-- A set-up as it turned out. -/
structure InForce where
  setup : Setup
  /-- The log file that it opened. -/
  opened : Option Components
deriving DecidableEq, Inhabited

/-- How a set-up turns out on a machine. -/
def Setup.onto (setup : Setup) (host : Host) : InForce :=
  ⟨setup, setup.file.bind fun path => (host.openLog path).toOption.map (·.2)⟩

section

variable {setup : Setup} {host : Host}

theorem Setup.onto_of_no_file (hfile : setup.file = none) : setup.onto host = ⟨setup, none⟩ := by
  rw [onto, hfile, Option.bind_none]

theorem Setup.onto_of_opened {path : Path} {host' : Host} {place : Components}
    (hfile : setup.file = some path) (hopen : host.openLog path = .ok (host', place)) :
    setup.onto host = ⟨setup, some place⟩ := by
  rw [onto, hfile, Option.bind_some, hopen]
  rfl

theorem Setup.onto_of_fault {path : Path} {fault : FileFault} (hfile : setup.file = some path)
    (hopen : host.openLog path = .error fault) : setup.onto host = ⟨setup, none⟩ := by
  rw [onto, hfile, Option.bind_some, hopen]
  rfl

end

/-- One sink for the console, and one for the log file if it opened. -/
def InForce.sinks (f : InForce) : List Sink :=
  .console f.setup.consoleLevel :: (f.opened.map (.file .debug)).toList

theorem debug_le_consoleLevel (setup : Setup) : Level.debug ≤ setup.consoleLevel := by
  rw [Setup.consoleLevel]
  split_ifs <;> decide

namespace Session

/-- The sinks are those of a set-up, and no record that one of them takes is dropped. -/
structure Follows (s : Session) (f : InForce) : Prop where
  sinks : s.sinks = f.sinks
  console : s.threshold ≤ f.setup.consoleLevel
  file : f.opened.isSome = true → s.threshold = .debug

section

variable {s : Session} {setup : Setup}

theorem configure_of_no_file (hfile : setup.file = none) :
    s.configure setup = (⟨s.host, setup.consoleLevel, [.console setup.consoleLevel]⟩, none) := by
  simp [configure, addSink, hfile]

theorem configure_of_opened {path : Path} {host : Host} {place : Components}
    (hfile : setup.file = some path) (hopen : s.host.openLog path = .ok (host, place)) :
    s.configure setup =
      (⟨host, .debug, [.console setup.consoleLevel, .file .debug place]⟩, none) := by
  simp [configure, addSink, hfile, hopen]

theorem configure_of_fault {path : Path} {fault : FileFault} (hfile : setup.file = some path)
    (hopen : s.host.openLog path = .error fault) :
    s.configure setup = (⟨s.host, .debug, [.console setup.consoleLevel]⟩, some fault) := by
  simp [configure, addSink, hfile, hopen]

end

/-- **A set-up leaves its own sinks**, whatever was there before and whether or not its log file
opens. -/
theorem follows_configure (s : Session) (setup : Setup) :
    (s.configure setup).1.Follows (setup.onto s.host) := by
  cases hfile : setup.file with
  | none =>
    rw [configure_of_no_file hfile, Setup.onto_of_no_file hfile]
    exact ⟨rfl, Int.le_refl _, fun h => absurd h (by simp)⟩
  | some path =>
    cases hopen : s.host.openLog path with
    | error fault =>
      rw [configure_of_fault hfile hopen, Setup.onto_of_fault hfile hopen]
      exact ⟨rfl, debug_le_consoleLevel setup, fun _ => rfl⟩
    | ok opened =>
      rw [configure_of_opened hfile hopen, Setup.onto_of_opened hfile hopen]
      exact ⟨rfl, debug_le_consoleLevel setup, fun _ => rfl⟩

/-- A set-up changes no file but the log file that it opens. -/
theorem bytes?_configure (s : Session) (setup : Setup) (other : Components) :
    (s.configure setup).1.host.tree.bytes? other =
      if (setup.onto s.host).opened = some other then some (s.host.content other)
      else s.host.tree.bytes? other := by
  cases hfile : setup.file with
  | none => rw [configure_of_no_file hfile, Setup.onto_of_no_file hfile, if_neg (by simp)]
  | some path =>
    cases hopen : s.host.openLog path with
    | error fault =>
      rw [configure_of_fault hfile hopen, Setup.onto_of_fault hfile hopen, if_neg (by simp)]
    | ok opened =>
      rw [configure_of_opened hfile hopen, Setup.onto_of_opened hfile hopen,
        Host.bytes?_openLog hopen]
      by_cases hother : other = opened.2
      · rw [if_pos hother, if_pos (congrArg some hother.symm), hother]
      · rw [if_neg hother, if_neg fun h => hother (Option.some.inj h).symm]

/-! ### Records -/

theorem sinks_emit (s : Session) (stamp : String) (r : Record) :
    (s.emit stamp r).sinks = s.sinks := by
  rw [emit]
  split_ifs <;> rfl

theorem threshold_emit (s : Session) (stamp : String) (r : Record) :
    (s.emit stamp r).threshold = s.threshold := by
  rw [emit]
  split_ifs <;> rfl

namespace Follows

variable {s : Session} {f : InForce} (h : s.Follows f)

include h

/-- **The console shows a record once**, or not at all if its level is below that of the set-up. -/
theorem consoleText_eq (r : Record) :
    s.consoleText r = if f.setup.consoleLevel ≤ r.level then r.consoleLine else "" := by
  have hsinks : String.join (s.sinks.map (·.consoleText r)) =
      if f.setup.consoleLevel ≤ r.level then r.consoleLine else "" := by
    rw [h.sinks, InForce.sinks]
    cases f.opened <;> simp [Sink.consoleText]
  have hne : s.sinks.isEmpty = false := by rw [h.sinks]; rfl
  rw [consoleText, hne, hsinks]
  by_cases hr : f.setup.consoleLevel ≤ r.level
  · have hadmits : s.admits r = true := decide_eq_true (Int.le_trans h.console hr)
    simp [hadmits]
  · simp [hr]

theorem host_emit_of_none (hopened : f.opened = none) (stamp : String) (r : Record) :
    (s.emit stamp r).host = s.host := by
  rw [Session.emit, h.sinks, InForce.sinks, hopened]
  split_ifs <;> rfl

theorem host_emit_of_some {place : Components} (hopened : f.opened = some place) (stamp : String)
    (r : Record) :
    (s.emit stamp r).host =
      if Level.debug ≤ r.level then s.host.append place (Utf8.encode (r.fileLine stamp))
      else s.host := by
  have hadmits : s.admits r = decide (Level.debug ≤ r.level) := by
    rw [admits, h.file (by rw [hopened]; rfl)]
  rw [Session.emit, hadmits, h.sinks, InForce.sinks, hopened]
  by_cases hr : Level.debug ≤ r.level
  · rw [if_pos (decide_eq_true hr), if_pos hr]
    exact if_pos hr
  · rw [if_neg (by simpa using hr), if_neg hr]

/-- **The log file takes a record** from debug records on, and no other file changes. -/
theorem bytes?_emit (hfile : ∀ place, f.opened = some place → s.host.tree.IsFile place)
    (stamp : String) (r : Record) (other : Components) :
    (s.emit stamp r).host.tree.bytes? other =
      if f.opened = some other ∧ Level.debug ≤ r.level then
        some (s.host.content other ++ Utf8.encode (r.fileLine stamp))
      else s.host.tree.bytes? other := by
  cases hopened : f.opened with
  | none => rw [h.host_emit_of_none hopened, if_neg (by simp)]
  | some place =>
    rw [h.host_emit_of_some hopened]
    by_cases hr : Level.debug ≤ r.level
    · rw [if_pos hr, Host.bytes?_append (hfile place hopened)]
      by_cases hother : other = place
      · rw [if_pos hother, if_pos ⟨congrArg some hother.symm, hr⟩, hother]
      · rw [if_neg hother, if_neg fun hboth => hother (Option.some.inj hboth.1).symm]
    · rw [if_neg hr, if_neg fun hboth => hr hboth.2]

theorem emit (stamp : String) (r : Record) : (s.emit stamp r).Follows f where
  sinks := (s.sinks_emit stamp r).trans h.sinks
  console := (s.threshold_emit stamp r).symm ▸ h.console
  file hopened := (s.threshold_emit stamp r).trans (h.file hopened)

end Follows

end Session

/-! ### Runs -/

/-- What can happen to a log. -/
inductive Call where
  | configure (setup : Setup)
  /-- The stamp is the time of the record. -/
  | log (stamp : String) (record : Record)
deriving DecidableEq, Inhabited

namespace Call

def setup? : Call → Option Setup
  | configure setup => some setup
  | log _ _ => none

def logged? : Call → Option (String × Record)
  | configure _ => none
  | log stamp record => some (stamp, record)

end Call

/-- A record as it was logged, and the latest set-up at that time. -/
structure Entry where
  stamp : String
  record : Record
  /-- None before the first set-up. -/
  latest : Option InForce
deriving DecidableEq, Inhabited

namespace Entry

/-- The line of a record on the console, or nothing. -/
def onConsole (e : Entry) : String :=
  match e.latest with
  | some f => if f.setup.consoleLevel ≤ e.record.level then e.record.consoleLine else ""
  | none => Session.bareText e.record

/-- The record is one for a log file: a debug record or above, while the file was in use. -/
def goesTo (place : Components) (e : Entry) : Bool :=
  e.latest.bind (·.opened) = some place && Level.debug ≤ e.record.level

/-- The line of a record in a log file. -/
def fileBytes (e : Entry) : List UInt8 := Utf8.encode (e.record.fileLine e.stamp)

end Entry

/-- A run, and the history of its set-ups and records. -/
structure Run where
  session : Session
  /-- What the console showed. -/
  stderr : String
  /-- The set-ups, as they turned out. -/
  setups : List InForce
  entries : List Entry
deriving Inhabited

namespace Run

def start (host : Host) : Run := ⟨.start host, "", [], []⟩

def step (run : Run) : Call → Run
  | .configure setup =>
    { run with
      session := (run.session.configure setup).1
      setups := run.setups ++ [setup.onto run.session.host] }
  | .log stamp record =>
    { run with
      session := run.session.emit stamp record
      stderr := run.stderr ++ run.session.consoleText record
      entries := run.entries ++ [⟨stamp, record, run.setups.getLast?⟩] }

/-- The run of calls on a machine. -/
def after (host : Host) (calls : List Call) : Run := calls.foldl step (start host)

/-- What the records of a run have come to. -/
structure Delivers (host : Host) (run : Run) : Prop where
  unset : run.setups.getLast? = none → run.session.sinks = [] ∧ run.session.threshold = .warning
  follows : ∀ f, run.setups.getLast? = some f → run.session.Follows f
  stderr : run.stderr = String.join (run.entries.map (·.onConsole))
  content : ∀ place, run.session.host.content place =
    host.content place ++ (run.entries.filter (·.goesTo place)).flatMap (·.fileBytes)
  present : ∀ place, run.session.host.tree.IsFile place ↔
    host.tree.IsFile place ∨ ∃ f ∈ run.setups, f.opened = some place

theorem delivers_start (host : Host) : (start host).Delivers host where
  unset _ := ⟨rfl, rfl⟩
  follows f hf := by simp [start] at hf
  stderr := rfl
  content place := by simp [start, Session.start]
  present place := by simp [start, Session.start]

namespace Delivers

variable {host : Host} {run : Run} (h : run.Delivers host)

include h

/-- The log file in use is there. -/
theorem isFile {f : InForce} (hf : run.setups.getLast? = some f) {place : Components}
    (hopened : f.opened = some place) : run.session.host.tree.IsFile place :=
  (h.present place).mpr (.inr ⟨f, List.mem_of_getLast? hf, hopened⟩)

/-- The set-up step: the sinks are new, and no file has lost or gained a byte. -/
theorem configure (setup : Setup) : (run.step (.configure setup)).Delivers host where
  unset hnone := by simp [Run.step] at hnone
  follows f hf := by
    have hsame : f = setup.onto run.session.host := by simpa [Run.step] using hf.symm
    rw [hsame]
    exact run.session.follows_configure setup
  stderr := h.stderr
  content place := by
    have hsame : (run.session.configure setup).1.host.content place =
        run.session.host.content place := by
      rw [Host.content, run.session.bytes?_configure]
      split_ifs <;> rfl
    exact hsame.trans (h.content place)
  present place := by
    have hpresent := h.present place
    rw [FileTree.isFile_iff_isSome] at hpresent ⊢
    simp only [Run.step, run.session.bytes?_configure, List.mem_append, List.mem_singleton,
      or_and_right, exists_or, exists_eq_left]
    by_cases hopened : (setup.onto run.session.host).opened = some place
    · simp [hopened]
    · simp [hopened, hpresent]

/-- What the console shows of the next record. -/
theorem consoleText_eq (stamp : String) (record : Record) :
    run.session.consoleText record = Entry.onConsole ⟨stamp, record, run.setups.getLast?⟩ := by
  rw [Entry.onConsole]
  cases hlatest : run.setups.getLast? with
  | some f => exact (h.follows f hlatest).consoleText_eq record
  | none =>
    obtain ⟨hsinks, hthreshold⟩ := h.unset hlatest
    by_cases hr : Level.warning ≤ record.level
    · simp [Session.consoleText, Session.admits, hsinks, hthreshold, hr]
    · simp [Session.consoleText, Session.admits, hthreshold, hr, Session.bareText]

/-- What becomes of every file with the next record. -/
theorem bytes?_emit (stamp : String) (record : Record) (place : Components) :
    (run.session.emit stamp record).host.tree.bytes? place =
      let entry : Entry := ⟨stamp, record, run.setups.getLast?⟩
      if entry.goesTo place = true then some (run.session.host.content place ++ entry.fileBytes)
      else run.session.host.tree.bytes? place := by
  dsimp only
  cases hlatest : run.setups.getLast? with
  | some f =>
    rw [(h.follows f hlatest).bytes?_emit fun place => h.isFile hlatest]
    simp [Entry.goesTo, Entry.fileBytes]
  | none =>
    obtain ⟨hsinks, -⟩ := h.unset hlatest
    rw [if_neg (by simp [Entry.goesTo]), Session.emit, hsinks]
    split_ifs <;> rfl

/-- The record step: the console and the log file in use get its line. -/
theorem log (stamp : String) (record : Record) : (run.step (.log stamp record)).Delivers host where
  unset hnone := by
    obtain ⟨hsinks, hthreshold⟩ := h.unset hnone
    exact ⟨(run.session.sinks_emit stamp record).trans hsinks,
      (run.session.threshold_emit stamp record).trans hthreshold⟩
  follows f hf := (h.follows f hf).emit stamp record
  stderr := by
    simp only [Run.step, List.map_append, List.map_singleton, String.join_append, h.stderr,
      h.consoleText_eq stamp record]
    simp
  content place := by
    have hadded : (run.session.emit stamp record).host.content place =
        run.session.host.content place ++
          ([⟨stamp, record, run.setups.getLast?⟩].filter (Entry.goesTo place)).flatMap
            (·.fileBytes) := by
      rw [Host.content, h.bytes?_emit]
      by_cases hgoes : Entry.goesTo place ⟨stamp, record, run.setups.getLast?⟩ = true
      · simp [hgoes]
      · simp [hgoes, Host.content]
    rw [h.content place, List.append_assoc, ← List.flatMap_append, ← List.filter_append] at hadded
    exact hadded
  present place := by
    have hpresent := h.present place
    rw [FileTree.isFile_iff_isSome] at hpresent ⊢
    simp only [Run.step, h.bytes?_emit stamp record place]
    by_cases hgoes : Entry.goesTo place ⟨stamp, record, run.setups.getLast?⟩ = true
    · rw [if_pos hgoes]
      rw [Entry.goesTo, Bool.and_eq_true, decide_eq_true_eq, Option.bind_eq_some_iff] at hgoes
      obtain ⟨f, hf, hopened⟩ := hgoes.1
      exact ⟨fun _ => .inr ⟨f, List.mem_of_getLast? hf, hopened⟩, fun _ => rfl⟩
    · rw [if_neg hgoes]
      exact hpresent

theorem step (call : Call) : (run.step call).Delivers host := by
  cases call with
  | configure setup => exact h.configure setup
  | log stamp record => exact h.log stamp record

end Delivers

theorem delivers_after (host : Host) (calls : List Call) : (after host calls).Delivers host := by
  rw [after]
  exact List.foldlRecOn calls Run.step (delivers_start host) fun run h call _ => h.step call

/-- The history tells the calls: no set-up and no record is missing in it. -/
theorem history_after (host : Host) (calls : List Call) :
    (after host calls).setups.map (·.setup) = calls.filterMap (·.setup?) ∧
    (after host calls).entries.map (fun e => (e.stamp, e.record)) =
      calls.filterMap (·.logged?) := by
  rw [after]
  induction calls using List.reverseRecOn with
  | nil => exact ⟨rfl, rfl⟩
  | append_singleton calls call ih =>
    rw [List.foldl_concat, List.filterMap_append, List.filterMap_append, ← ih.1, ← ih.2]
    cases call with
    | configure setup => exact ⟨List.map_append, (List.append_nil _).symm⟩
    | log stamp record => exact ⟨(List.append_nil _).symm, List.map_append⟩

end Run

/-- **Every record reaches its sinks.**  After any run, the history has every set-up and every
record of the calls, each record with the latest set-up at its time.  Once there was a set-up, the
sinks are one for the console and, if the latest set-up opened a log file, one for that.  The
console has shown each record once if its level was that of the latest set-up or above, and not at
all otherwise.  Every file has its bytes from before and then, in order, the lines of the records
from debug records on that were logged while it was the log file in use.  A file is there only if it
was there before or was opened as a log file. -/
theorem records_delivered (host : Host) (calls : List Call) :
    let run := Run.after host calls
    (run.setups.map (·.setup) = calls.filterMap (·.setup?) ∧
      run.entries.map (fun e => (e.stamp, e.record)) = calls.filterMap (·.logged?)) ∧
    (∀ f, run.setups.getLast? = some f →
      run.session.sinks =
        .console f.setup.consoleLevel :: (f.opened.map (.file .debug)).toList) ∧
    run.stderr = String.join (run.entries.map (·.onConsole)) ∧
    (∀ place, run.session.host.content place =
      host.content place ++ (run.entries.filter (·.goesTo place)).flatMap (·.fileBytes)) ∧
    (∀ place, run.session.host.tree.IsFile place ↔
      host.tree.IsFile place ∨ ∃ f ∈ run.setups, f.opened = some place) := by
  have h := Run.delivers_after host calls
  exact ⟨Run.history_after host calls, fun f hf => (h.follows f hf).sinks, h.stderr, h.content,
    h.present⟩

/-- A machine with a log file that has a line. -/
def loggedHost : Host :=
  ⟨FileTree.empty.write ["a.log"] (Utf8.encode "old\n"), [], "/", []⟩

/-- A record before any set-up, then three set-ups with a record each: the second one is for a file
below the log file of the others, which does not open. -/
def reopeningCalls : List Call :=
  [.log "t0 " ⟨"", .warning, "early"⟩,
    .configure ⟨false, true, some (.ofString "a.log")⟩, .log "t1 " ⟨"loader", .debug, "one"⟩,
    .configure ⟨true, false, some (.ofString "a.log/b")⟩, .log "t2 " ⟨"", .debug, "two"⟩,
    .configure ⟨false, false, some (.ofString "./a.log")⟩, .log "t3 " ⟨"", .warning, "three"⟩]

/-- The first record goes to the file alone, the second to the console alone, the third to both. -/
theorem records_delivered_reopened :
    let run := Run.after loggedHost reopeningCalls
    run.setups.map (·.opened) = [some ["a.log"], none, some ["a.log"]] ∧
    run.session.sinks = [.console .info, .file .debug ["a.log"]] ∧
    run.stderr = "early\n[shimcheck] DEBUG two\n[shimcheck] WARNING three\n" ∧
    run.session.host.content ["a.log"] =
      Utf8.encode "old\nt1 DEBUG shimcheck.loader: one\nt3 WARNING shimcheck: three\n" := by
  obtain ⟨-, hsinks, hstderr, hcontent, -⟩ := records_delivered loggedHost reopeningCalls
  have hlatest : (Run.after loggedHost reopeningCalls).setups.getLast? =
      some ⟨⟨false, false, some (.ofString "./a.log")⟩, some ["a.log"]⟩ := by decide +kernel
  exact ⟨by decide +kernel, hsinks _ hlatest, hstderr.trans (by decide +kernel),
    (hcontent ["a.log"]).trans (by decide +kernel)⟩

end Log

end StubLayers
