import StubLayers.Proofs.LogRuns

/-!
# Checks that keep a log

A check logs while it reads its layers, and its log file may be any file of the machine, a stub file
too.  This file says when the log has no part in what the check reads.

* `Host.ReadsAs`: a machine on which all files but one are read as on another.  Adding to that one
  file keeps it so (`ReadsAs.append`).
* `Session.Follows.readsAs_logAll`: a log file is the only file that a log changes.
* `Check.Aside`: the log file is no stub file of the layers.  Then the layers are read as before
  (`Check.unread_of_aside`).
* `Log.shown`: what the console shows of records (`Session.Follows.shown_logAll`).
-/

namespace StubLayers

/-! ### Machines that differ in one file -/

/-- All files but the one at `place` are read alike. -/
structure Host.ReadsAs (place : Components) (host seen : Host) : Prop where
  file : seen.tree.IsFile place
  locate_eq : ∀ path, seen.locate path = host.locate path
  stubs_eq : ∀ dir, findStubFiles seen dir = findStubFiles host dir
  loadFile_eq : ∀ dir base path, host.locate path ≠ .ok place →
    loadFile seen dir base path = loadFile host dir base path

namespace Host

variable {place : Components} {host seen : Host}

theorem readsAs_refl (file : host.tree.IsFile place) : ReadsAs place host host :=
  ⟨file, fun _ => rfl, fun _ => rfl, fun _ _ _ _ => rfl⟩

/-- What is added to the file is not seen elsewhere. -/
theorem ReadsAs.append (h : ReadsAs place host seen) (bytes : List UInt8) :
    ReadsAs place host (seen.append place bytes) := by
  have happend : seen.append place bytes =
      seen.overwrite place ((seen.tree.bytes? place).getD [] ++ bytes) := rfl
  rw [happend]
  refine ⟨?_, fun path => ?_, fun dir => ?_, fun dir base path hpath => ?_⟩
  · rw [(sameShape_overwrite h.file _).isFile_iff]
    exact h.file
  · rw [locate_overwrite h.file, h.locate_eq]
  · rw [findStubFiles_overwrite h.file, h.stubs_eq]
  · have hother : seen.locate path ≠ .ok place := h.locate_eq path ▸ hpath
    rw [loadFile_overwrite h.file _ dir base hother, h.loadFile_eq dir base path hpath]

/-- A directory is read alike if none of its stub files is the one that differs. -/
theorem ReadsAs.loadDirectory_eq (h : ReadsAs place host seen) {dir : Path} (base : Option Path)
    (haside : ∀ path ∈ findStubFiles host dir, host.locate path ≠ .ok place) :
    loadDirectory seen dir base = loadDirectory host dir base := by
  have houtcomes : (findStubFiles host dir).map (loadFile seen dir base) =
      (findStubFiles host dir).map (loadFile host dir base) :=
    List.map_congr_left fun path hpath => h.loadFile_eq dir base path (haside path hpath)
  rw [loadDirectory, h.stubs_eq, houtcomes, loadDirectory]

end Host

/-! ### What a log does -/

namespace Log

/-- The records from a level on, each on its line. -/
def shown (level : Level) (rs : List Record) : String :=
  String.join ((rs.filter (level ≤ ·.level)).map (·.consoleLine))

variable {t : Transcript} {f : InForce}

/-- **The console shows the records from its level on.** -/
theorem Session.Follows.shown_logAll (h : t.session.Follows f) (stamp : String)
    (rs : List Record) :
    (t.logAll stamp rs).shown = t.shown ++ Log.shown f.setup.consoleLevel rs := by
  induction rs generalizing t with
  | nil => simp [Transcript.logAll, Log.shown]
  | cons r rest ih =>
    have hnext : (t.log stamp r).session.Follows f := h.emit stamp r
    have hlog : (t.log stamp r).shown = t.shown ++ t.session.consoleText r := rfl
    show ((t.log stamp r).logAll stamp rest).shown = _
    rw [ih hnext, hlog, h.consoleText_eq]
    by_cases hr : f.setup.consoleLevel ≤ r.level <;> simp [Log.shown, hr, String.append_assoc]

/-- Without a log file the machine stays as it is. -/
theorem Session.Follows.host_logAll (h : t.session.Follows f) (hopened : f.opened = none)
    (stamp : String) (rs : List Record) :
    (t.logAll stamp rs).session.host = t.session.host := by
  induction rs generalizing t with
  | nil => rfl
  | cons r rest ih =>
    show ((t.log stamp r).logAll stamp rest).session.host = _
    rw [ih (h.emit stamp r)]
    exact h.host_emit_of_none hopened stamp r

/-- **A log changes its own file only.** -/
theorem Session.Follows.readsAs_logAll (h : t.session.Follows f) {place : Components}
    (hopened : f.opened = some place) {host : Host} (hreads : host.ReadsAs place t.session.host)
    (stamp : String) (rs : List Record) :
    host.ReadsAs place (t.logAll stamp rs).session.host := by
  induction rs generalizing t with
  | nil => exact hreads
  | cons r rest ih =>
    have hnext : host.ReadsAs place (t.log stamp r).session.host := by
      show host.ReadsAs place (t.session.emit stamp r).host
      rw [h.host_emit_of_some hopened]
      by_cases hr : Level.debug ≤ r.level
      · rw [if_pos hr]
        exact hreads.append _
      · rw [if_neg hr]
        exact hreads
    exact ih (t := t.log stamp r) (h.emit stamp r) hnext

end Log

namespace Check

/-- The log file that was opened is none of the stub files of the layers. -/
def Aside (f : Log.InForce) (host : Host) (root : Path) (layers : List Layer) : Prop :=
  ∀ place, f.opened = some place → ∀ layer ∈ layers,
    ∀ path ∈ findStubFiles host (layerPath root layer.dir), host.locate path ≠ .ok place

/-- **A log that is kept aside is not read.** -/
theorem unread_of_aside {session : Log.Session} {f : Log.InForce} (h : session.Follows f)
    (hfile : ∀ place, f.opened = some place → session.host.tree.IsFile place) {root : Path}
    {layers : List Layer} (aside : Aside f session.host root layers) (stamp : String) :
    Unread stamp session root layers := by
  intro rs layer hlayer
  have hstart : (Log.Transcript.start session).session.Follows f := h
  cases hopened : f.opened with
  | none =>
    rw [hstart.host_logAll hopened]
    rfl
  | some place =>
    have hreads := hstart.readsAs_logAll hopened (Host.readsAs_refl (hfile place hopened)) stamp rs
    exact hreads.loadDirectory_eq (some root) (aside place hopened layer hlayer)

end Check

/-- A check that does not read its log reports what it reports without one. -/
theorem checkLogged_of_check {stamp : String} {session : Log.Session} {config : CheckConfig}
    {layers : List Layer} {report : Report}
    (unread : Check.Unread stamp session config.root layers)
    (checking : check session.host config layers = .ok report) :
    checkLogged stamp session config layers =
      .ok (report, (Log.Transcript.start session).logAll stamp
        (Check.records session.host config layers)) := by
  obtain ⟨accepted, rfl⟩ := accepted_of_check checking
  rw [checkLogged, accepted]
  exact congrArg Except.ok (Check.run_of_unread unread)

/-- What stands against a check does not depend on its log. -/
theorem checkLogged_of_refused {stamp : String} {session : Log.Session} {config : CheckConfig}
    {layers : List Layer} {e : PreconditionError}
    (checking : check session.host config layers = .error e) :
    checkLogged stamp session config layers = .error e := by
  cases hobstacle : config.obstacle? with
  | some obstacle =>
    rw [check, checkLogged, hobstacle] at checking
    rw [checkLogged, hobstacle]
    exact congrArg Except.error (Except.error.inj checking)
  | none =>
    rw [check_of_accepted session.host layers hobstacle] at checking
    exact absurd checking (by simp)

end StubLayers
