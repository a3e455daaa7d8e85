import StubLayers.Cli.Run
import StubLayers.Proofs.LoggedChecks
import StubLayers.Service.Reply

/-!
# The command line and the service

A project is checked from the command line and over the service, and each of them puts what comes
of it in its own words.  This file says that the words agree.

* `Declined`, `Checked`, `Broken`: the three ways in which a request for a check can end.  One of
  them always holds (`declined_or_checked_or_broken`).
* `Report.text_eq`, `Report.summary_eq`: both texts of a report, written from the answer of the
  service.
* `runCheck_of_declined`, `runCheck_of_checked`, `runCheck_of_broken`: what a run prints and how it
  ends, and `checkReply` likewise.
* `front_ends_agree` joins the two.
-/

namespace StubLayers

/-! ### How a request for a check ends -/

/-- The check is declined with a message: by the configuration file, or for what stands against the
settings of the run. -/
inductive Declined (host : Host) (path : Path) (overrides : Overrides) : String → Prop
  | config {e : ConfigError} (loading : loadConfig host path = .error (.config e)) :
      Declined host path overrides e.message
  | precondition {config : CheckConfig} {e : PreconditionError}
      (loading : loadConfig host path = .ok config)
      (checking : check host (config.withOverrides overrides)
        (config.withOverrides overrides).layers = .error e) :
      Declined host path overrides e.message

/-- The check gives a report under a configuration. -/
inductive Checked (host : Host) (path : Path) (overrides : Overrides) :
    CheckConfig → Report → Prop
  | intro {config : CheckConfig} {report : Report} (loading : loadConfig host path = .ok config)
      (checking : check host (config.withOverrides overrides)
        (config.withOverrides overrides).layers = .ok report) :
      Checked host path overrides (config.withOverrides overrides) report

/-- There is no configuration, for a reason that the user is not told. -/
structure Broken (host : Host) (path : Path) (fault : ConfigFault) : Prop where
  loading : loadConfig host path = .error fault
  untold : ∀ e, fault ≠ .config e

theorem declined_or_checked_or_broken (host : Host) (path : Path) (overrides : Overrides) :
    (∃ message, Declined host path overrides message) ∨
    (∃ config report, Checked host path overrides config report) ∨
    ∃ fault, Broken host path fault := by
  cases hload : loadConfig host path with
  | error fault =>
    cases fault with
    | config e => exact .inl ⟨_, .config hload⟩
    | noHome | unreadable | value | longNumber => exact .inr (.inr ⟨_, hload, by simp⟩)
  | ok config =>
    cases hcheck : check host (config.withOverrides overrides)
        (config.withOverrides overrides).layers with
    | error e => exact .inl ⟨_, .precondition hload hcheck⟩
    | ok report => exact .inr (.inl ⟨_, _, .intro hload hcheck⟩)

section

variable {session : Log.Session} {path : Path} {overrides : Overrides}

theorem Declined.checkProject_eq {message : String}
    (h : Declined session.host path overrides message) (stamp : String) :
    checkProject stamp session path overrides = .error (.refused message) := by
  cases h with
  | config loading => simp [checkProject, projectConfig, loading]
  | precondition loading checking =>
    simp [checkProject, projectConfig, loading, checkLogged_of_refused checking]

theorem Checked.checkProject_eq {config : CheckConfig} {report : Report} {stamp : String}
    (h : Checked session.host path overrides config report)
    (unread : Check.Unread stamp session config.root config.layers) :
    checkProject stamp session path overrides =
      .ok (config, report, (Log.Transcript.start session).logAll stamp
        (Check.records session.host config config.layers)) := by
  cases h with
  | intro loading checking =>
    simp [checkProject, projectConfig, loading, checkLogged_of_check unread checking]

theorem Broken.checkProject_eq {fault : ConfigFault} (h : Broken session.host path fault)
    (stamp : String) :
    checkProject stamp session path overrides = .error (.broken fault) := by
  obtain ⟨loading, untold⟩ := h
  cases fault with
  | config e => exact absurd rfl (untold e)
  | noHome | unreadable | value | longNumber => simp [checkProject, projectConfig, loading]

end

/-! ### The log that arguments ask for -/

/-- How the arguments want the log. -/
def Cli.Arguments.setup (args : Cli.Arguments) : Log.Setup :=
  ⟨args.verbose, args.quiet, args.logFile.map Path.ofString⟩

/-- The machine that a run sees once its log file is open; none if it cannot be opened. -/
def Cli.Arguments.machine? (args : Cli.Arguments) (host : Host) : Option Host :=
  match args.logFile with
  | none => some host
  | some name =>
    match host.openLog (Path.ofString name) with
    | .ok (seen, _) => some seen
    | .error _ => none

theorem Cli.Arguments.configure_eq {args : Cli.Arguments} {host seen : Host}
    (h : args.machine? host = some seen) :
    ∃ session, (Log.Session.start host).configure args.setup = (session, none) ∧
      session.host = seen ∧ session.Follows (args.setup.onto host) ∧
      ∀ place, (args.setup.onto host).opened = some place → session.host.tree.IsFile place := by
  have hfollows := (Log.Session.start host).follows_configure args.setup
  rw [machine?] at h
  cases hfile : args.logFile with
  | none =>
    rw [hfile] at h
    have hsetup : args.setup.file = none := congrArg (Option.map Path.ofString) hfile
    have hconfigure := Log.Session.configure_of_no_file (s := Log.Session.start host) hsetup
    rw [hconfigure] at hfollows
    refine ⟨_, hconfigure, Option.some.inj h, hfollows, ?_⟩
    rw [Log.Setup.onto_of_no_file hsetup]
    exact fun _ hopened => absurd hopened (by simp)
  | some name =>
    rw [hfile] at h
    have hsetup : args.setup.file = some (Path.ofString name) :=
      congrArg (Option.map Path.ofString) hfile
    cases hopen : host.openLog (Path.ofString name) with
    | error fault => simp [hopen] at h
    | ok opened =>
      simp only [hopen, Option.some.injEq] at h
      have hconfigure :=
        Log.Session.configure_of_opened (s := Log.Session.start host) hsetup hopen
      rw [hconfigure] at hfollows
      refine ⟨_, hconfigure, h, hfollows, ?_⟩
      rw [Log.Setup.onto_of_opened hsetup hopen]
      intro place hplace
      obtain rfl := Option.some.inj hplace
      rw [FileTree.isFile_iff_isSome, Host.bytes?_openLog hopen, if_pos rfl]
      rfl

/-! ### The texts of a report -/

theorem intercalate_cons (sep text : String) (rest : List String) :
    sep.intercalate (text :: rest) = text ++ String.join (rest.map (sep ++ ·)) := by
  induction rest generalizing text with
  | nil => simp
  | cons next rest ih =>
    rw [String.intercalate_cons_cons, ih, List.map_cons, String.join_cons, String.append_assoc,
      String.append_assoc]

theorem intercalate_concat (sep last : String) (texts : List String) :
    sep.intercalate (texts ++ [last]) = String.join (texts.map (· ++ sep)) ++ last := by
  induction texts with
  | nil => simp
  | cons text rest ih =>
    rw [List.cons_append, String.intercalate_cons_of_ne_nil (by simp), ih, List.map_cons,
      String.join_cons, ← String.append_assoc]

/-- The block about a name: a line for the name and one for each location. -/
def entryText (entry : String × List String) : String :=
  "Duplicated declaration for " ++ entry.1 ++ ":" ++ String.join (entry.2.map ("\n * " ++ ·))

/-- The text about names with their locations: their blocks, each followed by an empty line, and the
hint at the end.  Without any name there is no text. -/
def entriesText (shimDir : String) (entries : List (String × List String)) : String :=
  if entries = [] then ""
  else
    String.join (entries.map (entryText · ++ "\n\n")) ++
      "Please remove the duplicated definitions from the " ++ shimDir ++ " directory.\n"

/-- The summary for a verdict and a number of names. -/
def Service.Verdict.summary (count : Nat) : Service.Verdict → String
  | .noShims => "No shim stubs to check\n"
  | .ok => "No duplicates found in shim stubs\n"
  | .duplicates =>
    "Found duplicated declarations for " ++ toString count ++
      (if count = 1 then " symbol\n" else " symbols\n")

namespace Report

theorem block_eq (basePrefix baseUrl : Option String) (entry : String × List Declaration) :
    block basePrefix baseUrl entry =
      entryText (entry.1, entry.2.map fun d => d.location.resolve basePrefix baseUrl) := by
  have hline : ∀ shown : String, "\n" ++ (" * " ++ shown) = "\n * " ++ shown := fun shown =>
    String.append_assoc.symm
  have hlines : (entry.2.map fun d => " * " ++ d.location.resolve basePrefix baseUrl).map
        ("\n" ++ ·) =
      (entry.2.map fun d => d.location.resolve basePrefix baseUrl).map ("\n * " ++ ·) := by
    rw [List.map_map, List.map_map]
    exact List.map_congr_left fun d _ => hline _
  unfold block entryText
  rw [intercalate_cons, hlines]

/-- **The text of a report is that of the service's entries.** -/
theorem text_eq (config : CheckConfig) (r : Report) (hdir : r.shimDir = config.shimDir) :
    r.text config.basePrefix config.base.url =
      entriesText config.shimDir (Service.answerOf config r).duplicates := by
  have hblocks : (r.duplicates.map (block config.basePrefix config.base.url)).map (· ++ "\n\n") =
      (Service.answerOf config r).duplicates.map (entryText · ++ "\n\n") := by
    unfold Service.answerOf
    rw [List.map_map, List.map_map]
    exact List.map_congr_left fun entry _ => congrArg (· ++ "\n\n") (block_eq _ _ entry)
  have hhint : hint config.shimDir ++ "\n" =
      "Please remove the duplicated definitions from the " ++ config.shimDir ++ " directory.\n" :=
    String.append_assoc
  -- the last block is the hint, after which the text goes on with its line end
  unfold text entriesText
  by_cases hnone : r.duplicates = []
  · rw [if_pos (by simp [hnone]), if_pos (by simp [Service.answerOf, hnone])]
  · rw [if_neg (by simpa using hnone), if_neg (by simpa [Service.answerOf] using hnone),
      intercalate_concat, hblocks, hdir, String.append_assoc, hhint, ← String.append_assoc,
      ← String.append_assoc]

/-- **So is its summary.** -/
theorem summary_eq (config : CheckConfig) (r : Report) :
    r.summary = (Service.answerOf config r).verdict.summary
      (Service.answerOf config r).duplicates.length := by
  unfold summary Service.answerOf Service.verdict hasDuplicates
  simp only [List.length_map]
  cases r.shimsChecked with
  | false => rfl
  | true =>
    cases r.duplicates.isEmpty with
    | true => rfl
    | false => rfl

end Report

/-! ### What a report can be -/

section

variable {host : Host} {config : CheckConfig} {layers : List Layer} {r : Report}

theorem shimDir_of_check (h : check host config layers = .ok r) : r.shimDir = config.shimDir := by
  rw [(accepted_of_check h).2, Check.report]
  split_ifs <;> rfl

/-- Without shims there are no duplicates. -/
theorem duplicates_of_unchecked (h : check host config layers = .ok r)
    (hunchecked : r.shimsChecked = false) : r.duplicates = [] := by
  rw [(accepted_of_check h).2, Check.report] at hunchecked ⊢
  split_ifs at hunchecked ⊢ with hsome
  · exact absurd hunchecked (by simp [Check.reportOf])
  · rfl

theorem exitCode_eq_one_iff_label (h : check host config layers = .ok r) :
    r.exitCode = 1 ↔ (Service.verdict r).label = "duplicates" := by
  rw [r.exitCode_eq_one_iff, Service.verdict]
  cases hchecked : r.shimsChecked with
  | false => simp [duplicates_of_unchecked h hchecked, Service.Verdict.label]
  | true =>
    by_cases hnone : r.duplicates = []
    · simp [hnone, Report.hasDuplicates, Service.Verdict.label]
    · simp [hnone, Report.hasDuplicates, Service.Verdict.label]

end

/-! ### Both front ends -/

/-- A run of the program tells what an answer of the service tells: its exit code; after the log on
the console, the text of its entries with the hint for a shim directory; and its summary. -/
structure Cli.Outcome.Tells (outcome : Cli.Outcome) (logged shimDir : String)
    (answer : Service.CheckAnswer) : Prop where
  ending : outcome.ending = .exit answer.exitCode
  stderr : outcome.stderr = logged ++ entriesText shimDir answer.duplicates
  stdout : outcome.stdout = answer.verdict.summary answer.duplicates.length

theorem Cli.run_eq (stamp : String) {host seen : Host} {argv : List String}
    {arguments : Cli.Arguments} (typed : Cli.readArguments argv = .ok arguments)
    (logging : arguments.machine? host = some seen) :
    ∃ session, Cli.run stamp host argv = Cli.runCheck stamp session
        (Path.ofString arguments.path) arguments.overrides ∧
      session.host = seen ∧ session.Follows (arguments.setup.onto host) ∧
      ∀ place, (arguments.setup.onto host).opened = some place →
        session.host.tree.IsFile place := by
  obtain ⟨session, hconfigure, hlogging⟩ := Cli.Arguments.configure_eq logging
  refine ⟨session, ?_, hlogging⟩
  have hsetup : (Log.Session.start host).configure
      ⟨arguments.verbose, arguments.quiet, arguments.logFile.map Path.ofString⟩ =
        (session, none) := hconfigure
  simp only [Cli.run, typed, Cli.runArguments, hsetup]

theorem Service.reply_eq (host : Host) {body : String} {payload : Service.Payload}
    (sent : Service.readPayload body = .ok payload) :
    Service.reply host ⟨"POST", "/check", body⟩ = Service.checkReply host payload := by
  have haddress : Service.address? "/check" = some .check := by decide
  have hmethod : "POST".toUpper = "POST" := by
    rw [← String.toList_inj, String.toUpper, String.toList_map]
    decide
  simp only [Service.reply, Service.fullReply, haddress, hmethod, Service.payloadReply, sent]
  rfl

section

variable {session : Log.Session} {path : Path} {overrides : Overrides}

theorem runCheck_of_declined {message : String}
    (h : Declined session.host path overrides message) (stamp : String) :
    Cli.runCheck stamp session path overrides =
      ⟨"", "shimcheck: " ++ message ++ "\n", .exit 2, session.host⟩ := by
  unfold Cli.runCheck
  rw [h.checkProject_eq]
  rfl

theorem checkReply_of_declined {host : Host} {p : Service.Payload} {message : String}
    (h : Declined host (Path.ofString p.path) p.overrides message) :
    Service.checkReply host p = ⟨400, .detail message⟩ := by
  have hdeclined : Declined (Log.Session.start host).host (Path.ofString p.path) p.overrides
      message := h
  rw [Service.checkReply, hdeclined.checkProject_eq]

theorem runCheck_of_broken {fault : ConfigFault} (h : Broken session.host path fault)
    (stamp : String) :
    Cli.runCheck stamp session path overrides =
      ⟨"", "", .crash (.config fault), session.host⟩ := by
  unfold Cli.runCheck
  rw [h.checkProject_eq]

theorem checkReply_of_broken {host : Host} {p : Service.Payload} {fault : ConfigFault}
    (h : Broken host (Path.ofString p.path) fault) :
    Service.checkReply host p = ⟨500, .plain "Internal Server Error"⟩ := by
  have hbroken : Broken (Log.Session.start host).host (Path.ofString p.path) fault := h
  rw [Service.checkReply, hbroken.checkProject_eq]

theorem runCheck_of_checked {config : CheckConfig} {report : Report} {stamp : String}
    (h : Checked session.host path overrides config report)
    (unread : Check.Unread stamp session config.root config.layers) {f : Log.InForce}
    (hfollows : session.Follows f) :
    (Cli.runCheck stamp session path overrides).Tells
      (Log.shown f.setup.consoleLevel (Check.records session.host config config.layers))
      config.shimDir (Service.answerOf config report) := by
  have hstart : (Log.Transcript.start session).session.Follows f := hfollows
  have hlogged := hstart.shown_logAll stamp (Check.records session.host config config.layers)
  have hdir : report.shimDir = config.shimDir := by
    cases h with
    | intro _ checking => exact shimDir_of_check checking
  unfold Cli.runCheck
  rw [h.checkProject_eq unread]
  refine ⟨rfl, ?_, report.summary_eq config⟩
  dsimp only
  rw [hlogged, ← report.text_eq config hdir]
  exact congrArg (· ++ _) (String.empty_append)

theorem checkReply_of_checked {host : Host} {p : Service.Payload} {config : CheckConfig}
    {report : Report} (h : Checked host (Path.ofString p.path) p.overrides config report) :
    Service.checkReply host p = ⟨200, .checked (Service.answerOf config report)⟩ := by
  have unread := Check.unread_start "" host config.root config.layers
  have hchecked : Checked (Log.Session.start host).host (Path.ofString p.path) p.overrides config
      report := h
  rw [Service.checkReply, hchecked.checkProject_eq unread]

end

/-- **The command line and the service agree.**  Arguments and a body ask for the same check of a
project.  If the check is declined with a message, the run exits with 2 and writes the message, and
the reply is a refusal with the same message.  If the check gives a report, the run tells what the
reply tells, unless its log file is a stub file that it reads while it writes it; and the status,
the exit code and the list of names say alike whether there are duplicates.  If there is no
configuration for another reason, both break off. -/
theorem front_ends_agree (stamp : String) (host seen : Host) (argv : List String) (body : String)
    (arguments : Cli.Arguments) (typed : Cli.readArguments argv = .ok arguments)
    (sent : Service.readPayload body = .ok ⟨arguments.path, arguments.overrides⟩)
    (logging : arguments.machine? host = some seen) :
    let outcome := Cli.run stamp host argv
    let reply := Service.reply seen ⟨"POST", "/check", body⟩
    let path := Path.ofString arguments.path
    (∀ message, Declined seen path arguments.overrides message →
      outcome.ending = .exit 2 ∧ outcome.stdout = "" ∧
      outcome.stderr = "shimcheck: " ++ message ++ "\n" ∧ reply = ⟨400, .detail message⟩) ∧
    (∀ config report, Checked seen path arguments.overrides config report →
      ∃ answer, reply = ⟨200, .checked answer⟩ ∧
        (Check.Aside (arguments.setup.onto host) seen config.root config.layers →
          outcome.Tells
            (Log.shown arguments.setup.consoleLevel (Check.records seen config config.layers))
            config.shimDir answer) ∧
        (answer.exitCode = 1 ↔ answer.verdict.label = "duplicates") ∧
        (answer.exitCode = 1 ↔ answer.duplicates ≠ []) ∧
        answer.duplicates.map (·.1) = report.duplicates.map (·.1) ∧
        answer.warnings = report.warnings) ∧
    (∀ fault, Broken seen path fault →
      outcome.ending = .crash (.config fault) ∧ outcome.stdout = "" ∧ outcome.stderr = "" ∧
      reply = ⟨500, .plain "Internal Server Error"⟩) ∧
    ((∃ message, Declined seen path arguments.overrides message) ∨
      (∃ config report, Checked seen path arguments.overrides config report) ∨
      ∃ fault, Broken seen path fault) := by
  obtain ⟨session, hrun, rfl, hfollows, hfile⟩ := Cli.run_eq stamp typed logging
  dsimp only
  rw [hrun, Service.reply_eq session.host sent]
  refine ⟨fun message h => ?_, fun config report h => ?_, fun fault h => ?_,
    declined_or_checked_or_broken session.host _ _⟩
  · rw [runCheck_of_declined h, checkReply_of_declined h]
    exact ⟨rfl, rfl, rfl, rfl⟩
  · refine ⟨_, checkReply_of_checked h, fun aside => ?_, ?_, ?_, ?_, rfl⟩
    · exact runCheck_of_checked h (Check.unread_of_aside hfollows hfile aside stamp) hfollows
    · cases h with
      | intro _ checking => exact exitCode_eq_one_iff_label checking
    · rw [Service.answerOf, ne_eq, List.map_eq_nil_iff]
      exact report.exitCode_eq_one_iff
    · rw [Service.answerOf, List.map_map]
      rfl
  · rw [runCheck_of_broken h, checkReply_of_broken h]
    exact ⟨rfl, rfl, rfl, rfl⟩

/-- The sample asked for on the command line, with a log file beside its layers. -/
def sampleArguments : List String :=
  ["-q", "--log-file", "/p/check.log", "check", "--shim-dir", "shims", "--generated-dir=made",
   "--generated-dir", "more", "/p"]

/-- The sample asked for by a request. -/
def sampleBody : String :=
  "\x7b\"path\": \"/p\", \"shim_dir\": \"shims\", \"generated_dirs\": [\"made\", \"more\"]\x7d"

def sampleOverrides : Overrides :=
  { shimDir := some "shims", generatedDirs := some ["made", "more"] }

/-- The machine of the sample once the log file is open. -/
def loggedHost : Host :=
  { sampleHost with tree := sampleHost.tree.write ["p", "check.log"] [] }

theorem checked_sample :
    Checked loggedHost ⟨.slash, ["p"]⟩ sampleOverrides sampleConfig
      (Check.report loggedHost sampleConfig sampleConfig.layers) := by
  have loading : loadConfig loggedHost ⟨.slash, ["p"]⟩ =
      .ok (CheckConfig.default ⟨.slash, ["p"]⟩) := by decide +kernel
  exact .intro loading (check_of_accepted loggedHost sampleConfig.layers (by decide))

theorem aside_sample :
    Check.Aside ⟨⟨false, true, some (Path.ofString "/p/check.log")⟩, some ["p", "check.log"]⟩
      loggedHost sampleConfig.root sampleConfig.layers := by
  intro place hplace
  obtain rfl := Option.some.inj hplace
  decide +kernel

/-- The sample has one duplicate and one file that cannot be read as a stub. -/
theorem front_ends_agree_sample :
    Cli.readArguments sampleArguments =
      .ok ⟨false, true, some "/p/check.log", "/p", sampleOverrides⟩ ∧
    Service.readPayload sampleBody = .ok ⟨"/p", sampleOverrides⟩ ∧
    ∃ answer, Service.reply loggedHost ⟨"POST", "/check", sampleBody⟩ = ⟨200, .checked answer⟩ ∧
      answer.duplicates.map (·.1) = ["a#x"] ∧
      answer.warnings.map (·.place.file) = ["more/b.pyi"] ∧
      (Cli.run "" sampleHost sampleArguments).ending = .exit 1 ∧
      (Cli.run "" sampleHost sampleArguments).stdout =
        "Found duplicated declarations for 1 symbol\n" ∧
      (Cli.run "" sampleHost sampleArguments).stderr =
        Log.shown .warning (Check.records loggedHost sampleConfig sampleConfig.layers) ++
          entriesText "shims" answer.duplicates := by
  have typed : Cli.readArguments sampleArguments =
      .ok ⟨false, true, some "/p/check.log", "/p", sampleOverrides⟩ := by decide +kernel
  have sent : Service.readPayload sampleBody = .ok ⟨"/p", sampleOverrides⟩ := by decide +kernel
  have hopen : sampleHost.openLog (Path.ofString "/p/check.log") =
      .ok (loggedHost, ["p", "check.log"]) := rfl
  obtain ⟨-, hchecked, -, -⟩ := front_ends_agree "" sampleHost loggedHost sampleArguments sampleBody
    _ typed sent (by simp only [Cli.Arguments.machine?, hopen])
  obtain ⟨answer, hreply, haside, hlabel, hentries, hnames, hwarnings⟩ :=
    hchecked _ _ checked_sample
  have htells := haside (by
    rw [Log.Setup.onto_of_opened rfl hopen]
    exact aside_sample)
  have hkeys : answer.duplicates.map (·.1) = ["a#x"] := by
    rw [hnames]
    decide +kernel
  have hfiles : answer.warnings.map (·.place.file) = ["more/b.pyi"] := by
    rw [hwarnings]
    decide +kernel
  have hexit : answer.exitCode = 1 := hentries.mpr fun hnil => by simp [hnil] at hkeys
  have hverdict : answer.verdict = .duplicates := by
    have hduplicates := hlabel.mp hexit
    cases hv : answer.verdict with
    | duplicates => rfl
    | noShims | ok => exact absurd hduplicates (by rw [hv]; decide)
  have hcount : answer.duplicates.length = 1 := by simpa using congrArg List.length hkeys
  refine ⟨typed, sent, answer, hreply, hkeys, hfiles, ?_, ?_, htells.stderr⟩
  · rw [htells.ending, hexit]
  · rw [htells.stdout, hverdict, hcount]
    decide

-- A log file that is the shim itself: the first record makes it unreadable as a stub, so the run
-- finds no duplicate where a check without the log does.
example :
    (Cli.run "" sampleHost ["-q", "--log-file", "/p/shims/a.pyi", "check", "--shim-dir", "shims",
      "--generated-dir=made", "--generated-dir", "more", "/p"]).ending = .exit 0 ∧
    (Check.report sampleHost sampleConfig sampleConfig.layers).exitCode = 1 := by
  decide +kernel

end StubLayers
