import ApiDocs.CommandLine.Run
import ApiDocs.Proofs.CommandLine.Arguments
import ApiDocs.Proofs.Document.Accounting
import ApiDocs.Proofs.FileTree
import Mathlib.Data.List.ReduceOption
import Mathlib.Logic.ExistsUnique

/-!
# How runs end

A run that starts ends in one of three ways, told apart by its exit code. It fails with a line on
the failure, or reports a record that is not valid, and then every file is as it was. Or all it
reports is valid, and then at most the file that was asked for is different.
-/

namespace ApiDocs

namespace Config

/-- The first text that is more than white space, without the white space at its ends. -/
def firstVisible (texts : List String) : Option String :=
  (texts.map trimmed).find? (· ≠ "")

theorem firstVisible_reduceOption (candidates : List (Option String)) :
    firstVisible candidates.reduceOption =
      candidates.findSome? fun candidate => candidate.bind visible? := by
  induction candidates with
  | nil => rfl
  | cons candidate rest ih =>
    cases candidate with
    | none => exact ih
    | some text =>
      rw [List.findSome?_cons, Option.bind_some, visible?, ← ih, List.reduceOption_cons_of_some,
        firstVisible, List.map_cons, List.find?_cons]
      by_cases ht : trimmed text = ""
      · simp [ht, firstVisible]
      · simp [ht]

theorem LintSettings.resolveVersion_eq (settings : LintSettings) (flag : Option String)
    (environment : Environment) :
    settings.resolveVersion flag environment =
      firstVisible
        [flag, settings.version, environment.get? packageVersionVariable].reduceOption :=
  (firstVisible_reduceOption _).symm

end Config

/-- A name with the errors found under it. -/
structure Verdict where
  name : String
  errors : List String

def Verdict.report (verdict : Verdict) : String :=
  ApiDocs.report verdict.name verdict.errors

theorem Verdict.report_eq_of_nil {verdict : Verdict} (h : verdict.errors = []) :
    verdict.report = "✓ " ++ verdict.name := by
  rw [report, h]
  rfl

/-- With errors a report starts with a cross and the name. -/
theorem Verdict.exists_report_eq {verdict : Verdict} (h : verdict.errors ≠ []) :
    ∃ rest, verdict.report = "✘ " ++ verdict.name ++ rest := by
  refine ⟨String.join (verdict.errors.map ("\n  - " ++ ·)), ?_⟩
  rw [report, ApiDocs.report, if_neg (by simpa using h), failedLines, String.join_cons]

theorem Verdict.exists_crossed {verdicts : List Verdict}
    (h : ¬∀ verdict ∈ verdicts, verdict.errors = []) :
    ∃ verdict ∈ verdicts, ∃ rest, verdict.report = "✘ " ++ verdict.name ++ rest := by
  push Not at h
  obtain ⟨verdict, hm, he⟩ := h
  exact ⟨verdict, hm, exists_report_eq he⟩

def LintedApi.verdict (linted : LintedApi) : Verdict :=
  ⟨linted.api.name, linted.errors⟩

def LocalizedCheck.verdict (check : LocalizedCheck) : Verdict :=
  ⟨check.canonical, check.errors⟩

theorem LintedApi.all_valid {records : List LintedApi} :
    records.all LintedApi.valid ↔
      ∀ verdict ∈ records.map LintedApi.verdict, verdict.errors = [] := by
  simp only [List.all_eq_true, List.forall_mem_map, valid, verdict, List.isEmpty_iff]

theorem LocalizedCheck.all_valid {checks : List LocalizedCheck} :
    checks.all LocalizedCheck.valid ↔
      ∀ verdict ∈ checks.map LocalizedCheck.verdict, verdict.errors = [] := by
  simp only [List.all_eq_true, List.forall_mem_map, valid, verdict, List.isEmpty_iff]

/-- Every record has the version that was asked for. -/
theorem version_of_mem_lint {docs : List SourceDoc} {options : LintOptions} {validator : Validator}
    {record : LintedApi} (h : record ∈ lint docs options validator) :
    record.api.version = options.version := by
  obtain ⟨doc, -, h⟩ := List.mem_flatMap.mp h
  obtain ⟨surface, -, rfl⟩ := List.mem_map.mp h
  exact congrArg Draft.version (Draft.ofSurface_eq options.version surface)

namespace CommandLine

open Config (firstVisible packageVersionVariable)

variable {w : Workspace} {arguments : Arguments}

/-- What a run that lints works on. -/
structure LintJob (w : Workspace) (arguments : Arguments) where
  settings : Config.Settings
  aliases : Aliases
  urls : UrlTemplates
  docs : List SourceDoc
  load_eq : Config.load w.withEnvironmentFile arguments.config = .ok settings
  table_eq : settings.slugs.table = .ok aliases
  urls_eq : settings.lint.urls = .ok urls
  documents_eq : documents w.root (docsFolder w arguments.path) = .ok docs

/-- What a run that checks localized documents works on. -/
structure LocalizedJob (w : Workspace) (arguments : Arguments) where
  infile : String
  settings : Config.Settings
  text : String
  baseline : List ApiSummary
  aliases : Aliases
  docs : List SourceDoc
  infile_eq : arguments.infile = some infile
  load_eq : Config.load w.withEnvironmentFile arguments.config = .ok settings
  readText_eq : w.readText infile = .ok text
  baseline_eq : readBaseline text = .ok baseline
  table_eq : settings.slugs.table = .ok aliases
  documents_eq : documents w.root (w.locate arguments.path) = .ok docs

/-- The version that the arguments, the settings and the package give. -/
def givenVersion? (w : Workspace) (arguments : Arguments) (settings : Config.Settings) :
    Option String :=
  firstVisible
    [arguments.version, settings.lint.version,
      w.withEnvironmentFile.environment.get? packageVersionVariable].reduceOption

namespace LintJob

def records (job : LintJob w arguments) : List LintedApi :=
  lint job.docs
    ⟨(givenVersion? w arguments job.settings).getD defaultVersion, job.aliases, job.urls⟩ .api

def outcome (job : LintJob w arguments) : Outcome :=
  if job.records.all LintedApi.valid then lintedOutcome w arguments job.records
  else ⟨.invalid, "", lines (job.records.map LintedApi.report), none⟩

end LintJob

namespace LocalizedJob

def checks (job : LocalizedJob w arguments) : List LocalizedCheck :=
  checkLocalized job.docs job.baseline job.aliases

def outcome (job : LocalizedJob w arguments) : Outcome :=
  ⟨if job.checks.all LocalizedCheck.valid then .clean else .invalid, "",
    lines (job.checks.map LocalizedCheck.report), none⟩

end LocalizedJob

/-- The environment file sets variables and nothing else. -/
theorem exists_environment (w : Workspace) :
    ∃ environment, w.withEnvironmentFile = { w with environment } := by
  rw [Workspace.withEnvironmentFile]
  split
  · exact ⟨_, rfl⟩
  · split
    · exact ⟨_, rfl⟩
    · exact ⟨_, rfl⟩

@[simp]
theorem docsFolder_withEnvironmentFile (w : Workspace) (path : String) :
    docsFolder w.withEnvironmentFile path = docsFolder w path := by
  obtain ⟨environment, he⟩ := exists_environment w
  rw [he]
  rfl

@[simp]
theorem lintedOutcome_withEnvironmentFile (w : Workspace) (arguments : Arguments)
    (linted : List LintedApi) :
    lintedOutcome w.withEnvironmentFile arguments linted = lintedOutcome w arguments linted := by
  obtain ⟨environment, he⟩ := exists_environment w
  rw [he]
  rfl

@[simp]
theorem root_withEnvironmentFile (w : Workspace) : w.withEnvironmentFile.root = w.root := by
  obtain ⟨environment, he⟩ := exists_environment w
  rw [he]

@[simp]
theorem locate_withEnvironmentFile (w : Workspace) (path : String) :
    w.withEnvironmentFile.locate path = w.locate path := by
  obtain ⟨environment, he⟩ := exists_environment w
  rw [he]
  rfl

/-- A run that lints and gives an outcome has a version for the file that it was asked for. -/
theorem exists_lintJob {settings : Config.Settings} {outcome : Outcome}
    (hl : Config.load w.withEnvironmentFile arguments.config = .ok settings)
    (h : lintRun w.withEnvironmentFile arguments settings = .ok outcome) :
    ∃ job : LintJob w arguments, outcome = job.outcome ∧
      (arguments.outfile.isSome → (givenVersion? w arguments job.settings).isSome) := by
  rw [lintRun] at h
  dsimp only at h
  rw [Config.LintSettings.resolveVersion_eq, root_withEnvironmentFile,
    docsFolder_withEnvironmentFile] at h
  split at h
  -- A file was asked for and there is no version: the run has failed.
  · cases h
  · rename_i hv
    obtain ⟨aliases, ha, h⟩ := bind_eq_ok.mp h
    obtain ⟨urls, hu, h⟩ := bind_eq_ok.mp h
    obtain ⟨docs, hd, h⟩ := bind_eq_ok.mp h
    refine ⟨⟨settings, aliases, urls, docs, hl, mapError_eq_ok.mp ha, mapError_eq_ok.mp hu,
      mapError_eq_ok.mp hd⟩, ?_, fun ho => ?_⟩
    · rw [lintedOutcome_withEnvironmentFile] at h
      rw [LintJob.outcome]
      split at h
      · rename_i hall
        exact (Except.ok.inj h).symm.trans (if_pos hall).symm
      · rename_i hall
        exact (Except.ok.inj h).symm.trans (if_neg hall).symm
    · rw [ho, Bool.true_and, Option.isNone_iff_eq_none] at hv
      exact Option.isSome_iff_ne_none.mpr hv

theorem exists_localizedJob {settings : Config.Settings} {infile : String} {outcome : Outcome}
    (hi : arguments.infile = some infile)
    (hl : Config.load w.withEnvironmentFile arguments.config = .ok settings)
    (h : localizedRun w.withEnvironmentFile arguments settings infile = .ok outcome) :
    ∃ job : LocalizedJob w arguments, outcome = job.outcome := by
  rw [localizedRun] at h
  dsimp only at h
  split at h
  · cases h
  · obtain ⟨text, ht, h⟩ := bind_eq_ok.mp h
    obtain ⟨baseline, hb, h⟩ := bind_eq_ok.mp h
    obtain ⟨aliases, ha, h⟩ := bind_eq_ok.mp h
    obtain ⟨docs, hd, h⟩ := bind_eq_ok.mp h
    rw [root_withEnvironmentFile, locate_withEnvironmentFile] at hd
    rw [Workspace.readText, root_withEnvironmentFile, locate_withEnvironmentFile] at ht
    exact ⟨⟨infile, settings, text, baseline, aliases, docs, hi, hl, mapError_eq_ok.mp ht,
      mapError_eq_ok.mp hb, mapError_eq_ok.mp ha, mapError_eq_ok.mp hd⟩, (Except.ok.inj h).symm⟩

/-- A run that gives an outcome did one of two jobs. -/
theorem runWith_eq_ok {outcome : Outcome} (h : runWith w arguments = .ok outcome) :
    (arguments.infile = none ∧ ∃ job : LintJob w arguments, outcome = job.outcome ∧
      (arguments.outfile.isSome → (givenVersion? w arguments job.settings).isSome)) ∨
    ∃ job : LocalizedJob w arguments, outcome = job.outcome := by
  obtain ⟨settings, hl, h⟩ := bind_eq_ok.mp h
  replace hl := mapError_eq_ok.mp hl
  split at h
  · rename_i infile hi
    exact .inr (exists_localizedJob hi hl h)
  · rename_i hi
    exact .inl ⟨hi, exists_lintJob hl h⟩

/-- The verdicts of a run. -/
inductive Reached (w : Workspace) (arguments : Arguments) : List Verdict → Prop
  | linted (job : LintJob w arguments) (h : arguments.infile = none) :
    Reached w arguments (job.records.map LintedApi.verdict)
  | localized (job : LocalizedJob w arguments) :
    Reached w arguments (job.checks.map LocalizedCheck.verdict)

/-- Whether files are those of a workspace but for the file of that path, which holds the records
of the documents. All of them are good and bear the version that was given. -/
def Published (w : Workspace) (arguments : Arguments) (outfile : String) (after : FileTree) :
    Prop :=
  ∃ (job : LintJob w arguments) (version : String) (names : List String),
    givenVersion? w arguments job.settings = some version ∧
    (∀ record ∈ job.records, record.errors = [] ∧ record.api.version = version) ∧
    after.resolve (w.locate outfile) = .ok names ∧
    after.readText (w.locate outfile) =
      .ok (Json.array (job.records.map fun record => record.api.toJson)).pretty ∧
    ∀ other, other ≠ names → FileTree.fileAt? other after = FileTree.fileAt? other w.root

/-- What is printed and written when a run ends with a status. -/
inductive Ends (w : Workspace) (arguments : Arguments) (outcome : Outcome) : Status → Prop
  | failed (verdicts : List Verdict) (message : String)
    (reached : verdicts = [] ∨ Reached w arguments verdicts)
    (code : outcome.status.code = 2)
    (printed : outcome.errors =
      lines (verdicts.map Verdict.report) ++ ("doclint error: " ++ message ++ "\n"))
    (kept : outcome.files w.root = w.root) :
    Ends w arguments outcome .failed
  | invalid (verdicts : List Verdict) (reached : Reached w arguments verdicts)
    (code : outcome.status.code = 1)
    (printed : outcome.errors = lines (verdicts.map Verdict.report))
    (crossed : ∃ verdict ∈ verdicts, ∃ rest, verdict.report = "✘ " ++ verdict.name ++ rest)
    (kept : outcome.files w.root = w.root) :
    Ends w arguments outcome .invalid
  | clean (verdicts : List Verdict) (reached : Reached w arguments verdicts)
    (code : outcome.status.code = 0)
    (printed : outcome.errors = lines (verdicts.map Verdict.report))
    (checked : ∀ verdict ∈ verdicts, verdict.report = "✓ " ++ verdict.name)
    (kept : arguments.outfile = none → outcome.files w.root = w.root)
    (published : ∀ outfile, arguments.outfile = some outfile →
      Published w arguments outfile (outcome.files w.root)) :
    Ends w arguments outcome .clean

theorem Ends.code_eq {outcome : Outcome} {status : Status} (h : Ends w arguments outcome status) :
    outcome.status.code = status.code := by
  cases h with
  | failed _ _ _ code => exact code
  | invalid _ _ code => exact code
  | clean _ _ code => exact code

theorem Status.eq_of_code_eq {s t : Status} (h : s.code = t.code) : s = t := by
  cases s <;> cases t <;> simp_all [code]

/-- A run ends in one way at most. -/
theorem Ends.unique {outcome : Outcome} {s t : Status} (hs : Ends w arguments outcome s)
    (ht : Ends w arguments outcome t) : s = t :=
  Status.eq_of_code_eq (hs.code_eq.symm.trans ht.code_eq)

theorem Ends.kept {outcome : Outcome} {status : Status} (h : Ends w arguments outcome status)
    (ho : arguments.outfile = none) : outcome.files w.root = w.root := by
  cases h with
  | failed _ _ _ _ _ kept => exact kept
  | invalid _ _ _ _ _ kept => exact kept
  | clean _ _ _ _ _ kept => exact kept ho

/-- The records of a job whose file was written are published. -/
theorem LintJob.published (job : LintJob w arguments) {version outfile : String}
    {after : FileTree} (hv : givenVersion? w arguments job.settings = some version)
    (hgood : ∀ record ∈ job.records, record.errors = [])
    (hw : w.root.write (w.locate outfile)
      (Json.array (job.records.map fun record => record.api.toJson)).pretty.toUTF8 = .ok after) :
    Published w arguments outfile after := by
  obtain ⟨names, hn, ht, hother⟩ := FileTree.write_text hw
  refine ⟨job, version, names, hv, fun record hm => ⟨hgood record hm, ?_⟩, hn, ht, hother⟩
  rw [version_of_mem_lint hm, hv, Option.getD_some]

theorem LintJob.map_report (job : LintJob w arguments) :
    (job.records.map LintedApi.verdict).map Verdict.report = job.records.map LintedApi.report :=
  List.map_map

theorem LocalizedJob.map_report (job : LocalizedJob w arguments) :
    (job.checks.map LocalizedCheck.verdict).map Verdict.report =
      job.checks.map LocalizedCheck.report :=
  List.map_map

/-- With valid records a run is clean, unless their file cannot be written. -/
theorem LintJob.ends_lintedOutcome (job : LintJob w arguments) (hi : arguments.infile = none)
    (hv : arguments.outfile.isSome → (givenVersion? w arguments job.settings).isSome)
    (hgood : ∀ verdict ∈ job.records.map LintedApi.verdict, verdict.errors = []) :
    Ends w arguments (lintedOutcome w arguments job.records)
      (lintedOutcome w arguments job.records).status := by
  have hr : Reached w arguments (job.records.map LintedApi.verdict) := .linted job hi
  have hprinted := congrArg lines job.map_report.symm
  have hmarks := fun verdict hm => Verdict.report_eq_of_nil (hgood verdict hm)
  rw [lintedOutcome]
  dsimp only
  split
  · rename_i ho
    exact .clean _ hr rfl hprinted hmarks (fun _ => rfl)
      (fun outfile h => absurd (ho.symm.trans h) nofun)
  · rename_i outfile ho
    obtain ⟨version, hversion⟩ := Option.isSome_iff_exists.mp (hv (by rw [ho]; rfl))
    split
    · rename_i after hw
      refine .clean _ hr rfl hprinted hmarks (fun h => absurd (ho.symm.trans h) nofun)
        (fun other h => ?_)
      cases ho.symm.trans h
      simp only [Outcome.files, hw]
      exact job.published hversion (List.forall_mem_map.mp hgood) hw
    · exact .failed _ _ (.inr hr) rfl (congrArg (· ++ Failure.line _) hprinted) rfl

theorem LintJob.ends (job : LintJob w arguments) (hi : arguments.infile = none)
    (hv : arguments.outfile.isSome → (givenVersion? w arguments job.settings).isSome) :
    Ends w arguments job.outcome job.outcome.status := by
  rw [outcome]
  split
  · rename_i hall
    exact job.ends_lintedOutcome hi hv (LintedApi.all_valid.mp hall)
  · rename_i hall
    refine .invalid _ (.linted job hi) rfl (congrArg lines job.map_report.symm)
      (Verdict.exists_crossed ?_) rfl
    exact fun h => hall (LintedApi.all_valid.mpr h)

theorem LocalizedJob.ends (job : LocalizedJob w arguments) (ho : arguments.outfile = none) :
    Ends w arguments job.outcome job.outcome.status := by
  have hprinted := congrArg lines job.map_report.symm
  rw [outcome]
  split
  · rename_i hall
    have hgood := LocalizedCheck.all_valid.mp hall
    exact .clean _ (.localized job) rfl hprinted
      (fun verdict hm => Verdict.report_eq_of_nil (hgood verdict hm))
      (fun _ => rfl) (fun outfile h => absurd (ho.symm.trans h) nofun)
  · rename_i hall
    refine .invalid _ (.localized job) rfl hprinted (Verdict.exists_crossed ?_) rfl
    exact fun h => hall (LocalizedCheck.all_valid.mpr h)

theorem run_eq_of_ok {words : List String} (h : Arguments.ofWords words = .ok arguments)
    {outcome : Outcome} (hw : runWith w arguments = .ok outcome) : run w words = outcome := by
  simp only [run, h, hw]

theorem run_eq_of_error {words : List String} (h : Arguments.ofWords words = .ok arguments)
    {failure : Failure} (hw : runWith w arguments = .error failure) :
    run w words = ⟨.failed, "", failure.line, none⟩ := by
  simp only [run, h, hw]

theorem ends_run {words : List String} (h : Arguments.ofWords words = .ok arguments) :
    Ends w arguments (run w words) (run w words).status := by
  cases hw : runWith w arguments with
  | error failure =>
    rw [run_eq_of_error h hw]
    exact .failed [] failure.message (.inl rfl) rfl rfl rfl
  | ok outcome =>
    rw [run_eq_of_ok h hw]
    rcases runWith_eq_ok hw with ⟨hi, job, rfl, hv⟩ | ⟨job, rfl⟩
    · exact job.ends hi hv
    · rcases Arguments.outfile_or_infile_eq_none h with ho | hi
      · exact job.ends ho
      · exact absurd (hi.symm.trans job.infile_eq) nofun

/-- A run that starts ends in exactly one way: it fails or reports something that is not valid, and
every file is as it was, or it succeeds, and no file but the one asked for is different. A file is
not written without a version of its own, and not when records are read from a file. -/
theorem run_ends {words : List String} (h : Arguments.ofWords words = .ok arguments) :
    (∃! status, Ends w arguments (run w words) status) ∧
    (arguments.outfile.isSome →
      (∀ settings, Config.load w.withEnvironmentFile arguments.config = .ok settings →
        givenVersion? w arguments settings = none) →
      (run w words).status.code = 2) ∧
    (arguments.infile.isSome → (run w words).files w.root = w.root) := by
  have hends := ends_run (w := w) h
  refine ⟨⟨_, hends, fun _ ht => ht.unique hends⟩, fun ho hv => ?_, fun hi => ?_⟩
  · cases hw : runWith w arguments with
    | error failure => rw [run_eq_of_error h hw, Status.code]
    | ok outcome =>
      exfalso
      rcases runWith_eq_ok hw with ⟨-, job, -, hsome⟩ | ⟨job, -⟩
      · have hg := hsome ho
        rw [hv job.settings job.load_eq] at hg
        cases hg
      · rcases Arguments.outfile_or_infile_eq_none h with hn | hn
        · rw [hn] at ho
          cases ho
        · exact absurd (hn.symm.trans job.infile_eq) nofun
  · rcases Arguments.outfile_or_infile_eq_none h with ho | hn
    · exact hends.kept ho
    · rw [hn] at hi
      cases hi

/-- A workspace with one document, and notes beside it that are none. -/
def trayWorkspace : Workspace :=
  ⟨.folder [("docs", .folder
    [("tray.md", .file "# tray\n\n> Add icons.\n".toUTF8),
      ("notes.txt", .file "# notes\n".toUTF8)])], "/", []⟩

def trayWords : List String :=
  ["docs", "--outfile", "api.json", "--version=1.2.3"]

def trayArguments : Arguments :=
  ⟨"docs", some "1.2.3", some "api.json", none, none, false, false⟩

theorem run_ends_tray :
    Arguments.ofWords trayWords = .ok trayArguments ∧
      (run trayWorkspace trayWords).errors = "✓ tray\n" ∧
      (run trayWorkspace trayWords).output = "Created api.json\n" ∧
      Published trayWorkspace trayArguments "api.json"
        ((run trayWorkspace trayWords).files trayWorkspace.root) := by
  have h : Arguments.ofWords trayWords = .ok trayArguments := rfl
  obtain ⟨hs, he, ho⟩ : (run trayWorkspace trayWords).status.code = 0 ∧
      (run trayWorkspace trayWords).errors = "✓ tray\n" ∧
      (run trayWorkspace trayWords).output = "Created api.json\n" := by decide +kernel
  obtain ⟨status, hends, -⟩ := (run_ends (w := trayWorkspace) h).1
  refine ⟨h, he, ho, ?_⟩
  cases hends with
  | failed _ _ _ code => exact absurd (hs.symm.trans code) nofun
  | invalid _ _ code => exact absurd (hs.symm.trans code) nofun
  | clean _ _ _ _ _ _ published => exact published _ rfl

end CommandLine

end ApiDocs
