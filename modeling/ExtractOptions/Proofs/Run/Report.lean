/-
Module: ExtractOptions.Proofs.Run.Report
Purpose: what the program reports of a run. Once the settings are loaded and the log is prepared, the
  exit status, standard output and the last message say what became of the command line, and that
  message goes where diagnostics go by then, behind the warnings.
Main exports: closing?, Outcome.Reports, run_reports
-/
import ExtractOptions.Program
import ExtractOptions.Proofs.Run.Diagnosis
import ExtractOptions.Proofs.Run.Soundness

namespace ExtractOptions

open ExtractOptions.Action

/-- What is told at the end of a run that did not come to a good end. -/
def closing? : EStateM.Result Failure Session Unit → Option String
  | .ok _ _ => none
  | .error .versionRequested _ => none
  | .error .helpRequested _ => some usageText
  | .error failure _ => some failure.message

/-- What the program reports of a run in which the given options were given. -/
structure Outcome.Reports (context : Context) (given : List Given)
    (result : EStateM.Result Failure Session Unit) (outcome : Outcome) : Prop where
  /-- The exit status says whether the command line was accepted, or the version asked for. -/
  exitCode : outcome.exitCode =
    match result with
    | .ok _ _ | .error .versionRequested _ => 0
    | .error _ _ => 1
  /-- Standard output is the summary or the version, or nothing. -/
  standardOutput : outcome.standardOutput =
    match result with
    | .ok _ left => summary left.config left.registry ++ "\n"
    | .error .versionRequested _ => programName ++ " " ++ programVersion ++ "\n"
    | .error _ _ => ""
  /-- Standard error has the warnings given while diagnostics go there, and what is told at the end
  if they do then. -/
  standardError : outcome.standardError =
    messageText (warningsOnError context false given ++
      messagesOnError (isFiled context false given) (closing? result).toList)
  /-- The file that the last option to redirect diagnostics could open gets the warnings given after
  it and what is told at the end, unless another option empties it. -/
  file : ∀ before choice after mode place held, given = before ++ choice :: after →
    choice.redirects? context = some true → (∀ one ∈ after, one.redirects? context = none) →
    choice.Opens context mode place → (choice.after context).disk.file? place = some held →
    (∀ one ∈ after, ¬ one.Opens context .write place) →
    outcome.disk.file? place = some (held ++
      Lines.written (after.filterMap (Given.warning? context) ++ (closing? result).toList))

/-- The session that is left, whatever the result. -/
def resultSession : EStateM.Result Failure Session Unit → Session
  | .ok _ left => left
  | .error _ left => left

/-- What shows of a session after the last message. -/
def toldSurface (result : EStateM.Result Failure Session Unit) : Surface :=
  match closing? result with
  | none => (resultSession result).surface
  | some message => (resultSession result).surface.diagnose message

/-- The session of a result is the one that the action leaves. -/
theorem resultSession_eq_after {action : Action Unit} (session : Session) :
    resultSession (action session) = action.after session := by
  unfold Action.after
  cases action session <;> rfl

/-- The report shows what the run left and told. -/
theorem report_surface (result : EStateM.Result Failure Session Unit) :
    (report result).standardError = (toldSurface result).standardError ∧
      (report result).disk = (toldSurface result).disk := by
  have tells : ∀ (left : Session) (message : String) (exitCode : Int),
      ((left.diagnose message).outcome exitCode "").standardError =
          (left.surface.diagnose message).standardError ∧
        ((left.diagnose message).outcome exitCode "").disk =
          (left.surface.diagnose message).disk := by
    intro left message exitCode
    rw [← left.surface_diagnose]
    exact ⟨rfl, rfl⟩
  cases result with
  | ok done left => exact ⟨rfl, rfl⟩
  | error failure left =>
    cases failure with
    | versionRequested => exact ⟨rfl, rfl⟩
    | helpRequested => exact tells left _ _
    | usage | conflict | resource | internal | recursiveInclude | includeTooDeep | refused =>
      exact tells left _ _

section Runs

variable {context : Context} {given : List Given} {first last : Session}

/-- An option of a run is listed, and the run goes on from what it leaves. -/
theorem Chronology.rest_of_append {clean : Prop}
    (chronology : Chronology context clean first given last) {before after : List Given}
    {one : Given} (place : given = before ++ one :: after) :
    one.option.isListed ∧ Chronology context clean (one.after context) after last := by
  induction chronology generalizing before with
  | done session => simp at place
  | interlude interlude _ ih => exact ih place
  | option other listed _ rest ih =>
    cases before with
    | nil =>
      obtain ⟨rfl, rfl⟩ := List.cons.inj place
      exact ⟨listed, rest⟩
    | cons head before =>
      obtain ⟨-, place⟩ := List.cons.inj place
      exact ih place

/-- What a run leaves is reported as it is. -/
theorem report_reports {clean : Prop} {disk : Disk}
    {result : EStateM.Result Failure Session Unit}
    (chronology : Chronology context clean { disk } given (resultSession result))
    (sound : ∀ failure left, result = .error failure left → failure.isInternal = false) :
    (report result).Reports context given result := by
  obtain ⟨errors, disks⟩ := report_surface result
  obtain ⟨filed, warned⟩ := chronology.standardError
  have begins : ({ disk } : Session).surface.isFiled = false := rfl
  have silent : ({ disk } : Session).surface.standardError = "" := rfl
  rw [begins] at filed warned
  rw [silent, String.empty_append] at warned
  refine ⟨?_, ?_, ?_, ?_⟩
  · cases result with
    | ok done left => rfl
    | error failure left =>
      cases failure with
      | internal defect => exact absurd (sound _ _ rfl) (by simp [Failure.isInternal])
      | _ => rfl
  · cases result with
    | ok done left => rfl
    | error failure left => cases failure <;> rfl
  · rw [errors, messageText_append, toldSurface]
    cases closing? result with
    | none => rw [Option.toList_none, messageText_onError_nil, String.append_empty, ← warned]
    | some message =>
      obtain ⟨tells, -⟩ := (resultSession result).surface.diagnose_standardError message
      rw [filed, warned] at tells
      exact tells
  · intro before choice after mode place held split directs stays opens there kept
    obtain ⟨listed, rest⟩ := chronology.rest_of_append split
    have records := rest.records (choice.records_of_redirects listed directs opens there) stays kept
    have told : (toldSurface result).Records place
        (held ++ Lines.written
          (after.filterMap (Given.warning? context) ++ (closing? result).toList)) := by
      unfold toldSurface
      cases closing? result with
      | none => simpa using records
      | some message =>
        have last := records.diagnose message
        simpa [Lines.written, List.append_assoc] using last
    obtain ⟨target, -, -, holds, -⟩ := told
    rw [disks]
    exact holds

/-- The program reports what became of the command line, whenever the settings can be loaded and the
log can be prepared. -/
theorem run_reports {arguments : List String} {environment : List (String × String)}
    {disk prepared : Disk} {settings : Settings}
    (loaded : loadSettings disk (settingsDirectory environment) environment = .ok settings)
    (logs : prepareLog disk settings = (prepared, none)) :
    (run arguments environment disk).Reports (settings.context Gate.everything)
      (givenResolving (settings.context Gate.everything) arguments { disk := prepared })
      (resolve (settings.context Gate.everything) arguments { disk := prepared }) := by
  have runs : run arguments environment disk =
      report (resolve (settings.context Gate.everything) arguments { disk := prepared }) := by
    unfold run
    rw [loaded]
    simp only [logs]
    rfl
  have chronology : Chronology (settings.context Gate.everything) _ { disk := prepared } _ _ :=
    (resolve_chronicles arguments).chronology { disk := prepared }
  rw [← resultSession_eq_after] at chronology
  rw [runs]
  exact report_reports chronology fun failure left fails => resolve_sound arguments _ _ _ fails

/-- A run that warns, directs diagnostics to a file, warns again and fails. -/
theorem run_reports_to_file :
    loadSettings ⟨[], []⟩ (settingsDirectory []) [] = .ok {} ∧
      prepareLog ⟨[], []⟩ {} = (⟨[], []⟩, none) ∧
      (run ["--fencomments", "-Fx", "-Lrun.log", "-Fy", "--unknown"] [] ⟨[], []⟩).Reports
        (Settings.context {} Gate.everything)
        (givenResolving (Settings.context {} Gate.everything)
          ["--fencomments", "-Fx", "-Lrun.log", "-Fy", "--unknown"] { disk := ⟨[], []⟩ })
        (resolve (Settings.context {} Gate.everything)
          ["--fencomments", "-Fx", "-Lrun.log", "-Fy", "--unknown"] { disk := ⟨[], []⟩ }) := by
  have loaded : loadSettings ⟨[], []⟩ (settingsDirectory []) [] = .ok {} := by decide +kernel
  have accepts : acceptsLogFilter "warn" = true := by decide +kernel
  have logs : prepareLog ⟨[], []⟩ {} = (⟨[], []⟩, none) := by simp [prepareLog, accepts]
  exact ⟨loaded, logs, run_reports loaded logs⟩

/-- A log directory that cannot be made ends the run before the command line is looked at. -/
theorem run_ends_without_log_directory :
    ¬ ∀ (arguments : List String) (environment : List (String × String)) (disk : Disk)
        (settings : Settings),
      loadSettings disk (settingsDirectory environment) environment = .ok settings →
        acceptsLogFilter settings.logLevel = true →
        (run arguments environment disk).exitCode =
          match resolve (settings.context Gate.everything) arguments { disk } with
          | .ok _ _ | .error .versionRequested _ => 0
          | .error _ _ => 1 := by
  intro law
  have exits := law [] [("PGNOPTS_LOG_DIR", "f/logs")] ⟨[(["f"], .file [])], []⟩
    { logDirectory := some "f/logs" } (by decide +kernel) (by decide +kernel)
  have ends : (run [] [("PGNOPTS_LOG_DIR", "f/logs")] ⟨[(["f"], .file [])], []⟩).exitCode = 1 := by
    decide +kernel
  rw [ends] at exits
  cases exits

end Runs

end ExtractOptions
