import Codemod.Environment
import Codemod.Migration.Report
import Codemod.Walk

/-!
# A run over the files of a workspace

A run checks its preconditions, enumerates the files, counts occurrences, and migrates file by file.
Cancellation is looked at before a count of the scan and before a step, and nowhere else; failures
of single files are logged and counted and never end a run.

- `Setup` — the fixed settings of a runner
- `RunError` — the preconditions that can fail
- `countOnly`, `migrate`, `run` — the two kinds of run, and the choice between them
-/

namespace Codemod.Migration

/-- The settings of a runner. -/
structure Setup where
  workspace : String
  /-- The project's documentation. -/
  context : String := ""
  walker : Walker := {}
  maxFixAttempts : UInt32 := 5
  /-- An environment variable that must not be blank. -/
  credential : Option String := none
  /-- The environment. -/
  environment : SystemEnvironment := {}

/-- Why a run did not start. -/
inductive RunError where
  | noWorkspace (path : String)
  | noCredentials (name : String)
  | invalidGlob (pattern : String) (cause : PatternError)
deriving DecidableEq

/-- How the error is reported. -/
def RunError.message : RunError → String
  | noWorkspace path => s!"workspace directory not found: {path}"
  | noCredentials name =>
    s!"credentials missing: environment variable `{name}` is not set"
  | invalidGlob pattern _ => s!"invalid file pattern `{pattern}`"

/-- The causes of the error, outermost first. -/
def RunError.causes : RunError → List String
  | noWorkspace _ | noCredentials _ => []
  | invalidGlob _ cause => [cause.message, cause.cause.message]

namespace Setup

/-- A variable of the environment holds a text that is not blank. -/
def provides (setup : Setup) (name : String) : Bool :=
  (setup.environment.text? name).any fun value => !Text.isBlankText value

/-- The preconditions that do not depend on a request. -/
def preflight (setup : Setup) (fs : FileSystem) : Except RunError Unit :=
  if !fs.isDirectory setup.workspace then .error (.noWorkspace setup.workspace)
  else match setup.credential with
    | some name =>
      if setup.provides name then .ok () else .error (.noCredentials name)
    | none => .ok ()

/-- What is the same for all files of a request. -/
def job (setup : Setup) (request : Request) : Job where
  workspace := setup.workspace
  request := request
  context := setup.context
  maxFixAttempts := setup.maxFixAttempts

end Setup

variable {σ : Type}

/-- The files that a request selects, by their paths from the workspace. -/
def enumerate (setup : Setup) (request : Request) : Activity σ (Except RunError (List String)) := do
  log s!"Searching for files matching pattern: {request.fileGlob}"
  let fs := (← get).world.disk
  match setup.walker.matching fs setup.workspace request.fileGlob setup.environment with
  | .error cause => return .error (.invalidGlob request.fileGlob cause)
  | .ok locations =>
    let files := locations.map Location.text
    if files.isEmpty then log "WARNING: No files found matching the specified pattern."
    else log s!"Found {files.length} files to process"
    return .ok files

/-- Counts the occurrences in one file; none when it cannot be read. -/
def countFile (agents : Agents σ) (setup : Setup) (find file : String) :
    Activity σ (Option UInt64) := do
  match ← readFile (Path.join setup.workspace file) with
  | .error cause =>
    log s!"Could not read {file}: {cause.report}"
    return none
  | .ok content => return some (← countOccurrences agents content find file setup.context)

/-- The line on a file with occurrences. -/
def foundLine (n : UInt64) (file : String) : String := s!"Found {n} pattern occurrences in {file}"

/-- Counts file by file, adding to a report. -/
def countFiles (agents : Agents σ) (setup : Setup) (find : String) (report : CountReport) :
    List String → Activity σ CountReport
  | [] => return report
  | file :: rest => do
    if ← isCancelled then
      log "Counting cancelled."
      return { report with cancelled := true }
    else
      match ← countFile agents setup find file with
      | none => countFiles agents setup find report rest
      | some n =>
        let report := { report with filesScanned := report.filesScanned + 1 }
        if n = 0 then countFiles agents setup find report rest
        else
          log (foundLine n file)
          let total ← checked (addCounts report.total n)
          let report :=
            { report with filesWithPatterns := report.filesWithPatterns + 1, total }
          countFiles agents setup find report rest

/-- The line at the end of a count. -/
def totalLine (r : CountReport) : String :=
  s!"Total pattern occurrences: {r.total} in {r.filesWithPatterns} of {r.filesScanned} files"

/-- Counts the occurrences in all files of a request; nothing is written. -/
def countOnly (agents : Agents σ) (setup : Setup) (request : Request) :
    Activity σ (Except RunError CountReport) := do
  match setup.preflight (← get).world.disk with
  | .error e => return .error e
  | .ok () =>
    match ← enumerate setup request with
    | .error e => return .error e
    | .ok files =>
      let report ← countFiles agents setup request.find {} files
      log (totalLine report)
      return .ok report

/-- A file with the count of the scan; none if it could not be read. -/
abbrev Planned := String × Option UInt64

/-- What the scan found. -/
inductive Plan where
  | nothing
  | cancelled
  | files (planned : List Planned)

/-- Records the total before the migration. -/
def recordInitial (agents : Agents σ) (total : UInt64) : Activity σ Unit :=
  modify fun s =>
    { s with history := s.history.recordInitial (agents.now s.world) (totalOfCount total) }

/-- Looks for the first file with occurrences. -/
def planFirst (agents : Agents σ) (setup : Setup) (find : String) : List String → Activity σ Plan
  | [] => do
    log "WARNING: No files with patterns found to migrate."
    return .nothing
  | file :: rest => do
    if ← isCancelled then return .cancelled
    else
      let n := (← countFile agents setup find file).getD 0
      if n = 0 then planFirst agents setup find rest
      else
        log (foundLine n file)
        log s!"MIGRATE ONE FILE MODE: Will only process file: {file}"
        recordInitial agents n
        return .files [(file, some n)]

/-- Counts the occurrences in all files: the files with their counts and the total so far, or
nothing when cancelled. -/
def scanAll (agents : Agents σ) (setup : Setup) (find : String) (planned : List Planned)
    (total : UInt64) : List String → Activity σ (Option (List Planned × UInt64))
  | [] => return some (planned, total)
  | file :: rest => do
    if ← isCancelled then return none
    else
      let count ← countFile agents setup find file
      let n := count.getD 0
      if n = 0 then scanAll agents setup find (planned ++ [(file, count)]) total rest
      else
        log (foundLine n file)
        let total ← checked (addCounts total n)
        scanAll agents setup find (planned ++ [(file, count)]) total rest

/-- Selects all files, if any of them has occurrences. -/
def planAll (agents : Agents σ) (setup : Setup) (find : String) (files : List String) :
    Activity σ Plan := do
  log "Scanning files for initial pattern count..."
  match ← scanAll agents setup find [] 0 files with
  | none => return .cancelled
  | some (planned, total) =>
    recordInitial agents total
    if total = 0 then
      log "WARNING: No patterns found in any files."
      return .nothing
    else
      log s!"Total initial pattern count: {total}"
      log s!"Will process {planned.length} files"
      return .files planned

/-- Selects the files to process and records the total before the migration. -/
def plan (agents : Agents σ) (setup : Setup) (request : Request) (files : List String) :
    Activity σ Plan := do
  if request.action = .migrateOneFile then
    log "Looking for the first file with patterns to migrate..."
    planFirst agents setup request.find files
  else planAll agents setup request.find files

/-- The policy stops a run after this outcome. -/
def stopsAfter (policy : StopPolicy) (o : Outcome) : Bool :=
  match policy with
  | .afterEachFix => o.succeeded
  | .afterEachFile => !o.isSkip
  | .whenComplete => false

/-- Records a verified change and logs what is left. -/
def recordOutcome (agents : Agents σ) (o : Outcome) : Activity σ Unit := do
  if o.succeeded then
    let s ← get
    let history ← checked (s.history.recordFix (agents.now s.world) o.file o.fixed)
    set { s with history }
    log s!"Successfully fixed {o.fixed} pattern occurrences in {o.file} ({history.currentTotal} remaining)"

/-- Processes the planned files from number `index` of `total` on. -/
def processFiles (agents : Agents σ) (setup : Setup) (request : Request) (total : Nat)
    (report : RunReport) (index : Nat) : List Planned → Activity σ RunReport
  | [] => return report
  | (file, known) :: rest => do
    if ← isCancelled then
      log s!"Migration cancelled before {file}"
      return { report with cancelled := true }
    else
      log s!"Processing file {index}/{total}: {file}"
      let o ← runStep agents (setup.job request) file known
      let report ← checked (report.tally o)
      recordOutcome agents o
      if stopsAfter request.stopPolicy o && !rest.isEmpty then
        log s!"Stopping after {file} as requested ({index}/{total} files)"
        return { report with stoppedEarly := true }
      else processFiles agents setup request total report (index + 1) rest

/-- The last total of the history. -/
def remaining : Activity σ Int64 := return (← get).history.currentTotal

/-- The line at the end of a migration. -/
def closingLine (r : RunReport) : String :=
  s!"Code migration finished: {r.succeeded} succeeded, {r.failed} failed, {r.skipped} skipped, "
    ++ s!"{r.patternsFixed} patterns fixed"

/-- Migrates the files of a request. -/
def migrate (agents : Agents σ) (setup : Setup) (request : Request) :
    Activity σ (Except RunError RunReport) := do
  modify fun s => { s with history := .empty }
  match setup.preflight (← get).world.disk with
  | .error e => return .error e
  | .ok () =>
    log "Starting code migration process"
    match ← enumerate setup request with
    | .error e => return .error e
    | .ok [] => return .ok {}
    | .ok files =>
      match ← plan agents setup request files with
      | .nothing => return .ok { remaining := ← remaining }
      | .cancelled =>
        log "Migration cancelled during the initial scan."
        return .ok { cancelled := true, remaining := ← remaining }
      | .files planned =>
        let start : RunReport := { filesTotal := planned.length }
        let report ← processFiles agents setup request planned.length start 1 planned
        let report := { report with remaining := ← remaining }
        log (closingLine report)
        return .ok report

/-- Does what a request asks for. -/
def run (agents : Agents σ) (setup : Setup) (request : Request) :
    Activity σ (Except RunError Report) := do
  match request.action with
  | .countOnly => return (← countOnly agents setup request).map .counted
  | .migrateOneFile | .migrateAllFiles => return (← migrate agents setup request).map .migrated

end Codemod.Migration
