import Codemod.Json.Basic
import Codemod.Migration.Step

/-!
# What a run reports

- `CountReport`, `RunReport` — the reports of a count and of a migration
- `RunReport.tally` — one more outcome
- `Report` — either of them, and `Report.toJson`
-/

namespace Codemod.Migration

/-- The report of a count. -/
structure CountReport where
  filesScanned : Nat := 0
  filesWithPatterns : Nat := 0
  total : UInt64 := 0
  cancelled : Bool := false
deriving DecidableEq

/-- The report of a migration. -/
structure RunReport where
  /-- Files selected for processing. -/
  filesTotal : Nat := 0
  /-- Files that were not skipped. -/
  processed : Nat := 0
  succeeded : Nat := 0
  failed : Nat := 0
  skipped : Nat := 0
  /-- The sum over successful files. -/
  patternsFixed : Int64 := 0
  /-- The last total of the history. -/
  remaining : Int64 := 0
  cancelled : Bool := false
  /-- The stop policy left files unvisited. -/
  stoppedEarly : Bool := false
deriving DecidableEq

/-- Counts one more outcome. -/
def RunReport.tally (r : RunReport) (o : Outcome) : Except Overflow RunReport :=
  if o.isSkip then .ok { r with skipped := r.skipped + 1 }
  else
    let r := { r with processed := r.processed + 1 }
    if o.succeeded then
      (addTotals r.patternsFixed o.fixed).map fun sum =>
        { r with succeeded := r.succeeded + 1, patternsFixed := sum }
    else .ok { r with failed := r.failed + 1 }

/-- What a run reports. -/
inductive Report where
  | counted (report : CountReport)
  | migrated (report : RunReport)
deriving DecidableEq

/-- The fields of a count's report. -/
def CountReport.fields (r : CountReport) : List (String × Json) :=
  [("files_scanned", .int r.filesScanned), ("files_with_patterns", .int r.filesWithPatterns),
   ("total", .int r.total.toNat), ("cancelled", .bool r.cancelled)]

/-- The fields of a migration's report. -/
def RunReport.fields (r : RunReport) : List (String × Json) :=
  [("files_total", .int r.filesTotal), ("processed", .int r.processed),
   ("succeeded", .int r.succeeded), ("failed", .int r.failed), ("skipped", .int r.skipped),
   ("patterns_fixed", .int r.patternsFixed.toInt), ("remaining", .int r.remaining.toInt),
   ("cancelled", .bool r.cancelled), ("stopped_early", .bool r.stoppedEarly)]

/-- The object of a report, which begins with its kind. -/
def Report.toJson : Report → Json
  | counted r => .object (("kind", .string "counted") :: r.fields)
  | migrated r => .object (("kind", .string "migrated") :: r.fields)

end Codemod.Migration
