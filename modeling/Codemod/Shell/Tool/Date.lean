import Codemod.Shell.Calendar
import Codemod.Shell.Tool.Lines

/-!
# The date

- `Tool.date` — a time in a format
-/

namespace Codemod.Shell.Tool

/-- The format of standard times that are exact to a unit. -/
def standardFormat? (joint : String) (unit : String) : Option String :=
  let all := [("date", ""), ("hours", "%H"), ("minutes", "%H:%M"), ("seconds", "%H:%M:%S"),
    ("ns", "%H:%M:%S,%N")]
  match all.find? fun (name, _) => name.startsWith unit && !unit.isEmpty with
  | some ("date", _) => some "%Y-%m-%d"
  | some (_, time) => some s!"%Y-%m-%d{joint}{time}%:z"
  | none => none

/-- Prints a time in a format. -/
def date : List Octets → Tool Nat :=
  withOptions ("d,date: f,file: I,iso-8601:: r,reference: R,rfc-email rfc-3339: s,set: "
    ++ "u,utc,universal debug resolution") 1 fun o => do
  let now := (← get).now
  let formats := o.operands.filter fun a => a.head? == some '+'
  match formats, o.operands.filter fun a => a.head? != some '+' with
  | _ :: _ :: _, [] => refuse 1 "multiple output formats specified"
  | _, extra :: _ =>
    if formats.isEmpty && o.operands.length == 1 then
      blame s!"invalid date {quoted extra}"
      return 1
    else extraOperand 1 extra
  | formats, [] =>
    let iso := (o.value? "I").map fun text => if text.isEmpty then "date" else text.toText
    let format : Option String :=
      match o.last? ["I", "R", "rfc-3339"] with
      | some "I" => standardFormat? "T" (iso.getD "")
      | some "R" => some "%a, %d %b %Y %H:%M:%S %z"
      | some "rfc-3339" =>
        (standardFormat? " " (((o.value? "rfc-3339").getD []).toText)).map fun f =>
          f.replace "," "."
      | _ => some "%a %b %e %H:%M:%S %Z %Y"
    let some usual := format | refuse 1 "invalid argument for a time format"
    let format := match formats with
      | first :: _ => first.drop 1
      | [] => usual.toList
    let sayTime (time : Int) : Tool Unit :=
      say ((Moment.ofNanoseconds time).inFormat format ++ ['\n'])
    match o.value? "r", o.value? "f", (o.value? "d").or (o.value? "s") with
    | some name, _, _ =>
      let disk := (← get).disk
      match disk.find name.toText with
      | .ok (loc, _) =>
        sayTime (disk.modified loc)
        return 0
      | .error cause =>
        blameFor name cause
        return 1
    | none, some name, _ =>
      match ← contentOf name with
      | .error cause =>
        blameFor name cause
        return 1
      | .ok text =>
        let mut status := 0
        for line in Octets.pieces '\n' text do
          match Moment.read? now line with
          | some time => sayTime time
          | none =>
            blame s!"invalid date {quoted line}"
            status := 1
        return status
    | none, none, some text =>
      match Moment.read? now text with
      | some time =>
        sayTime time
        return 0
      | none =>
        blame s!"invalid date {quoted text}"
        return 1
    | none, none, none =>
      sayTime now
      return 0

end Codemod.Shell.Tool
