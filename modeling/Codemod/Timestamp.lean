import Codemod.Text.Blank

/-!
# Timestamps

A timestamp is an instant in universal time. Its text is that of RFC 3339; reading is lenient about
blanks between the parts, one-digit fields and the letter between date and time.

- `Timestamp` — whole seconds since 1970 and nanoseconds, which pass a billion in a leap second
- `Timestamp.text` — with zero, three, six or nine digits of a second
- `Timestamp.parse?` — with any offset below a day
-/

namespace Codemod

/-- An instant. -/
structure Timestamp where
  /-- Seconds since the beginning of 1970. -/
  seconds : Int
  /-- Nanoseconds after that second; a billion or more in a leap second. -/
  nanoseconds : Nat
deriving DecidableEq, Inhabited

namespace Timestamp

/-- The first instant is before the second. -/
def before (a b : Timestamp) : Bool :=
  a.seconds < b.seconds || (a.seconds == b.seconds && a.nanoseconds < b.nanoseconds)

/-- The days from the beginning of 1970 to a date, counted in years that begin in March. -/
def daysOfDate (year : Int) (month day : Nat) : Int :=
  let y := if month ≤ 2 then year - 1 else year
  let era := y.fdiv 400
  let yearOfEra := y - era * 400
  let dayOfYear : Int := (153 * (((month + 9) % 12 : Nat) : Int) + 2) / 5 + day - 1
  let dayOfEra := yearOfEra * 365 + yearOfEra / 4 - yearOfEra / 100 + dayOfYear
  era * 146097 + dayOfEra - 719468

/-- The date of a number of days from the beginning of 1970. -/
def dateOfDays (days : Int) : Int × Nat × Nat :=
  let z := days + 719468
  let era := z.fdiv 146097
  let dayOfEra := z - era * 146097
  let yearOfEra := (dayOfEra - dayOfEra / 1460 + dayOfEra / 36524 - dayOfEra / 146096) / 365
  let dayOfYear := dayOfEra - (365 * yearOfEra + yearOfEra / 4 - yearOfEra / 100)
  let marchMonth := (5 * dayOfYear + 2) / 153
  let day := (dayOfYear - (153 * marchMonth + 2) / 5 + 1).toNat
  let month := (if marchMonth < 10 then marchMonth + 3 else marchMonth - 9).toNat
  (yearOfEra + era * 400 + (if month ≤ 2 then 1 else 0), month, day)

/-- A year has a leap day. -/
def isLeapYear (year : Int) : Bool :=
  year % 4 == 0 && (year % 100 != 0 || year % 400 == 0)

/-- The number of days in a month. -/
def daysInMonth (year : Int) (month : Nat) : Nat :=
  match month with
  | 2 => if isLeapYear year then 29 else 28
  | 4 | 6 | 9 | 11 => 30
  | _ => 31

/-- A number with zeros before it up to a width. -/
def padded (width n : Nat) : List Char :=
  let ds := (toString n).toList
  List.replicate (width - ds.length) '0' ++ ds

/-- A year: four digits, with a sign when it needs more or is negative. -/
def yearText (year : Int) : List Char :=
  if 0 ≤ year && year ≤ 9999 then padded 4 year.toNat
  else (if year < 0 then '-' else '+') :: padded 4 year.natAbs

/-- The digits of a second after the point: none, three, six or nine. -/
def fractionText (n : Nat) : List Char :=
  if n == 0 then []
  else if n % 1000000 == 0 then '.' :: padded 3 (n / 1000000)
  else if n % 1000 == 0 then '.' :: padded 6 (n / 1000)
  else '.' :: padded 9 n

/-- The timestamp in universal time. -/
def text (t : Timestamp) : String :=
  let (year, month, day) := dateOfDays (t.seconds.fdiv 86400)
  let ofDay := (t.seconds.fmod 86400).toNat
  let leap := 10 ^ 9 ≤ t.nanoseconds
  let second := ofDay % 60 + (if leap then 1 else 0)
  let fraction := if leap then t.nanoseconds - 10 ^ 9 else t.nanoseconds
  String.ofList
    (yearText year ++ '-' :: padded 2 month ++ '-' :: padded 2 day
      ++ 'T' :: padded 2 (ofDay / 3600) ++ ':' :: padded 2 (ofDay / 60 % 60)
        ++ ':' :: padded 2 second
      ++ fractionText fraction ++ ['Z'])

/-- Digits at the beginning of a text, at most so many. -/
def leadingDigits (most : Nat) (cs : List Char) : List Char := (cs.take most).takeWhile Char.isDigit

/-- The value of a list of digits. -/
def valueOf (ds : List Char) : Nat := ds.foldl (fun n c => n * 10 + (c.toNat - 48)) 0

/-- A number of at least one and at most so many digits, after blanks. -/
def number? (most : Nat) (cs : List Char) : Option (Nat × List Char) :=
  let cs := cs.dropWhile Text.isBlank
  match leadingDigits most cs with
  | [] => none
  | ds => some (valueOf ds, cs.drop ds.length)

/-- A character, after blanks. -/
def mark? (c : Char) (cs : List Char) : Option (List Char) :=
  match cs.dropWhile Text.isBlank with
  | d :: rest => if d == c then some rest else none
  | [] => none

/-- A year; with a sign it may have any number of digits. -/
def year? (cs : List Char) : Option (Int × List Char) :=
  match cs.dropWhile Text.isBlank with
  | '-' :: rest => signed? rest fun n => -(n : Int)
  | '+' :: rest => signed? rest fun n => (n : Int)
  | cs => (number? 4 cs).map fun (n, rest) => ((n : Int), rest)
where
  /-- The digits after a sign. -/
  signed? (cs : List Char) (sign : Nat → Int) : Option (Int × List Char) :=
    match cs.takeWhile Char.isDigit with
    | [] => none
    | ds => some (sign (valueOf ds), cs.drop ds.length)

/-- The nanoseconds after a point, if there is one; digits beyond nine do not count. -/
def fraction? : List Char → Option (Nat × List Char)
  | '.' :: rest =>
    match leadingDigits 9 rest with
    | [] => none
    | ds => some (valueOf ds * 10 ^ (9 - ds.length), rest.dropWhile Char.isDigit)
  | cs => some (0, cs)

/-- Two digits. -/
def twoDigits? : List Char → Option (Nat × List Char)
  | a :: b :: rest => if a.isDigit && b.isDigit then some (valueOf [a, b], rest) else none
  | _ => none

/-- An offset in seconds: a zulu letter, the word UTC, or signed hours and minutes. -/
def offset? (cs : List Char) : Option (Int × List Char) :=
  match cs.dropWhile Text.isBlank with
  | u :: t :: c :: rest =>
    if u.toUpper == 'U' && t.toUpper == 'T' && c.toUpper == 'C' then some (0, rest)
    else zone? (u :: t :: c :: rest)
  | cs => zone? cs
where
  /-- An offset that is not the word UTC. -/
  zone? : List Char → Option (Int × List Char)
    | 'Z' :: rest | 'z' :: rest => some (0, rest)
    | '+' :: rest => amount? rest
    | '-' :: rest | '−' :: rest => (amount? rest).map fun (n, rest) => (-n, rest)
    | _ => none
  /-- Hours and minutes, with colons or blanks between them. -/
  amount? (cs : List Char) : Option (Int × List Char) := do
    let (hours, cs) ← twoDigits? cs
    let (minutes, cs) ← twoDigits? (cs.dropWhile fun c => c == ':' || Text.isBlank c)
    if minutes ≥ 60 then none else some ((hours * 3600 + minutes * 60 : Nat), cs)

/-- The greatest year, up to sign and one, that a date may have. -/
def maxYear : Int := 262142

/-- The first second of a timestamp. -/
def earliest : Int := daysOfDate (-(maxYear + 1)) 1 1 * 86400

/-- The second after the last one of a timestamp. -/
def latest : Int := daysOfDate (maxYear + 1) 1 1 * 86400

/-- Reads a timestamp, which lies in the years that a date may have in universal time too. -/
def parse? (s : String) : Option Timestamp := do
  let (year, cs) ← year? s.toList
  let (month, cs) ← number? 2 (← mark? '-' cs)
  let (day, cs) ← number? 2 (← mark? '-' cs)
  let cs ← match cs with
    | c :: rest => if c == 'T' || c == 't' || c == ' ' then some rest else none
    | [] => none
  let (hour, cs) ← number? 2 cs
  let (minute, cs) ← number? 2 (← mark? ':' cs)
  let (second, cs) ← number? 2 (← mark? ':' cs)
  let (nanoseconds, cs) ← fraction? cs
  let (offset, cs) ← offset? cs
  if !(cs.all Text.isBlank) then none
  if year < -(maxYear + 1) || maxYear < year then none
  if month < 1 || 12 < month || day < 1 || daysInMonth year month < day then none
  if hour > 23 || minute > 59 || second > 60 || 86400 ≤ offset.natAbs then none
  let leap := second == 60
  let here := daysOfDate year month day * 86400
    + ((hour * 3600 + minute * 60 + (if leap then 59 else second) : Nat) : Int)
  let seconds := here - offset
  if seconds < earliest || latest ≤ seconds then none
  return ⟨seconds, nanoseconds + (if leap then 10 ^ 9 else 0)⟩

end Timestamp

end Codemod
