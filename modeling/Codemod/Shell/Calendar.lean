import Codemod.Shell.Octets
import Codemod.Shell.Tool.Bench
import Codemod.Timestamp

/-!
# Times in formats

A format is a text with conversions: a percent sign, flags, a width and a letter. Times are shown in
universal time.

- `Moment` — a time in its parts
- `Moment.text` — a time in a format
-/

namespace Codemod.Shell

/-- A time in its parts. -/
structure Moment where
  /-- Seconds since the beginning of 1970. -/
  seconds : Int
  nanoseconds : Nat
  year : Int
  month : Nat
  day : Nat
  hour : Nat
  minute : Nat
  second : Nat
  /-- Days since Sunday. -/
  weekday : Nat
  /-- Days since the beginning of the year. -/
  yearDay : Nat

namespace Moment

/-- The parts of a time that is given in nanoseconds since 1970. -/
def ofNanoseconds (time : Int) : Moment :=
  let seconds := time.fdiv (10 ^ 9)
  let days := seconds.fdiv 86400
  let rest := (seconds - days * 86400).toNat
  let (year, month, day) := Timestamp.dateOfDays days
  { seconds
    nanoseconds := (time - seconds * 10 ^ 9).toNat
    year, month, day
    hour := rest / 3600
    minute := rest / 60 % 60
    second := rest % 60
    weekday := ((days + 4) % 7).toNat
    yearDay := (days - Timestamp.daysOfDate year 1 1).toNat }

/-- The names of the days of a week. -/
def weekdays : List String :=
  ["Sunday", "Monday", "Tuesday", "Wednesday", "Thursday", "Friday", "Saturday"]

/-- The names of the months. -/
def months : List String :=
  ["January", "February", "March", "April", "May", "June", "July", "August", "September", "October",
    "November", "December"]

/-- The week of the year, when weeks begin on a day: days before the first of them are in week
zero. -/
def week (m : Moment) (firstDay : Nat) : Nat := (m.yearDay + 7 - (m.weekday + 7 - firstDay) % 7) / 7

/-- The year to which a week belongs that begins on Monday, and its number there. -/
def isoWeek (m : Moment) : Int × Nat :=
  let thursday :=
    Moment.ofNanoseconds ((m.seconds + (3 - ((m.weekday + 6) % 7 : Nat) : Int) * 86400) * 10 ^ 9)
  (thursday.year, thursday.yearDay / 7 + 1)

/-- What fills a field in front. -/
inductive Filling where
  | zeros
  | blanks
  | nothing
deriving DecidableEq

/-- A conversion of a format. -/
structure Field where
  filling : Option Filling := none
  upper : Bool := false
  swapped : Bool := false
  plus : Bool := false
  width : Option Nat := none
  colons : Nat := 0

/-- The flags of a conversion. -/
def flags (f : Field) : Octets → Field × Octets
  | '-' :: rest => flags { f with filling := some .nothing } rest
  | '_' :: rest => flags { f with filling := some .blanks } rest
  | '0' :: rest => flags { f with filling := some .zeros } rest
  | '+' :: rest => flags { f with filling := some .zeros, plus := true } rest
  | '^' :: rest => flags { f with upper := true } rest
  | '#' :: rest => flags { f with swapped := true } rest
  | rest => (f, rest)

/-- A number in a field that usually has so many columns. -/
def number (f : Field) (usual : Filling) (width : Nat) (n : Int) : Octets :=
  let filling := f.filling.getD usual
  let columns := if filling == .nothing then 0 else f.width.getD width
  let sign : Octets := if n < 0 then ['-'] else if f.plus && width < columns then ['+'] else []
  let digits := Octets.ofNat n.natAbs
  match filling with
  | .blanks => Octets.padLeft columns (sign ++ digits)
  | _ => sign ++ Octets.padLeft (columns - sign.length) digits '0'

/-- A word in a field. -/
def word (f : Field) (text : String) : Octets :=
  let cs := text.toList
  let cs := if f.upper then cs.map Char.toUpper else cs
  let filler := if f.filling == some .zeros then '0' else ' '
  if f.filling == some .nothing then cs else Octets.padLeft (f.width.getD 0) cs filler

/-- The first digits of the nanoseconds. -/
def fraction (m : Moment) (f : Field) : Octets :=
  let digits := Octets.padLeft 9 (Octets.ofNat m.nanoseconds) '0'
  match f.width with
  | some n => digits.take n ++ List.replicate (n - 9) '0'
  | none =>
    if f.filling == some .nothing then (digits.reverse.dropWhile (· == '0')).reverse else digits

/-- What a letter shows of a time that needs no further format; none when the letter has no
meaning. -/
def simple? (m : Moment) (f : Field) (letter : Char) : Option Octets :=
  let two (n : Nat) : Octets := number f .zeros 2 n
  let twelve := if m.hour % 12 == 0 then 12 else m.hour % 12
  let weekday := weekdays.getD m.weekday ""
  let month := months.getD (m.month - 1) ""
  let short (name : String) : String := String.ofList (name.toList.take 3)
  let swap := { f with upper := f.upper || f.swapped }
  match letter with
  | '%' => some ['%']
  | 'n' => some ['\n']
  | 't' => some ['\t']
  | 'a' => some (word swap (short weekday))
  | 'A' => some (word swap weekday)
  | 'b' | 'h' => some (word swap (short month))
  | 'B' => some (word swap month)
  | 'C' => some (number f .zeros 2 (m.year.fdiv 100))
  | 'd' => some (two m.day)
  | 'e' => some (number f .blanks 2 m.day)
  | 'g' => some (number f .zeros 2 (m.isoWeek.1.fmod 100))
  | 'G' => some (number f .zeros 4 m.isoWeek.1)
  | 'H' => some (two m.hour)
  | 'I' => some (two twelve)
  | 'j' => some (number f .zeros 3 (m.yearDay + 1 : Nat))
  | 'k' => some (number f .blanks 2 m.hour)
  | 'l' => some (number f .blanks 2 twelve)
  | 'm' => some (two m.month)
  | 'M' => some (two m.minute)
  | 'N' => some (m.fraction f)
  | 'p' => some (word { f with upper := false } (
      if m.hour < 12 then (if f.swapped then "am" else "AM") else if f.swapped then "pm" else "PM"))
  | 'P' => some (word f (if m.hour < 12 then "am" else "pm"))
  | 'q' => some (number f .zeros 1 ((m.month - 1) / 3 + 1 : Nat))
  | 's' => some (number f .zeros 1 m.seconds)
  | 'S' => some (two m.second)
  | 'u' => some (number f .zeros 1 ((m.weekday + 6) % 7 + 1 : Nat))
  | 'U' => some (two (m.week 0))
  | 'V' => some (two m.isoWeek.2)
  | 'w' => some (number f .zeros 1 m.weekday)
  | 'W' => some (two (m.week 1))
  | 'y' => some (number f .zeros 2 (m.year.fmod 100))
  | 'Y' => some (number f .zeros 4 m.year)
  | 'z' =>
    some (match f.colons with
      | 0 => "+0000".toList
      | 1 => "+00:00".toList
      | 2 => "+00:00:00".toList
      | _ => "+00".toList)
  | 'Z' =>
    some (word { f with upper := f.upper && !f.swapped } (if f.swapped then "utc" else "UTC"))
  | _ => none

/-- The format that a letter stands for. -/
def abbreviated? (letter : Char) : Option String :=
  match letter with
  | 'c' => some "%a %b %e %H:%M:%S %Y"
  | 'D' | 'x' => some "%m/%d/%y"
  | 'F' => some "%Y-%m-%d"
  | 'r' => some "%I:%M:%S %p"
  | 'R' => some "%H:%M"
  | 'T' | 'X' => some "%H:%M:%S"
  | _ => none

/-- A time in a format, in which letters that stand for formats are taken so many times. -/
def text (depth : Nat) (m : Moment) (fuel : Nat) (format : Octets) : Octets :=
  match fuel, format with
  | 0, _ | _, [] => []
  | fuel + 1, '%' :: rest =>
    let (f, after) := flags {} rest
    let (ds, after) := after.span Char.isDigit
    let f := if ds.isEmpty then f
      else { f with width := some (ds.foldl (fun n c => n * 10 + (c.toNat - 48)) 0) }
    let (colons, after) := after.span (· == ':')
    let after := if after.head? == some 'E' || after.head? == some 'O' then after.drop 1 else after
    let f := { f with colons := colons.length }
    match after with
    | letter :: more =>
      let shown :=
        match simple? m f letter, abbreviated? letter, depth with
        | some text, _, _ => some text
        | none, some whole, depth + 1 =>
          some (word f (String.ofList (text depth m (whole.length + 1) whole.toList)))
        | none, _, _ => none
      match shown with
      | some shown => shown ++ text depth m fuel more
      | none => '%' :: rest.take (rest.length - more.length) ++ text depth m fuel more
    | [] => '%' :: rest
  | fuel + 1, c :: rest => c :: text depth m fuel rest

/-- A time in a format. -/
def inFormat (m : Moment) (format : Octets) : Octets := m.text 1 (format.length + 1) format

/-- A time in a format that is a text. -/
def shown (m : Moment) (format : String) : Octets := m.inFormat (Octets.ofString format)

end Moment

end Codemod.Shell

/-!
## Times from words

A time is written as a date, a time of day, a day of the week, words such as `tomorrow` and
distances such as `2 weeks ago`, in any order.

- `DateReading` — what has been read
- `Moment.read?` — the time that a text means, seen from now
-/

namespace Codemod.Shell

/-- What has been read of a time. -/
structure DateReading where
  /-- Seconds and nanoseconds since 1970, when they are given. -/
  absolute : Option (Int × Nat) := none
  date : Option (Option Int × Nat × Nat) := none
  /-- Seconds and nanoseconds since midnight. -/
  time : Option (Nat × Nat) := none
  /-- How many seconds a place is ahead of universal time. -/
  zone : Option Int := none
  /-- How often a day of the week is passed, and which one it is. -/
  weekday : Option (Int × Nat) := none
  months : Int := 0
  days : Int := 0
  seconds : Int := 0
  distant : Bool := false

namespace DateReading

/-- The months and days of the week by the first three letters of their names. -/
def nameIndex? (names : List String) (word : String) : Option Nat :=
  if word.length < 3 then none
  else names.findIdx? fun name => (name.toLower.startsWith word)

/-- The distances that words mean: months, days and seconds. -/
def unit? (word : String) : Option (Int × Int × Int) :=
  let word :=
    if word.length > 3 && word.endsWith "s" then String.ofList word.toList.dropLast else word
  match word with
  | "year" => some (12, 0, 0)
  | "month" => some (1, 0, 0)
  | "fortnight" => some (0, 14, 0)
  | "week" => some (0, 7, 0)
  | "day" => some (0, 1, 0)
  | "hour" => some (0, 0, 3600)
  | "minute" | "min" => some (0, 0, 60)
  | "second" | "sec" => some (0, 0, 1)
  | _ => none

/-- A distance more, so many times a unit. -/
def further (d : DateReading) (n : Int) (unit : Int × Int × Int) : DateReading :=
  { d with
    months := d.months + n * unit.1
    days := d.days + n * unit.2.1
    seconds := d.seconds + n * unit.2.2
    distant := true }

/-- A date more, if there is none. -/
def withDate (d : DateReading) (year : Option Int) (month day : Nat) : Option DateReading :=
  if d.date.isSome then none else some { d with date := some (year, month, day) }

/-- A time of day more, if there is none. -/
def withTime (d : DateReading) (hour minute second nanoseconds : Nat) : Option DateReading :=
  if d.time.isSome || 23 < hour || 59 < minute || 60 < second then none
  else some { d with time := some (hour * 3600 + minute * 60 + second, nanoseconds) }

/-- The number of digits. -/
def value (ds : Octets) : Nat := (Tool.natural? ds).getD 0

/-- A year of its digits; two of them mean one of the last or of this century. -/
def year (ds : Octets) : Int :=
  if ds.length == 2 then (if value ds < 69 then 2000 + value ds else 1900 + value ds : Nat)
  else value ds

/-- Blanks do not count. -/
def trim (cs : Octets) : Octets := Octets.trimLeft cs

/-- A word in small letters at the front, and what follows it. -/
def wordAt (cs : Octets) : String × Octets :=
  let (word, rest) := cs.span Char.isAlpha
  (String.ofList (word.map Char.toLower), rest)

/-- The hour when a word says in which half of a day it lies. -/
def halfDay? (word : String) (hour : Nat) : Option Nat :=
  if hour < 1 || 12 < hour then none
  else
    match word with
    | "am" => some (hour % 12)
    | "pm" => some (hour % 12 + 12)
    | _ => none

/-- How far a zone with a sign is ahead. -/
def zoneOf (negative : Bool) (ds minutes : Octets) : Int :=
  let n := value ds
  let seconds : Nat :=
    if !minutes.isEmpty then n * 3600 + value minutes * 60
    else if ds.length ≤ 2 then n * 3600
    else n / 100 * 3600 + n % 100 * 60
  if negative then -(seconds : Int) else seconds

/-- What follows a time of day: its half of the day or its zone. -/
def afterTime (d : DateReading) (hour minute second nanoseconds : Nat) (cs : Octets) :
    Option (DateReading × Octets) :=
  let rest := trim cs
  let (word, more) := wordAt rest
  match halfDay? word hour with
  | some hour => (d.withTime hour minute second nanoseconds).map fun d => (d, more)
  | none => do
    let d ← d.withTime hour minute second nanoseconds
    match rest with
    | sign :: ds =>
      let (digits, more) := (trim ds).span Char.isDigit
      if (sign == '+' || sign == '-') && !digits.isEmpty && d.zone.isNone then
        match more with
        | ':' :: after =>
          let (minutes, after) := after.span Char.isDigit
          some ({ d with zone := some (zoneOf (sign == '-') digits minutes) }, after)
        | more => some ({ d with zone := some (zoneOf (sign == '-') digits []) }, more)
      else some (d, rest)
    | [] => some (d, [])

/-- A time of day after its hour and a colon. -/
def clock (d : DateReading) (hour : Nat) (cs : Octets) : Option (DateReading × Octets) :=
  let (minutes, rest) := cs.span Char.isDigit
  if minutes.isEmpty then none
  else
    match rest with
    | ':' :: after =>
      let (seconds, rest) := after.span Char.isDigit
      let (fraction, rest) := match rest with
        | '.' :: after | ',' :: after => after.span Char.isDigit
        | rest => ([], rest)
      let nanoseconds := value ((fraction ++ List.replicate 9 '0').take 9)
      if seconds.isEmpty then none
      else afterTime d hour (value minutes) (value seconds) nanoseconds rest
    | rest => afterTime d hour (value minutes) 0 0 rest

/-- What begins with digits. -/
def numeric (d : DateReading) (ds rest : Octets) : Option (DateReading × Octets) :=
  match rest with
  | ':' :: after => clock d (value ds) after
  | '/' :: after =>
    let (second, rest) := after.span Char.isDigit
    match rest with
    | '/' :: after =>
      let (third, rest) := after.span Char.isDigit
      let found := if ds.length ≥ 4 then d.withDate (some (year ds)) (value second) (value third)
        else d.withDate (some (year third)) (value ds) (value second)
      found.map fun d => (d, rest)
    | rest => (d.withDate none (value ds) (value second)).map fun d => (d, rest)
  | '-' :: after =>
    let (second, rest') := after.span Char.isDigit
    match second, rest' with
    | _ :: _, '-' :: after =>
      let (third, rest) := after.span Char.isDigit
      let rest := match rest with
        | 'T' :: more | 't' :: more => if more.head?.any Char.isDigit then more else rest
        | rest => rest
      (d.withDate (some (year ds)) (value second) (value third)).map fun d => (d, rest)
    | _, _ =>
      let (word, more) := wordAt after
      match nameIndex? Moment.months word, more with
      | some month, '-' :: more =>
        let (third, rest) := more.span Char.isDigit
        (d.withDate (some (year third)) (month + 1) (value ds)).map fun d => (d, rest)
      | _, _ => none
  | rest =>
    let (word, more) := wordAt (trim rest)
    match halfDay? word (value ds), unit? word, nameIndex? Moment.months word with
    | some hour, _, _ => (d.withTime hour 0 0 0).map fun d => (d, more)
    | none, some unit, _ => some (d.further (value ds) unit, more)
    | none, none, some month =>
      let (third, after) := (trim more).span Char.isDigit
      if third.isEmpty || after.head? == some ':' then
        (d.withDate none (month + 1) (value ds)).map fun d => (d, more)
      else (d.withDate (some (year third)) (month + 1) (value ds)).map fun d => (d, after)
    | none, none, none =>
      match d.date with
      | some (none, month, day) =>
        if d.time.isSome || ds.length > 2 then
          some ({ d with date := some (some (year ds), month, day) }, rest)
        else (d.withTime (value ds) 0 0 0).map fun d => (d, rest)
      | date =>
        if ds.length > 4 then
          (d.withDate (some (value (ds.take (ds.length - 4)))) (value ((ds.drop (ds.length - 4)).take 2))
            (value (ds.drop (ds.length - 2)))).map fun d => (d, rest)
        else if ds.length ≤ 2 then
          if date.isNone && d.time.isSome then none
          else (d.withTime (value ds) 0 0 0).map fun d => (d, rest)
        else (d.withTime (value ds / 100) (value ds % 100) 0 0).map fun d => (d, rest)

/-- The numbers that words mean. -/
def ordinal? (word : String) : Option Int :=
  match word with
  | "last" => some (-1)
  | "this" => some 0
  | "next" | "first" => some 1
  | "third" => some 3
  | "fourth" => some 4
  | "fifth" => some 5
  | "sixth" => some 6
  | "seventh" => some 7
  | "eighth" => some 8
  | "ninth" => some 9
  | "tenth" => some 10
  | _ => none

/-- What begins with a word. -/
def worded (d : DateReading) (word : String) (rest : Octets) : Option (DateReading × Octets) :=
  match word with
  | "now" | "today" => some ({ d with distant := true }, rest)
  | "tomorrow" => some (d.further 1 (0, 1, 0), rest)
  | "yesterday" => some (d.further (-1) (0, 1, 0), rest)
  | "ago" => some ({ d with months := -d.months, days := -d.days, seconds := -d.seconds }, rest)
  | "t" => some (d, rest)
  | "z" | "utc" | "gmt" | "ut" =>
    let (sign, ds) := (rest.headD ' ', rest.drop 1)
    let (digits, more) := ds.span Char.isDigit
    if (sign == '+' || sign == '-') && !digits.isEmpty then
      some ({ d with zone := some (zoneOf (sign == '-') digits []) }, more)
    else some ({ d with zone := some 0 }, rest)
  | word =>
    match ordinal? word, nameIndex? Moment.months word, nameIndex? Moment.weekdays word,
      unit? word with
    | some n, _, _, _ =>
      let (next, more) := wordAt (trim rest)
      match unit? next, nameIndex? Moment.weekdays next with
      | some unit, _ => some (d.further n unit, more)
      | none, some day => some ({ d with weekday := some (n, day) }, more)
      | none, none => none
    | none, some month, _, _ =>
      let (day, after) := (trim rest).span Char.isDigit
      if day.isEmpty then none
      else
        let next := match trim after with
          | ',' :: more => trim more
          | more => more
        let (third, more) := next.span Char.isDigit
        if third.length == 4 && more.head? != some ':' then
          (d.withDate (some (value third)) (month + 1) (value day)).map fun d => (d, more)
        else (d.withDate none (month + 1) (value day)).map fun d => (d, after)
    | none, none, some day, _ => some ({ d with weekday := some (0, day) }, rest)
    | none, none, none, some unit => some (d.further 1 unit, rest)
    | _, _, _, _ => none

/-- Reads a text part by part. -/
def read (fuel : Nat) (cs : Octets) (d : DateReading) : Option DateReading :=
  match fuel, trim cs with
  | 0, _ => none
  | _, [] => some d
  | fuel + 1, ',' :: rest => read fuel rest d
  | fuel + 1, '@' :: rest =>
    let (negative, ds) := match rest with
      | '-' :: ds => (true, ds)
      | ds => (false, ds)
    let (digits, rest) := ds.span Char.isDigit
    let (fraction, rest) := match rest with
      | '.' :: after | ',' :: after => after.span Char.isDigit
      | rest => ([], rest)
    if digits.isEmpty then none
    else
      let n : Int := value digits
      let nanoseconds := value ((fraction ++ List.replicate 9 '0').take 9)
      let absolute : Int × Nat :=
        if !negative then (n, nanoseconds)
        else if nanoseconds == 0 then (-n, 0)
        else (-n - 1, 10 ^ 9 - nanoseconds)
      read fuel rest { d with absolute := some absolute }
  | fuel + 1, c :: rest =>
    if c.isDigit then
      let (ds, after) := (c :: rest).span Char.isDigit
      match numeric d ds after with
      | some (d, rest) => read fuel rest d
      | none => none
    else if c.isAlpha then
      let (word, after) := wordAt (c :: rest)
      match worded d word after with
      | some (d, rest) => read fuel rest d
      | none => none
    else if c == '+' || c == '-' then
      let (ds, after) := (trim rest).span Char.isDigit
      let (word, more) := wordAt (trim after)
      match unit? word with
      | some unit =>
        if ds.isEmpty then none
        else
          let n : Int := value ds
          read fuel more (d.further (if c == '-' then -n else n) unit)
      | none => none
    else none

/-- The nanoseconds since 1970 that a reading means, seen from now. -/
def resolve (now : Int) (d : DateReading) : Option Int :=
  match d.absolute with
  | some (seconds, nanoseconds) =>
    some ((seconds + d.days * 86400 + d.seconds) * 10 ^ 9 + nanoseconds)
  | none =>
    let m := Moment.ofNanoseconds now
    let (year, month, day) := match d.date with
      | some (year, month, day) => (year.getD m.year, month, day)
      | none => (m.year, m.month, m.day)
    if month < 1 || 12 < month || day < 1 || Timestamp.daysInMonth year month < day then none
    else
      let (time, nanoseconds) := match d.time with
        | some time => time
        | none =>
          if d.distant && d.date.isNone && d.weekday.isNone then
            (m.hour * 3600 + m.minute * 60 + m.second, m.nanoseconds)
          else (0, 0)
      let count := (month - 1 : Nat) + d.months
      let year := year + count.fdiv 12
      let days := Timestamp.daysOfDate year ((count.fmod 12).toNat + 1) 1 + (day - 1 : Nat) + d.days
      let days := match d.weekday, d.date with
        | some (n, weekday), none =>
          let here := ((days + 4) % 7).toNat
          days + ((weekday + 7 - here) % 7 : Nat)
            + 7 * (n - (if 0 < n && here != weekday then 1 else 0))
        | _, _ => days
      some ((days * 86400 + time - d.zone.getD 0 + d.seconds) * 10 ^ 9 + nanoseconds)

end DateReading

/-- The nanoseconds since 1970 that a text means, seen from now. -/
def Moment.read? (now : Int) (text : Octets) : Option Int :=
  (DateReading.read (text.length + 2) text {}).bind (DateReading.resolve now)

end Codemod.Shell
