import Codemod.Shell.Regex.Reading
import Codemod.Shell.Tool.Format
import Std.Data.HashMap

/-!
# Values of record programs

A value is a number or a text, and each is taken for the other where that is needed. A text from the
input counts as a number in comparisons when it looks like one.

- `Awk.Value` — values
- `Awk.Number.text`, `Awk.Number.ofText` — numbers as texts, and texts as numbers
- `Awk.Value.compare`, `Awk.Value.holds` — comparisons
-/

namespace Codemod.Shell.Awk

namespace Number

/-- The exact value of a floating-point number. -/
def ratio (x : Float) : Ratio :=
  let b : Binary64 := ⟨x.toBits⟩
  if b.isNaN then .nan true
  else if b.isInfinite then .infinite b.isNegative
  else
    let (m, q) := b.magnitude
    .quotient b.isNegative (m * 2 ^ q.toNat) (2 ^ (-q).toNat)

/-- The floating-point number nearest to an exact value. -/
def ofRatio : Ratio → Float
  | .quotient negative num den =>
    Float.ofBits ((Binary64.ofRatio num den).withSign negative).bits
  | .infinite negative => if negative then -(1.0 / 0.0) else 1.0 / 0.0
  | .nan _ => 0.0 / 0.0

/-- The number of a whole one. -/
def ofInt (n : Int) : Float := ofRatio (.ofInt n)

/-- The whole part, with what does not fit into a machine word brought to its nearest bound. -/
def toInt (x : Float) : Int :=
  match ratio x with
  | .quotient negative num den =>
    if negative then max (-(2 ^ 63)) (-((num / den : Nat) : Int))
    else min (2 ^ 64 - 1) (num / den : Nat)
  | .infinite negative => if negative then -(2 ^ 63) else 2 ^ 64 - 1
  | .nan _ => -(2 ^ 63)

/-- The whole number that a number is, if it is one in the range of machine words. -/
def whole? (x : Float) : Option Int :=
  match ratio x with
  | .quotient negative num den =>
    if num % den != 0 then none
    else
      let n := num / den
      if negative then (if n ≤ 2 ^ 63 then some (-(n : Int)) else none)
      else if n < 2 ^ 64 then some n
      else if n == 2 ^ 64 then some (2 ^ 64 - 1)
      else none
  | _ => none

/-- The number at the front of a text, zero for none. -/
def ofText (cs : Octets) : Float := ((Ratio.read? cs).map fun (r, _) => ofRatio r).getD 0

/-- The number that a text looks like as a whole. -/
def ofWhole? (cs : Octets) : Option Float :=
  match Ratio.read? cs with
  | some (r, rest) => if (Octets.trimLeft rest).isEmpty then some (ofRatio r) else none
  | none => none

/-- A number in a format with one conversion. -/
def formatted (format : Octets) (x : Float) : Octets :=
  (Format.parts "diouxXcseEfFgG".toList "hlLqjzt".toList (format.length + 1) format).flatMap fun part =>
    match part with
    | .text text => text
    | .bad text => text
    | .conversion c =>
      if "eEfFgG".toList.contains c.letter then c.real (ratio x) else c.integer (toInt x)

/-- A number as a text: whole ones as they are, and others in a format. -/
def text (format : Octets) (x : Float) : Octets :=
  match whole? x with
  | some n => Octets.ofInt n
  | none => formatted format x

end Number

/-- A value. -/
inductive Value where
  | unset
  | number (x : Float)
  | text (cs : Octets)
  /-- A text from the input. -/
  | given (cs : Octets)

namespace Value

/-- The value as a number. -/
def toNumber : Value → Float
  | unset => 0
  | number x => x
  | text cs | given cs => Number.ofText cs

/-- The value as a text; numbers that are not whole are written in a format. -/
def toText (format : Octets) : Value → Octets
  | unset => []
  | number x => Number.text format x
  | text cs | given cs => cs

/-- The number that the value counts as in comparisons, if it is one. -/
def number? : Value → Option Float
  | unset => some 0
  | number x => some x
  | text _ => none
  | given cs => Number.ofWhole? cs

/-- The value as a condition. -/
def holds : Value → Bool
  | unset => false
  | number x => x != 0
  | text cs => !cs.isEmpty
  | given cs =>
    match Number.ofWhole? cs with
    | some x => x != 0
    | none => !cs.isEmpty

/-- A condition as a value. -/
def ofBool (b : Bool) : Value := number (if b then 1 else 0)

/-- A whole number as a value. -/
def ofInt (n : Int) : Value := number (Number.ofInt n)

/-- How two values stand to each other: as numbers if both are numbers, otherwise as texts. -/
def compare (format : Octets) (a b : Value) : Option Ordering :=
  let asTexts : Option Ordering :=
    let s := a.toText format
    let t := b.toText format
    some (if s == t then .eq else if Octets.le s t then .lt else .gt)
  match a, b with
  | unset, text _ => asTexts
  | text _, unset => asTexts
  | a, b =>
    match a.number?, b.number? with
    | some x, some y =>
      if x < y then some .lt else if y < x then some .gt else if x == y then some .eq else none
    | _, _ => asTexts

end Value

end Codemod.Shell.Awk

/-!
## Substitution and formatted text

- `Awk.Substitute.parts` — what matches are replaced by
- `Awk.substituted` — a text with its matches replaced
- `Awk.printed` — values in a format
-/

namespace Codemod.Shell.Awk

/-- A part of what a match is replaced by. -/
inductive Substitute where
  | text (cs : Octets)
  /-- The match itself. -/
  | taken

/-- The parts of a text. An ampersand stands for the match; of the backslashes in front of it every
second one is kept, and an odd one makes it stand for itself. -/
def Substitute.parts (slashes : Nat) : Octets → List Substitute
  | [] => [text (List.replicate slashes '\\')]
  | '\\' :: rest => parts (slashes + 1) rest
  | '&' :: rest =>
    let kept := List.replicate (slashes / 2) '\\'
    if slashes % 2 == 1 then text (kept ++ ['&']) :: parts 0 rest
    else text kept :: taken :: parts 0 rest
  | c :: rest => text (List.replicate slashes '\\' ++ [c]) :: parts 0 rest

/-- A match with what it is replaced by. -/
def Substitute.applied (parts : List Substitute) (matched : Octets) : Octets :=
  parts.flatMap fun
    | .text cs => cs
    | .taken => matched

/-- A text with its first match replaced, or `all` of them, and how many were replaced. -/
def substituted (all : Bool) (r : Regex) (replacement text : Octets) : Nat × Octets :=
  let parts := Substitute.parts 0 replacement
  let found := if all then r.all text else (r.search? text).toList
  let (pieces, last) := found.foldl
    (fun ((pieces, last) : List Octets × Nat) m =>
      (Substitute.applied parts (m.taken text) :: Regex.slice text last m.start :: pieces, m.stop))
    ([], 0)
  (found.length, (text.drop last :: pieces).reverse.flatten)

/-! ### Formatted text -/

/-- Why values cannot be written in a format. -/
inductive PrintFault where
  | tooFewArguments
  /-- The conversion of a number is none. -/
  | improper (n : Nat)

/-- What is said about it, with the function and its format. -/
def PrintFault.message (function : String) (format : Octets) (fault : PrintFault) : String :=
  let call := s!"{function}(\"{format.toText}\")"
  match fault with
  | tooFewArguments => s!"not enough arguments passed to {call}"
  | improper n => s!"improper conversion(number {n}) in {call}"

/-- A value in a conversion. -/
def converted (numbers : Octets) (c : Conversion) (v : Value) : Octets :=
  match c.letter with
  | 's' => c.text (v.toText numbers)
  | 'c' =>
    let number? : Option Float := match v with
      | .number x => some x
      | .given cs => Number.ofWhole? cs
      | _ => none
    match number? with
    | some x => c.padded [Char.ofNat (Number.toInt x % 256).toNat]
    | none => c.padded (((v.toText numbers) ++ ['\x00']).take 1)
  | 'd' | 'i' =>
    let n := Number.toInt v.toNumber
    c.integer (max n (1 - 2 ^ 63))
  | letter =>
    if "eEfgG".toList.contains letter then c.real (Number.ratio v.toNumber)
    else c.integer (Number.toInt v.toNumber)

/-- A conversion with its lengths taken from values, and the values that are left. -/
def measured (c : Conversion) (vs : List Value) : Option (Conversion × List Value) := do
  let (c, vs) ← match c.width with
    | .fixed _ => some (c, vs)
    | .given =>
      match vs with
      | [] => none
      | v :: vs =>
        let n := Number.toInt v.toNumber
        some ({ c with width := .fixed n.natAbs, left := c.left || n < 0 }, vs)
  match c.precision with
  | some .given =>
    match vs with
    | [] => none
    | v :: vs =>
      let n := Number.toInt v.toNumber
      some ({ c with precision := if n < 0 then none else some (.fixed n.natAbs) }, vs)
  | _ => some (c, vs)

/-- Values in the parts of a format, as far as they can be written. -/
def printedParts (numbers : Octets) (n : Nat) :
    List FormatPart → List Value → Octets × Option PrintFault
  | [], _ => ([], none)
  | .text text :: rest, vs =>
    let (following, fault) := printedParts numbers n rest vs
    (text ++ following, fault)
  | .bad _ :: _, vs => ([], some (if vs.isEmpty then .tooFewArguments else .improper n))
  | .conversion c :: rest, vs =>
    match measured c vs with
    | some (c, v :: vs) =>
      let (following, fault) := printedParts numbers (n + 1) rest vs
      (converted numbers c v ++ following, fault)
    | _ => ([], some .tooFewArguments)

/-- Values in a format, as far as they can be written. -/
def printed (numbers format : Octets) (vs : List Value) : Octets × Option PrintFault :=
  printedParts numbers 1
    (Format.parts "diouxXcseEfgG".toList "hlL".toList (format.length + 1) format) vs

end Codemod.Shell.Awk

/-!
## Tables of record programs

A table has values under texts. The order in which its keys are gone through is that of buckets,
chosen by a hash of the key, with the key that was used last in front. Keys that were only used as
whole numbers have buckets of their own, until one is used as a text.

- `Awk.Table` — tables
- `Awk.Table.ofList` — the table of parts, under the numbers from one on
- `Awk.Table.touch`, `Awk.Table.get`, `Awk.Table.set`, `Awk.Table.remove` — one key
- `Awk.Table.ordered` — all keys in their order
-/

namespace Codemod.Shell.Awk

/-- A key, as it was given. -/
inductive Key where
  | whole (n : Int)
  | text (cs : Octets)

/-- A key as a text. -/
def Key.name : Key → Octets
  | whole n => Octets.ofInt n
  | text cs => cs

/-- A table. -/
structure Table where
  values : Std.HashMap Octets Value := {}
  /-- The keys in the buckets of texts, and those in the buckets of whole numbers. -/
  texts : Array (List Octets) := #[]
  wholes : Array (List Int) := #[]
  /-- All keys are in the buckets of texts. -/
  hasTexts : Bool := false

namespace Table

/-- How many buckets there are at the beginning. -/
def firstSize : Nat := 64

/-- How many keys there may be for each bucket. -/
def maxLoad : Nat := 12

/-- The hash of a text. -/
def hash (cs : Octets) : UInt32 :=
  cs.foldl (fun h c => (h ^^^ c.toNat.toUInt32) * 16777619) 2166136261

/-- The bucket of a text. -/
def textPlace (size : Nat) (cs : Octets) : Nat := (hash cs).toNat % size

/-- The bucket of a whole number. -/
def wholePlace (size : Nat) (n : Int) : Nat := (n % size).toNat

/-- The table with its buckets there. -/
def ready (t : Table) : Table :=
  if t.texts.isEmpty then
    { t with texts := Array.replicate firstSize [], wholes := Array.replicate firstSize [] }
  else t

/-- The table with twice as many buckets. -/
def doubled (t : Table) : Table :=
  let size := 2 * t.texts.size
  let spread {α : Type} (place : α → Nat) (buckets : Array (List α)) : Array (List α) :=
    (buckets ++ buckets).mapIdx fun i keys => keys.filter fun k => place k == i
  { t with texts := spread (textPlace size) t.texts, wholes := spread (wholePlace size) t.wholes }

/-- The table with all keys in the buckets of texts. -/
def withTexts (t : Table) : Table :=
  if t.hasTexts then t
  else
    let t := t.ready
    let keys := t.wholes.toList.flatten.map Octets.ofInt
    { t with
      texts := keys.foldl (fun b k => b.modify (textPlace t.texts.size k) (k :: ·)) t.texts
      hasTexts := true }

/-- The key in front of its bucket of texts. -/
def textFirst (t : Table) (cs : Octets) : Table :=
  { t with texts := t.texts.modify (textPlace t.texts.size cs) fun keys => cs :: keys.erase cs }

/-- The key in front of its bucket of whole numbers. -/
def wholeFirst (t : Table) (n : Int) : Table :=
  { t with wholes := t.wholes.modify (wholePlace t.wholes.size n) fun keys => n :: keys.erase n }

/-- The table with room for one more key. -/
def roomy (t : Table) : Table :=
  if t.texts.size * maxLoad < t.values.size then t.doubled else t

/-- The table after a key was looked for; unless it `creates`, one that is not there is left out. -/
def touch (creates : Bool) (k : Key) (t : Table) : Table :=
  let t := t.ready
  let name := k.name
  let isNew := !t.values.contains name
  if isNew && !creates then
    match k with
    | .whole _ => t
    | .text _ => t.withTexts
  else
    let added (t : Table) : Table :=
      if isNew then ({ t with values := t.values.insert name .unset } : Table).roomy else t
    match k with
    | .text cs => (added t.withTexts).textFirst cs
    | .whole n =>
      let known := (t.wholes[wholePlace t.wholes.size n]?.getD []).contains n
      if known then t.wholeFirst n
      else if t.hasTexts then ((added t).textFirst name).wholeFirst n
      else (added t).wholeFirst n

/-- The key is there. -/
def contains (t : Table) (k : Key) : Bool := t.values.contains k.name

/-- What is under a key. -/
def get (t : Table) (k : Key) : Value := (t.values[k.name]?).getD .unset

/-- The table with a value under a key that is there. -/
def set (k : Key) (v : Value) (t : Table) : Table :=
  { t with values := t.values.insert k.name v }

/-- The table without a key. -/
def remove (k : Key) (t : Table) : Table :=
  let name := k.name
  if !t.values.contains name then t
  else
    let values := t.values.erase name
    if values.isEmpty then {}
    else
      { t with
        values
        texts := t.texts.modify (textPlace t.texts.size name) (·.erase name)
        wholes := t.wholes.map fun keys => keys.filter fun n => Octets.ofInt n != name }

/-- How many keys there are. -/
def size (t : Table) : Nat := t.values.size

/-- The table of values under the numbers from one on. -/
def ofList (vs : List Value) : Table :=
  let count := vs.length
  let size := (List.range 30).foldl
    (fun size _ => if size * maxLoad < count then 2 * size else size) firstSize
  let t : Table :=
    { texts := Array.replicate size [], wholes := Array.replicate size [] }
  (vs.zipIdx 1).foldl
    (fun t (v, i) =>
      { t with
        values := t.values.insert (Octets.ofNat i) v
        wholes := t.wholes.modify (i % size) ((i : Int) :: ·) })
    t

/-- All keys in their order. -/
def ordered (t : Table) : List Octets := t.withTexts.texts.toList.flatten

end Table

end Codemod.Shell.Awk
