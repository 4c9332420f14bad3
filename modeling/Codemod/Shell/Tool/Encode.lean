import Codemod.Shell.Tool.Lines

/-!
# Octets as digits of larger bases

Groups of octets are written as digits of so many bits, and the last group is filled up with a sign.

- `DigitCode.encode`, `DigitCode.decode` — digits of octets and octets of digits
- `Tool.base64`, `Tool.base32`, `Tool.anyBase` — the tools
-/

namespace Codemod.Shell

/-- A way to write octets as digits. -/
structure DigitCode where
  /-- The digits, in the order of their values. -/
  digits : List Char
  /-- How many bits a digit stands for. -/
  bits : Nat
  /-- How many digits a full group has. -/
  group : Nat

namespace DigitCode

/-- Capital letters, small ones, figures and two signs. -/
def letters64 (last : List Char) : DigitCode :=
  ⟨"ABCDEFGHIJKLMNOPQRSTUVWXYZabcdefghijklmnopqrstuvwxyz0123456789".toList ++ last, 6, 4⟩

/-- Digits of six bits. -/
def base64 : DigitCode := letters64 ['+', '/']

/-- Digits of six bits that may stand in an address. -/
def base64url : DigitCode := letters64 ['-', '_']

/-- Digits of five bits. -/
def base32 : DigitCode := ⟨"ABCDEFGHIJKLMNOPQRSTUVWXYZ234567".toList, 5, 8⟩

/-- Digits of five bits that keep the order of octets. -/
def base32hex : DigitCode := ⟨"0123456789ABCDEFGHIJKLMNOPQRSTUV".toList, 5, 8⟩

/-- Digits of four bits. -/
def base16 : DigitCode := ⟨"0123456789ABCDEF".toList, 4, 2⟩

/-- How many octets make a full group. -/
def octetsPerGroup (c : DigitCode) : Nat := c.bits * c.group / 8

/-- The digits of a group of octets, filled up to a full group. -/
def encodeGroup (c : DigitCode) (cs : Octets) : Octets :=
  let count := (8 * cs.length + c.bits - 1) / c.bits
  let n := cs.foldl (fun n d => n * 256 + d.toNat) 0 * 2 ^ (count * c.bits - 8 * cs.length)
  let digit (i : Nat) : Char := c.digits.getD (n / 2 ^ (c.bits * (count - 1 - i)) % 2 ^ c.bits) '='
  (List.range count).map digit ++ List.replicate (c.group - count) '='

/-- The digits of octets. -/
def encode (c : DigitCode) (fuel : Nat) (cs : Octets) : Octets :=
  match fuel, cs with
  | 0, _ | _, [] => []
  | fuel + 1, cs =>
    c.encodeGroup (cs.take c.octetsPerGroup) ++ c.encode fuel (cs.drop c.octetsPerGroup)

/-- The octets of the digits of a group, and whether the group is complete. -/
def decodeGroup (c : DigitCode) (ds : Octets) : Octets × Bool :=
  let own := ds.takeWhile c.digits.contains
  let count := own.length * c.bits / 8
  let n := own.foldl (fun n d => n * 2 ^ c.bits + (c.digits.idxOf? d).getD 0) 0
  let n := n / 2 ^ (own.length * c.bits - 8 * count)
  let octet (i : Nat) : Char := Char.ofNat (n / 256 ^ (count - 1 - i) % 256)
  let filled := (ds.drop own.length).all (· == '=')
  let exact := (8 * count + c.bits - 1) / c.bits == own.length
  ((List.range count).map octet, ds.length == c.group && filled && exact && own.length > 0)

/-- The octets of digits, up to the first group that is not complete, and whether all groups are. -/
def decode (c : DigitCode) (fuel : Nat) (ds : Octets) : Octets × Bool :=
  match fuel, ds with
  | 0, _ | _, [] => ([], true)
  | fuel + 1, ds =>
    let (cs, complete) := c.decodeGroup (ds.take c.group)
    if complete then
      let (more, complete) := c.decode fuel (ds.drop c.group)
      (cs ++ more, complete)
    else (cs, false)

end DigitCode

namespace Tool

/-- A text in lines of so many octets; zero means one line without an end. -/
def wrapped (width fuel : Nat) (cs : Octets) : Octets :=
  match fuel, cs with
  | 0, _ | _, [] => []
  | fuel + 1, cs =>
    if width == 0 then cs else cs.take width ++ '\n' :: wrapped width fuel (cs.drop width)

/-- Writes octets as digits or reads them. -/
def transcribe (code : Options → Option DigitCode) (more : String) : List Octets → Tool Nat :=
  withOptions ("d,decode D i,ignore-garbage w,wrap: " ++ more) 1 fun o => do
  let some code := code o | refuse 1 "missing encoding type"
  let wrap := (o.value? "w").getD ['7', '6']
  match natural? wrap, o.operands with
  | none, _ =>
    blame s!"invalid wrap size: {quoted wrap}"
    return 1
  | _, _ :: extra :: _ => extraOperand 1 extra
  | some width, names =>
    let name := names.headD ['-']
    match ← contentOf name with
    | .error cause =>
      if cause == .isDirectory then blame s!"read error: {reason cause}" else blameFor name cause
      return 1
    | .ok text =>
      if o.has "d" || o.has "D" then
        let isDigit (c : Char) : Bool := code.digits.contains c || c == '='
        let ds := if o.has "i" then text.filter isDigit else text.filter (· != '\n')
        let (cs, complete) := code.decode (ds.length + 1) ds
        say cs
        if complete then return 0
        blame "invalid input"
        return 1
      else
        let ds := code.encode (text.length + 1) text
        say (wrapped width (ds.length + 1) ds)
        return 0

/-- Digits of six bits. -/
def base64 : List Octets → Tool Nat := transcribe (fun _ => some .base64) ""

/-- Digits of five bits. -/
def base32 : List Octets → Tool Nat := transcribe (fun _ => some .base32) ""

/-- Digits of a base that an option names. -/
def anyBase : List Octets → Tool Nat :=
  let codes : List (String × DigitCode) :=
    [("base64", .base64), ("base64url", .base64url), ("base32", .base32), ("base32hex", .base32hex),
      ("base16", .base16)]
  transcribe (fun o => (o.last? (codes.map Prod.fst)).bind fun name => codes.lookup name)
    (String.intercalate " " (codes.map Prod.fst))

end Tool

end Codemod.Shell
