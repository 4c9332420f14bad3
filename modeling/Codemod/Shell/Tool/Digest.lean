import Codemod.Shell.Octets
import Codemod.Shell.Tool.Lines

/-!
# Digests

A digest is a number of a fixed size that stands for a text. The sums of the older kinds follow the
text octet by octet; the others mix it block by block into words.

- `Digest.crc`, `Digest.rotatingSum`, `Digest.plainSum` — sums
- `Digest.md5`, `Digest.sha1`, `Digest.sha2`, `Digest.blake2b` — digests of blocks
-/

namespace Codemod.Shell.Digest

/-! ### Sums -/

/-- The remainder after eight bits more, highest bit first. -/
def crcStep (crc octet : Nat) : Nat :=
  (List.range 8).foldl (fun r _ =>
    if r / 2 ^ 31 == 1 then (2 * r) % 2 ^ 32 ^^^ 0x04c11db7 else 2 * r) (crc ^^^ octet * 2 ^ 24)

/-- The octets of a number, lowest first, as many as it takes. -/
def lengthOctets (fuel n : Nat) : List Nat :=
  match fuel with
  | 0 => []
  | fuel + 1 => if n == 0 then [] else n % 256 :: lengthOctets fuel (n / 256)

/-- The cyclic sum of a text and its length. -/
def crc (cs : Octets) : Nat :=
  let octets := cs.map Char.toNat ++ lengthOctets 8 cs.length
  octets.foldl crcStep 0 ^^^ (2 ^ 32 - 1)

/-- A sum of 16 bits that is rotated before each octet. -/
def rotatingSum (cs : Octets) : Nat :=
  cs.foldl (fun s c => (s / 2 + s % 2 * 2 ^ 15 + c.toNat) % 2 ^ 16) 0

/-- The sum of the octets, folded into 16 bits. -/
def plainSum (cs : Octets) : Nat :=
  let s := (cs.map Char.toNat).foldl (· + ·) 0 % 2 ^ 32
  let r := s % 2 ^ 16 + s / 2 ^ 16
  r % 2 ^ 16 + r / 2 ^ 16

/-! ### Words -/

/-- A word of `w` bits rotated to the left. -/
def rotl (w n x : Nat) : Nat := (x * 2 ^ n + x / 2 ^ (w - n)) % 2 ^ w

/-- A word of `w` bits rotated to the right. -/
def rotr (w n x : Nat) : Nat := rotl w (w - n) x

/-- All bits of a word of `w` bits the other way round. -/
def inverted (w x : Nat) : Nat := 2 ^ w - 1 - x

/-- A number as so many octets, lowest first. -/
def lowFirst (count n : Nat) : List Nat := (List.range count).map fun i => n / 256 ^ i % 256

/-- A number as so many octets, highest first. -/
def highFirst (count n : Nat) : List Nat := (lowFirst count n).reverse

/-- The number of octets, highest first. -/
def ofHighFirst (octets : List Nat) : Nat := octets.foldl (fun n o => n * 256 + o) 0

/-- Lists of so many elements, one after another. -/
def chunks {α : Type} (size fuel : Nat) (xs : List α) : List (List α) :=
  match fuel, xs with
  | 0, _ | _, [] => []
  | fuel + 1, xs => xs.take size :: chunks size fuel (xs.drop size)

/-- The octets of a text, an end mark and the text's length in bits, filled up to blocks of
words. -/
def padded (size : Nat) (ending : Nat → List Nat) (cs : Octets) : List (List Nat) :=
  let octets := cs.map Char.toNat ++ [128]
  let tail := ending (8 * cs.length)
  let filling := (size - (octets.length + tail.length) % size) % size
  let all := octets ++ List.replicate filling 0 ++ tail
  chunks size (all.length + 1) all

/-- Digits of base 16 of octets. -/
def hex (octets : List Nat) : Octets :=
  octets.flatMap fun o => Nat.toDigits 16 (o / 16) ++ Nat.toDigits 16 (o % 16)

/-! ### Digests of blocks -/

/-- The additive constants of the four times sixteen steps: parts of sines. -/
def sines : Array Nat :=
  #[
    0xd76aa478, 0xe8c7b756, 0x242070db, 0xc1bdceee, 0xf57c0faf, 0x4787c62a, 0xa8304613, 0xfd469501,
    0x698098d8, 0x8b44f7af, 0xffff5bb1, 0x895cd7be, 0x6b901122, 0xfd987193, 0xa679438e, 0x49b40821,
    0xf61e2562, 0xc040b340, 0x265e5a51, 0xe9b6c7aa, 0xd62f105d, 0x02441453, 0xd8a1e681, 0xe7d3fbc8,
    0x21e1cde6, 0xc33707d6, 0xf4d50d87, 0x455a14ed, 0xa9e3e905, 0xfcefa3f8, 0x676f02d9, 0x8d2a4c8a,
    0xfffa3942, 0x8771f681, 0x6d9d6122, 0xfde5380c, 0xa4beea44, 0x4bdecfa9, 0xf6bb4b60, 0xbebfbc70,
    0x289b7ec6, 0xeaa127fa, 0xd4ef3085, 0x04881d05, 0xd9d4d039, 0xe6db99e5, 0x1fa27cf8, 0xc4ac5665,
    0xf4292244, 0x432aff97, 0xab9423a7, 0xfc93a039, 0x655b59c3, 0x8f0ccc92, 0xffeff47d, 0x85845dd1,
    0x6fa87e4f, 0xfe2ce6e0, 0xa3014314, 0x4e0811a1, 0xf7537e82, 0xbd3af235, 0x2ad7d2bb, 0xeb86d391]

/-- How far the steps of a round rotate. -/
def md5Rotations : List (List Nat) :=
  [[7, 12, 17, 22], [5, 9, 14, 20], [4, 11, 16, 23], [6, 10, 15, 21]]

/-- A block mixed into four words. -/
def md5Block (state : List Nat) (block : List Nat) : List Nat :=
  let words := ((chunks 4 17 block).map fun o => ofHighFirst o.reverse).toArray
  let step (s : Nat × Nat × Nat × Nat) (i : Nat) : Nat × Nat × Nat × Nat :=
    let (a, b, c, d) := s
    let (f, g) := match i / 16 with
      | 0 => ((b &&& c) ||| (inverted 32 b &&& d), i)
      | 1 => ((d &&& b) ||| (inverted 32 d &&& c), 5 * i + 1)
      | 2 => (b ^^^ c ^^^ d, 3 * i + 5)
      | _ => (c ^^^ (b ||| inverted 32 d), 7 * i)
    let sum := (a + f + sines.getD i 0 + words.getD (g % 16) 0) % 2 ^ 32
    let far := ((md5Rotations.getD (i / 16) []).getD (i % 4) 0)
    (d, (b + rotl 32 far sum) % 2 ^ 32, b, c)
  match state with
  | [a, b, c, d] =>
    let (x, y, z, u) := (List.range 64).foldl step (a, b, c, d)
    [(a + x) % 2 ^ 32, (b + y) % 2 ^ 32, (c + z) % 2 ^ 32, (d + u) % 2 ^ 32]
  | state => state

/-- A digest of 128 bits. -/
def md5 (cs : Octets) : List Nat :=
  let start := [0x67452301, 0xefcdab89, 0x98badcfe, 0x10325476]
  ((padded 64 (lowFirst 8) cs).foldl md5Block start).flatMap (lowFirst 4)

/-- A block mixed into five words. -/
def sha1Block (state : List Nat) (block : List Nat) : List Nat :=
  let first := ((chunks 4 17 block).map ofHighFirst).toArray
  let words := (List.range 64).foldl (fun (ws : Array Nat) k =>
    let earlier (back : Nat) : Nat := ws.getD (k + 16 - back) 0
    ws.push (rotl 32 1 (earlier 3 ^^^ earlier 8 ^^^ earlier 14 ^^^ earlier 16))) first
  let step (s : Nat × Nat × Nat × Nat × Nat) (i : Nat) : Nat × Nat × Nat × Nat × Nat :=
    let (a, b, c, d, e) := s
    let (f, k) := match i / 20 with
      | 0 => ((b &&& c) ||| (inverted 32 b &&& d), 0x5a827999)
      | 1 => (b ^^^ c ^^^ d, 0x6ed9eba1)
      | 2 => ((b &&& c) ||| (b &&& d) ||| (c &&& d), 0x8f1bbcdc)
      | _ => (b ^^^ c ^^^ d, 0xca62c1d6)
    ((rotl 32 5 a + f + e + k + words.getD i 0) % 2 ^ 32, a, rotl 32 30 b, c, d)
  match state with
  | [a, b, c, d, e] =>
    let (x, y, z, u, v) := (List.range 80).foldl step (a, b, c, d, e)
    [a + x, b + y, c + z, d + u, e + v].map (· % 2 ^ 32)
  | state => state

/-- A digest of 160 bits. -/
def sha1 (cs : Octets) : List Nat :=
  let start := [0x67452301, 0xefcdab89, 0x98badcfe, 0x10325476, 0xc3d2e1f0]
  ((padded 64 (highFirst 8) cs).foldl sha1Block start).flatMap (highFirst 4)

/-- The first primes, as many as are asked for. -/
def primes (count : Nat) : List Nat :=
  (((List.range 450).filter fun n =>
    2 ≤ n && (List.range n).all fun d => d < 2 || n % d != 0)).take count

/-- The greatest number whose power is not above a bound, looked for bit by bit. -/
def root (power bits bound : Nat) : Nat :=
  (List.range bits).foldl (fun r i =>
    let next := r + 2 ^ (bits - 1 - i)
    if next ^ power ≤ bound then next else r) 0

/-- The first `w` bits of the fraction of a root of a number. -/
def rootFraction (power w n : Nat) : Nat := root power (w + 6) (n * 2 ^ (power * w)) % 2 ^ w

/-- How far the mixing functions rotate or shift; the third of each small one is a shift. -/
structure Mixing where
  rounds : Nat
  bigA : List Nat
  bigE : List Nat
  small0 : Nat × Nat × Nat
  small1 : Nat × Nat × Nat

/-- The mixing of words of 32 bits. -/
def mixing32 : Mixing := ⟨64, [2, 13, 22], [6, 11, 25], (7, 18, 3), (17, 19, 10)⟩

/-- The mixing of words of 64 bits. -/
def mixing64 : Mixing := ⟨80, [28, 34, 39], [14, 18, 41], (1, 8, 7), (19, 61, 6)⟩

/-- A block mixed into eight words of `w` bits. -/
def sha2Block (w : Nat) (m : Mixing) (constants : Array Nat) (state : List Nat) (block : List Nat) :
    List Nat :=
  let small (s : Nat × Nat × Nat) (x : Nat) : Nat :=
    rotr w s.1 x ^^^ rotr w s.2.1 x ^^^ x / 2 ^ s.2.2
  let big (s : List Nat) (x : Nat) : Nat := s.foldl (fun n far => n ^^^ rotr w far x) 0
  let first := ((chunks (w / 8) 17 block).map ofHighFirst).toArray
  let words := (List.range (m.rounds - 16)).foldl (fun (ws : Array Nat) k =>
    let earlier (back : Nat) : Nat := ws.getD (k + 16 - back) 0
    ws.push ((earlier 16 + small m.small0 (earlier 15) + earlier 7 + small m.small1 (earlier 2)) % 2 ^ w)) first
  let step (s : List Nat) (i : Nat) : List Nat :=
    match s with
    | [a, b, c, d, e, f, g, h] =>
      let choice := (e &&& f) ^^^ (inverted w e &&& g)
      let majority := (a &&& b) ^^^ (a &&& c) ^^^ (b &&& c)
      let t := h + big m.bigE e + choice + constants.getD i 0 + words.getD i 0
      [(t + big m.bigA a + majority) % 2 ^ w, a, b, c, (d + t) % 2 ^ w, e, f, g]
    | s => s
  let after := (List.range m.rounds).foldl step state
  (state.zip after).map fun (x, y) => (x + y) % 2 ^ w

/-- A digest of 224, 256, 384 or 512 bits. -/
def sha2 (bits : Nat) (cs : Octets) : List Nat :=
  let w := if bits ≤ 256 then 32 else 64
  let m := if bits ≤ 256 then mixing32 else mixing64
  let constants := ((primes m.rounds).map (rootFraction 3 w)).toArray
  let later := (primes 16).drop 8
  let start := match bits with
    | 224 => later.map fun p => rootFraction 2 64 p % 2 ^ 32
    | 384 => later.map (rootFraction 2 64)
    | _ => (primes 8).map (rootFraction 2 w)
  let blocks := padded (2 * w) (highFirst (w / 4)) cs
  ((blocks.foldl (sha2Block w m constants) start).flatMap (highFirst (w / 8))).take (bits / 8)

/-- The orders in which the rounds take the words of a block. -/
def blakeOrders : List (List Nat) :=
  [[0, 1, 2, 3, 4, 5, 6, 7, 8, 9, 10, 11, 12, 13, 14, 15],
    [14, 10, 4, 8, 9, 15, 13, 6, 1, 12, 0, 2, 11, 7, 5, 3],
    [11, 8, 12, 0, 5, 2, 15, 13, 10, 14, 3, 6, 7, 1, 9, 4],
    [7, 9, 3, 1, 13, 12, 11, 14, 2, 6, 5, 10, 4, 0, 15, 8],
    [9, 0, 5, 7, 2, 4, 10, 15, 14, 1, 11, 12, 6, 8, 3, 13],
    [2, 12, 6, 10, 0, 11, 8, 3, 4, 13, 7, 5, 15, 14, 1, 9],
    [12, 5, 1, 15, 14, 13, 4, 10, 0, 7, 6, 3, 9, 2, 8, 11],
    [13, 11, 7, 14, 12, 1, 3, 9, 5, 0, 15, 4, 8, 6, 2, 10],
    [6, 15, 14, 9, 11, 3, 0, 8, 12, 2, 13, 7, 1, 4, 10, 5],
    [10, 2, 8, 4, 7, 6, 1, 5, 15, 11, 9, 14, 3, 12, 13, 0]]

/-- The places that the eight mixings of a round take. -/
def blakePlaces : List (Nat × Nat × Nat × Nat) :=
  [(0, 4, 8, 12), (1, 5, 9, 13), (2, 6, 10, 14), (3, 7, 11, 15), (0, 5, 10, 15), (1, 6, 11, 12),
    (2, 7, 8, 13), (3, 4, 9, 14)]

/-- Two words of a block mixed into four places. -/
def blakeMix (v : Array Nat) (p : Nat × Nat × Nat × Nat) (x y : Nat) : Array Nat :=
  let (i, j, k, l) := p
  let (a, b, c, d) := (v.getD i 0, v.getD j 0, v.getD k 0, v.getD l 0)
  let a := (a + b + x) % 2 ^ 64
  let d := rotr 64 32 (d ^^^ a)
  let c := (c + d) % 2 ^ 64
  let b := rotr 64 24 (b ^^^ c)
  let a := (a + b + y) % 2 ^ 64
  let d := rotr 64 16 (d ^^^ a)
  let c := (c + d) % 2 ^ 64
  let b := rotr 64 63 (b ^^^ c)
  (((v.set! i a).set! j b).set! k c).set! l d

/-- A block mixed into eight words; `count` octets have been read, and `last` tells that no more
follow. -/
def blakeBlock (start state : List Nat) (count : Nat) (last : Bool) (block : List Nat) : List Nat :=
  let words := ((chunks 8 17 block).map fun o => ofHighFirst o.reverse).toArray
  let v := (state ++ start).toArray
  let v := v.set! 12 (v.getD 12 0 ^^^ count)
  let v := if last then v.set! 14 (inverted 64 (v.getD 14 0)) else v
  let round (v : Array Nat) (i : Nat) : Array Nat :=
    let order := blakeOrders.getD (i % 10) []
    blakePlaces.zipIdx.foldl (fun v (p, k) =>
      blakeMix v p (words.getD (order.getD (2 * k) 0) 0) (words.getD (order.getD (2 * k + 1) 0) 0)) v
  let v := (List.range 12).foldl round v
  state.zipIdx.map fun (h, i) => h ^^^ v.getD i 0 ^^^ v.getD (i + 8) 0

/-- A digest of 512 bits. -/
def blake2b (cs : Octets) : List Nat :=
  let start := (primes 8).map (rootFraction 2 64)
  let state := match start with
    | h :: rest => (h ^^^ 0x01010040) :: rest
    | [] => []
  let octets := cs.map Char.toNat
  let blocks := if octets.isEmpty then [[]] else chunks 128 (octets.length + 1) octets
  let final := blocks.zipIdx.foldl (fun state (block, i) =>
    blakeBlock start state (min cs.length (128 * (i + 1))) (i + 1 == blocks.length)
      (block ++ List.replicate (128 - block.length) 0)) state
  final.flatMap (lowFirst 8)

end Codemod.Shell.Digest

/-!
## Sums of files

- `DigestKind` — a way to sum up a file
- `Tool.digests` — a tool for one of them
- `Tool.anyDigest` — the tool that has them all
- `Tool.sums` — the tool for the oldest sums
-/

namespace Codemod.Shell

/-- A way to sum up a file. -/
inductive DigestKind where
  | bsd
  | sysv
  | crc
  | md5
  | sha1
  | sha2 (bits : Nat)
  | blake2b
deriving DecidableEq

namespace DigestKind

/-- The ways by their names. -/
def named : List (String × DigestKind) :=
  [("bsd", bsd), ("sysv", sysv), ("crc", crc), ("md5", md5), ("sha1", sha1), ("sha224", sha2 224),
    ("sha256", sha2 256), ("sha384", sha2 384), ("sha512", sha2 512), ("blake2b", blake2b)]

/-- The name of a way in front of a digest. -/
def tag : DigestKind → String
  | bsd => "BSD"
  | sysv => "SYSV"
  | crc => "CRC"
  | md5 => "MD5"
  | sha1 => "SHA1"
  | sha2 bits => s!"SHA{bits}"
  | blake2b => "BLAKE2b"

/-- The digest of a text in digits. -/
def digest (k : DigestKind) (cs : Octets) : Octets :=
  match k with
  | md5 => Digest.hex (Digest.md5 cs)
  | sha1 => Digest.hex (Digest.sha1 cs)
  | sha2 bits => Digest.hex (Digest.sha2 bits cs)
  | blake2b => Digest.hex (Digest.blake2b cs)
  | _ => []

/-- How many digits a digest has. -/
def digits : DigestKind → Nat
  | md5 => 32
  | sha1 => 40
  | sha2 bits => bits / 4
  | _ => 128

/-- The way is one of the sums. -/
def isSum (k : DigestKind) : Bool := k == bsd || k == sysv || k == crc

/-- The sum of a text with its size. -/
def sum (k : DigestKind) (cs : Octets) : String :=
  let blocks (size : Nat) : Nat := (cs.length + size - 1) / size
  match k with
  | bsd =>
    let front := String.ofList (Octets.padLeft 5 (Octets.ofNat (Digest.rotatingSum cs)) '0')
    let back := String.ofList (Octets.padLeft 5 (Octets.ofNat (blocks 1024)))
    s!"{front} {back}"
  | sysv => s!"{Digest.plainSum cs} {blocks 512}"
  | _ => s!"{Digest.crc cs} {cs.length}"

end DigestKind

namespace Tool

/-- A name in a row; an octet that would break the row is escaped, and then a backslash starts
it. -/
def rowName (name : Octets) : Octets × Octets :=
  if name.any fun c => c == '\\' || c == '\n' || c == '\r' then
    (['\\'], name.flatMap fun c =>
      match c with
      | '\\' => ['\\', '\\']
      | '\n' => ['\\', 'n']
      | '\r' => ['\\', 'r']
      | c => [c])
  else ([], name)

/-- Prints the sums of files. -/
def sayDigests (k : DigestKind) (o : Options) (tagged : Bool) : Tool Nat := do
  let ending := if o.has "z" then '\x00' else '\n'
  let mut status := 0
  for name in o.sources do
    match ← contentOf name with
    | .error cause =>
      blameFor name cause
      status := 1
    | .ok text =>
      if k.isSum then
        sayText (k.sum text)
        if !o.operands.isEmpty then say (' ' :: name)
        say [ending]
      else
        let digest := k.digest text
        let (mark, shown) := if o.has "z" then ([], name) else rowName name
        if tagged then
          say (mark ++ k.tag.toList ++ " (".toList ++ shown ++ ") = ".toList ++ digest ++ [ending])
        else say (mark ++ digest ++ [' ', if o.has "b" then '*' else ' '] ++ shown ++ [ending])
  return status

/-- The digest and the name in a row of a list; none when the row has another form. -/
def digestRow? (k : DigestKind) (row : Octets) : Option (Octets × Octets) :=
  let isDigest (ds : Octets) : Bool :=
    ds.length == k.digits && ds.all fun c => c.isDigit || ('a' ≤ c.toLower && c.toLower ≤ 'f')
  let front := k.tag.toList ++ " (".toList
  if front.isPrefixOf row then
    let rest := row.drop front.length
    let digest := rest.drop (rest.length - k.digits)
    let name := rest.take (rest.length - k.digits)
    if isDigest digest && ") = ".toList.isSuffixOf name then
      some (digest, name.take (name.length - 4))
    else none
  else
    let (digest, rest) := row.span (· != ' ')
    match rest with
    | ' ' :: mark :: name =>
      if isDigest digest && (mark == ' ' || mark == '*') && !name.isEmpty then some (digest, name)
      else none
    | _ => none

/-- A number of things, with the sentence for one of them or for several. -/
def counted (n : Nat) (one several : String) : String :=
  if n == 1 then s!"1 {one}" else s!"{n} {several}"

/-- Checks files against lists of digests. -/
def checkDigests (k : DigestKind) (o : Options) : Tool Nat := do
  let mut status := 0
  for list in o.sources do
    match ← contentOf list with
    | .error cause =>
      blameFor list cause
      status := 1
    | .ok text =>
      let rows := Octets.pieces '\n' text
      let mut (proper, missing, failed, badRows) := (0, 0, 0, 0)
      for (row, i) in rows.zipIdx do
        match digestRow? k row with
        | none =>
          if o.has "w" then
            blame s!"{shown list}: {i + 1}: improperly formatted {k.tag} checksum line"
          badRows := badRows + 1
        | some (digest, name) =>
          proper := proper + 1
          match ← contentOf name with
          | .error cause =>
            blameFor name cause
            if !o.has "status" then say (name ++ ": FAILED open or read\n".toList)
            missing := missing + 1
          | .ok text =>
            if k.digest text == digest.map Char.toLower then
              if !o.has "quiet" && !o.has "status" then say (name ++ ": OK\n".toList)
            else
              if !o.has "status" then say (name ++ ": FAILED\n".toList)
              failed := failed + 1
      if proper == 0 then
        blame s!"{shown list}: no properly formatted checksum lines found"
        status := 1
      else
        if !o.has "status" then
          if badRows > 0 then
            blame ("WARNING: " ++ counted badRows "line is improperly formatted"
              "lines are improperly formatted")
          if missing > 0 then
            blame ("WARNING: " ++ counted missing "listed file could not be read"
              "listed files could not be read")
          if failed > 0 then
            blame ("WARNING: " ++ counted failed "computed checksum did NOT match"
              "computed checksums did NOT match")
        if missing > 0 || failed > 0 then status := 1
  return status

/-- The options of all tools for digests. -/
def digestOptions : String :=
  "b,binary c,check t,text tag z,zero quiet status w,warn strict ignore-missing"

/-- A tool for one way of summing up. -/
def digests (k : DigestKind) : List Octets → Tool Nat :=
  withOptions digestOptions 1 fun o =>
    if o.has "c" then checkDigests k o else sayDigests k o (o.has "tag")

/-- Sums up files in a way that an option names. -/
def anyDigest : List Octets → Tool Nat :=
  withOptions ("a,algorithm: untagged " ++ digestOptions) 1 fun o => do
  let name := (o.value? "a").getD "crc".toList
  match DigestKind.named.lookup name.toText with
  | none =>
    let names := DigestKind.named.map Prod.fst ++ ["sm3"]
    refuse 1 (s!"invalid argument {quoted name} for '--algorithm'\nValid arguments are:\n"
      ++ String.intercalate "\n" (names.map fun n => s!"  - '{n}'"))
  | some k => if o.has "c" then checkDigests k o else sayDigests k o (!o.has "untagged")

/-- Prints the oldest sums of files. -/
def sums : List Octets → Tool Nat :=
  withOptions "r s,sysv" 1 fun o =>
    sayDigests (if o.last? ["r", "s"] == some "s" then .sysv else .bsd) o false

end Tool

end Codemod.Shell
