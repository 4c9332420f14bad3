import Codemod.Instance

/-!
# Changes between two rows of things

Which elements of two rows have to be taken out and put in to make one of the other, with as few
changes as possible. The search goes along the diagonals of the table of all pairs from both corners
at once until the two meet, and then goes on in the two parts.

- `Changes.compare` — what is changed in each of two rows
- `Changes.hunks` — the changes as runs of neighbours
-/

namespace Codemod.Shell

/-- Neighbours in two rows that stand for each other. -/
structure Hunk where
  /-- How many elements stand before it in the first row. -/
  first : Nat
  removed : Nat
  /-- How many elements stand before it in the second row. -/
  second : Nat
  added : Nat
deriving DecidableEq

namespace Changes

variable {α : Type} [BEq α]

/-- A part of the table of pairs: from one corner to the other. -/
structure Area where
  xoff : Nat
  xlim : Nat
  yoff : Nat
  ylim : Nat

/-- How far equal pairs go on from a place. -/
def forward (a b : Array α) (area : Area) (fuel x y : Nat) : Nat :=
  match fuel with
  | 0 => x
  | fuel + 1 =>
    if x < area.xlim && y < area.ylim && a[x]? == b[y]? then forward a b area fuel (x + 1) (y + 1)
    else x

/-- How far equal pairs go back from a place. -/
def backward (a b : Array α) (area : Area) (fuel x y : Nat) : Nat :=
  match fuel with
  | 0 => x
  | fuel + 1 =>
    if area.xoff < x && area.yoff < y && a[x - 1]? == b[y - 1]? then
      backward a b area fuel (x - 1) (y - 1)
    else x

/-- How far the two searches have come on each diagonal, and which diagonals they have reached. The
place of a diagonal in the arrays is its number and `shift`. -/
structure Search where
  shift : Int
  fd : Array Int
  bd : Array Int
  fmin : Int
  fmax : Int
  bmin : Int
  bmax : Int

/-- What is known of a diagonal. -/
def Search.at (s : Search) (table : Array Int) (d : Int) : Int := table.getD (d + s.shift).toNat 0

/-- The diagonals from one down to another in steps of two. -/
def diagonals (first last : Int) : List Int :=
  if first < last then [] else
    (List.range (((first - last) / 2).toNat + 1)).map fun (i : Nat) => first - 2 * i

/-- More than any place in a row. -/
def beyond : Int := 2 ^ 60

/-- One step of the search from the first corner; the place where it meets the other one, if it
does. -/
def stepForward (a b : Array α) (area : Area) (dmin dmax : Int) (odd : Bool) (s : Search) :
    Search × Option (Nat × Nat) :=
  let put (table : Array Int) (d x : Int) := table.setIfInBounds (d + s.shift).toNat x
  let (fmin, fd) :=
    if dmin < s.fmin then (s.fmin - 1, put s.fd (s.fmin - 2) (-1)) else (s.fmin + 1, s.fd)
  let (fmax, fd) :=
    if s.fmax < dmax then (s.fmax + 1, put fd (s.fmax + 2) (-1)) else (s.fmax - 1, fd)
  let (fd, met) := (diagonals fmax fmin).foldl (fun (fd, met) d =>
    if met.isSome then (fd, met)
    else
      let (low, high) := (s.at fd (d - 1), s.at fd (d + 1))
      let x := (if low < high then high else low + 1).toNat
      let x := forward a b area (area.xlim + 1) x ((x : Int) - d).toNat
      let fd := put fd d x
      let meets := odd && s.bmin ≤ d && d ≤ s.bmax && s.at s.bd d ≤ x
      (fd, if meets then some (x, ((x : Int) - d).toNat) else none)) (fd, none)
  ({ s with fd, fmin, fmax }, met)

/-- One step of the search from the last corner; the place where it meets the other one, if it
does. -/
def stepBackward (a b : Array α) (area : Area) (dmin dmax : Int) (odd : Bool) (s : Search) :
    Search × Option (Nat × Nat) :=
  let put (table : Array Int) (d x : Int) := table.setIfInBounds (d + s.shift).toNat x
  let (bmin, bd) :=
    if dmin < s.bmin then (s.bmin - 1, put s.bd (s.bmin - 2) beyond) else (s.bmin + 1, s.bd)
  let (bmax, bd) :=
    if s.bmax < dmax then (s.bmax + 1, put bd (s.bmax + 2) beyond) else (s.bmax - 1, bd)
  let (bd, met) := (diagonals bmax bmin).foldl (fun (bd, met) d =>
    if met.isSome then (bd, met)
    else
      let (low, high) := (s.at bd (d - 1), s.at bd (d + 1))
      let x := (if low < high then low else high - 1).toNat
      let x := backward a b area (x + 1) x ((x : Int) - d).toNat
      let bd := put bd d x
      let meets := !odd && s.fmin ≤ d && d ≤ s.fmax && x ≤ s.at s.fd d
      (bd, if meets then some (x, ((x : Int) - d).toNat) else none)) (bd, none)
  ({ s with bd, bmin, bmax }, met)

/-- Searches from both corners until the searches meet. -/
def meeting (a b : Array α) (area : Area) (dmin dmax : Int) (odd : Bool) (fuel : Nat) (s : Search) :
    Nat × Nat :=
  match fuel with
  | 0 => (area.xlim, area.yoff)
  | fuel + 1 =>
    match stepForward a b area dmin dmax odd s with
    | (_, some place) => place
    | (s, none) =>
      match stepBackward a b area dmin dmax odd s with
      | (_, some place) => place
      | (s, none) => meeting a b area dmin dmax odd fuel s

/-- A place in the middle of an area through which a shortest way goes. -/
def middle (a b : Array α) (area : Area) : Nat × Nat :=
  let (xoff, xlim, yoff, ylim) : Int × Int × Int × Int :=
    (area.xoff, area.xlim, area.yoff, area.ylim)
  let (dmin, dmax) := (xoff - ylim, xlim - yoff)
  let (fmid, bmid) := (xoff - yoff, xlim - ylim)
  let shift := 2 - dmin
  let table : Array Int := Array.replicate (dmax - dmin + 5).toNat 0
  let s : Search :=
    { shift
      fd := table.setIfInBounds (fmid + shift).toNat xoff
      bd := table.setIfInBounds (bmid + shift).toNat xlim
      fmin := fmid, fmax := fmid, bmin := bmid, bmax := bmid }
  meeting a b area dmin dmax ((fmid - bmid) % 2 != 0) (a.size + b.size + 2) s

/-- Marks places as changed. -/
def mark (marks : Array Bool) (first last : Nat) : Array Bool :=
  (List.range (last - first)).foldl (fun marks i => marks.setIfInBounds (first + i) true) marks

/-- Marks what is changed in an area of the table. -/
def compareArea (a b : Array α) (fuel : Nat) (area : Area) (marks : Array Bool × Array Bool) :
    Array Bool × Array Bool :=
  match fuel with
  | 0 => (mark marks.1 area.xoff area.xlim, mark marks.2 area.yoff area.ylim)
  | fuel + 1 =>
    let x := forward a b area (area.xlim + 1) area.xoff area.yoff
    let area := { area with xoff := x, yoff := area.yoff + (x - area.xoff) }
    let x := backward a b area (area.xlim + 1) area.xlim area.ylim
    let area := { area with xlim := x, ylim := area.ylim - (area.xlim - x) }
    if area.xoff == area.xlim then (marks.1, mark marks.2 area.yoff area.ylim)
    else if area.yoff == area.ylim then (mark marks.1 area.xoff area.xlim, marks.2)
    else
      let (x, y) := middle a b area
      let marks := compareArea a b fuel { area with xlim := x, ylim := y } marks
      compareArea a b fuel { area with xoff := x, yoff := y } marks

/-! ### Runs of changes -/

/-- A run of changes that is being moved: the marks of its row, where it starts and ends, and the
place in the other row. -/
structure Run where
  marks : Array Bool
  start : Nat
  stop : Nat
  other : Nat

/-- The element is marked. -/
def marked (marks : Array Bool) (i : Nat) : Bool := marks.getD i false

/-- The first place from one on that is not marked. -/
def pastMarks (marks : Array Bool) (fuel i : Nat) : Nat :=
  match fuel with
  | 0 => i
  | fuel + 1 => if marked marks i then pastMarks marks fuel (i + 1) else i

/-- The place before the last unmarked one. -/
def beforeMarks (marks : Array Bool) (fuel i : Nat) : Nat :=
  match fuel with
  | 0 => i
  | fuel + 1 => if i > 0 && marked marks (i - 1) then beforeMarks marks fuel (i - 1) else i

/-- The last place up to one that is not marked. -/
def downToUnmarked (marks : Array Bool) (fuel i : Nat) : Nat :=
  match fuel with
  | 0 => i
  | fuel + 1 => if marked marks i then downToUnmarked marks fuel (i - 1) else i

/-- A run one place further back. -/
def Run.back (others : Array Bool) (merges : Bool) (r : Run) : Run :=
  let marks := (r.marks.setIfInBounds (r.start - 1) true).setIfInBounds (r.stop - 1) false
  let start := r.start - 1
  { marks
    start := if merges then beforeMarks marks start start else start
    stop := r.stop - 1
    other := downToUnmarked others r.other (r.other - 1) }

/-- A run moved back as far as it stays the same change. -/
def Run.fullyBack (row : Array α) (others : Array Bool) (fuel : Nat) (r : Run) : Run :=
  match fuel with
  | 0 => r
  | fuel + 1 =>
    if r.start > 0 && row[r.start - 1]? == row[r.stop - 1]? then
      (r.back others true).fullyBack row others fuel
    else r

/-- A run moved forth as far as it stays the same change, and the last end at which it corresponds
to a change of the other row. -/
def Run.fullyForth (row : Array α) (others : Array Bool) (fuel : Nat) (corresponding : Nat)
    (r : Run) :
    Run × Nat :=
  match fuel with
  | 0 => (r, corresponding)
  | fuel + 1 =>
    if r.stop < row.size && row[r.start]? == row[r.stop]? then
      let marks := (r.marks.setIfInBounds r.start false).setIfInBounds r.stop true
      let stop := pastMarks marks (row.size + 1) (r.stop + 1)
      let other := pastMarks others (others.size + 1) (r.other + 1)
      let corresponding := if marked others (r.other + 1) then stop else corresponding
      ({ marks, start := r.start + 1, stop, other } : Run).fullyForth row others fuel corresponding
    else (r, corresponding)

/-- A run moved back and forth until it does not grow any more. -/
def Run.grown (row : Array α) (others : Array Bool) (fuel : Nat) (r : Run) : Run × Nat :=
  let length := r.stop - r.start
  let moved := r.fullyBack row others (row.size + 1)
  let corresponding :=
    if moved.other > 0 && marked others (moved.other - 1) then moved.stop else row.size
  let (moved, corresponding) := moved.fullyForth row others (row.size + 1) corresponding
  match fuel with
  | 0 => (moved, corresponding)
  | fuel + 1 =>
    if moved.stop - moved.start == length then (moved, corresponding)
    else moved.grown row others fuel

/-- A run moved back to an end. -/
def Run.backTo (others : Array Bool) (stop : Nat) (fuel : Nat) (r : Run) : Run :=
  match fuel with
  | 0 => r
  | fuel + 1 => if stop < r.stop then (r.back others false).backTo others stop fuel else r

/-- Goes over unmarked elements, and over their counterparts. -/
def skipped (marks others : Array Bool) (fuel i j : Nat) : Nat × Nat :=
  match fuel with
  | 0 => (i, j)
  | fuel + 1 =>
    if i < marks.size && !marked marks i then
      skipped marks others fuel (i + 1) (pastMarks others (others.size + 1) j + 1)
    else (i, j)

/-- Moves each run of changes as far as possible towards the end, unless it corresponds to one of
the other row before that. -/
def settled (row : Array α) (others : Array Bool) (fuel i j : Nat) (marks : Array Bool) :
    Array Bool :=
  match fuel with
  | 0 => marks
  | fuel + 1 =>
    let (i, j) := skipped marks others (row.size + 1) i j
    if row.size ≤ i then marks
    else
      let r : Run :=
        { marks
          start := i
          stop := pastMarks marks (row.size + 1) i
          other := pastMarks others (others.size + 1) j }
      let (r, corresponding) := r.grown row others (row.size + 1)
      let r := r.backTo others corresponding (row.size + 1)
      settled row others fuel r.stop r.other r.marks

/-- What is changed in each of two rows. What has no counterpart at all is not searched for. -/
def compare (a b : Array α) : Array Bool × Array Bool :=
  let whole : Area := ⟨0, a.size, 0, b.size⟩
  let front := forward a b whole (a.size + 1) 0 0
  let whole : Area := { whole with xoff := front, yoff := front }
  let back := a.size - backward a b whole (a.size + 1) a.size b.size
  let kept (row other : Array α) : List Nat :=
    (List.range (row.size - front - back)).filterMap fun i =>
      let i := front + i
      match row[i]? with
      | some x => if (other.extract front (other.size - back)).contains x then some i else none
      | none => none
  let (as, bs) := (kept a b, kept b a)
  let pick (row : Array α) (places : List Nat) : Array α :=
    (places.filterMap fun i => row[i]?).toArray
  let (x, y) := (pick a as, pick b bs)
  let (p, q) := compareArea x y (x.size + y.size + 1) ⟨0, x.size, 0, y.size⟩
    (Array.replicate x.size false, Array.replicate y.size false)
  let marks (row : Array α) (places : List Nat) (found : Array Bool) : Array Bool :=
    let all := mark (Array.replicate row.size false) front (row.size - back)
    places.zipIdx.foldl (fun marks (i, k) => marks.setIfInBounds i (marked found k)) all
  let (first, second) := (marks a as p, marks b bs q)
  let first := settled a second (a.size + 1) 0 0 first
  let second := settled b first (b.size + 1) 0 0 second
  (first, second)

/-- The changes as runs of neighbours. -/
def hunks (fuel : Nat) (marks : Array Bool × Array Bool) (i j : Nat) : List Hunk :=
  match fuel with
  | 0 => []
  | fuel + 1 =>
    let x := pastMarks marks.1 (marks.1.size + 1) i
    let y := pastMarks marks.2 (marks.2.size + 1) j
    if i < x || j < y then ⟨i, x - i, j, y - j⟩ :: hunks fuel marks x y
    else if i < marks.1.size || j < marks.2.size then hunks fuel marks (i + 1) (j + 1)
    else []

/-- The runs of changes between two rows. -/
def between (a b : Array α) : List Hunk := hunks (a.size + b.size + 2) (compare a b) 0 0

end Changes

end Codemod.Shell
