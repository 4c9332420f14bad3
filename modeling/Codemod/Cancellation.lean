import Codemod.Instance

/-!
# Cancellation

A cancellation flag is set once and never cleared. It may be held by several handles, all of which
see it.

- `Cancellation` — flags and the handles on them
- `Cancellation.observed` — what every handle sees
-/

namespace Codemod

/-- Flags, and for every handle the number of its flag. -/
structure Cancellation where
  flags : List Bool
  handles : List Nat

namespace Cancellation

/-- One flag with one handle. -/
def single : Cancellation := ⟨[false], [0]⟩

/-- The flag of a handle is set. -/
def isCancelled (c : Cancellation) (handle : Nat) : Bool :=
  match c.handles[handle]? with
  | some flag => c.flags.getD flag false
  | none => false

/-- What every handle sees. -/
def observed (c : Cancellation) : List Bool := c.handles.map fun flag => c.flags.getD flag false

/-- A new flag with a handle of its own. -/
def create (c : Cancellation) : Cancellation :=
  ⟨c.flags ++ [false], c.handles ++ [c.flags.length]⟩

/-- Another handle on the flag of a handle. -/
def share (c : Cancellation) (handle : Nat) : Cancellation :=
  match c.handles[handle]? with
  | some flag => { c with handles := c.handles ++ [flag] }
  | none => c

/-- Gives up a handle. -/
def release (c : Cancellation) (handle : Nat) : Cancellation :=
  { c with handles := c.handles.eraseIdx handle }

/-- Sets the flag of a handle. -/
def cancel (c : Cancellation) (handle : Nat) : Cancellation :=
  match c.handles[handle]? with
  | some flag => { c with flags := c.flags.set flag true }
  | none => c

end Cancellation

end Codemod
