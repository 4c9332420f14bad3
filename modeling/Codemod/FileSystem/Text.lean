import Codemod.FileSystem.Basic

/-!
# Text files

Whole text files are read and written; an error says what was to be done with which file. A write is
not atomic: the system may break it off when a part of the text has arrived.
-/

namespace Codemod

/-- Why a text file could not be read or written. -/
inductive FileError where
  | read (path : String) (cause : SystemError)
  | write (path : String) (cause : SystemError)
deriving DecidableEq

namespace FileError

/-- What could not be done. -/
def message : FileError → String
  | read path _ => s!"Failed to read file {path}"
  | write path _ => s!"Failed to write file {path}"

/-- Why it could not be done. -/
def cause : FileError → SystemError
  | read _ cause | write _ cause => cause

/-- What could not be done, and why. -/
def report (e : FileError) : String := s!"{e.message}: {e.cause.message}"

end FileError

namespace FileSystem

/-- Reads a whole text file. -/
def readText (fs : FileSystem) (path : String) : Except FileError String :=
  (fs.readString path).mapError (FileError.read path)

/-- Replaces the whole content of a text file. -/
def writeText (fs : FileSystem) (path text : String) : Except FileError FileSystem :=
  (fs.writeBytes path text.toUTF8).mapError (FileError.write path)

end FileSystem

/-- Why the system breaks a write off. -/
structure Fault where
  cause : SystemError
  /-- How many bytes have arrived by then; none when the file was not even opened. -/
  arrived : Option Nat := none

/-- The files after a write that was broken off. -/
def FileSystem.writePart (fs : FileSystem) (path text : String) (fault : Fault) : FileSystem :=
  match fault.arrived with
  | none => fs
  | some n => (fs.writeBytes path (text.toUTF8.extract 0 n)).toOption.getD fs

end Codemod
