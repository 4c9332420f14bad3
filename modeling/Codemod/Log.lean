import Codemod.Text.Search

/-!
# A log kept in memory
-/

namespace Codemod

/-- Lines in the order in which they were logged. -/
structure Log where
  lines : List String := []

namespace Log

/-- Adds a line. -/
def add (log : Log) (line : String) : Log := ⟨log.lines ++ [line]⟩

/-- Some line contains the text. -/
def mentions (log : Log) (text : String) : Bool := log.lines.any (Text.occursIn text)

end Log

end Codemod
