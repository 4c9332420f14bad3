import Codemod.Duration
import Codemod.SystemError
import Codemod.Text.Blank

/-!
# Failures of the language model

- `ModelError` — why a call of the model's tool gave no answer
- `ModelError.message` — how it is reported
- `ModelError.isRetryable` — whether a fresh process might do better
-/

namespace Codemod

/-- Why a call gave no answer. -/
inductive ModelError where
  /-- The tool could not be launched. -/
  | spawn (program : String) (cause : SystemError)
  /-- The running tool could not be observed. -/
  | io (program : String) (cause : SystemError)
  /-- The tool ran longer than allowed. -/
  | timeout (program : String) (after : Duration)
  /-- The tool failed; without a code it was ended by a signal. -/
  | exit (program : String) (code : Option Int) (stderr : String)
  /-- The prompt file could not be prepared. -/
  | scratch (cause : SystemError)

namespace ModelError

/-- How a process ended. -/
def describeExit : Option Int → String
  | some code => s!"code {code}"
  | none => "a signal"

/-- How the failure is reported. -/
def message : ModelError → String
  | spawn program cause => s!"failed to launch `{program}`: {cause.message}"
  | io program cause => s!"I/O error while running `{program}`: {cause.message}"
  | timeout program after => s!"`{program}` timed out after {after.text}"
  | exit program code stderr =>
    s!"`{program}` exited with {describeExit code}: {Text.trimmed stderr}"
  | scratch cause => s!"could not prepare prompt file: {cause.message}"

/-- The system's error behind the failure. -/
def cause? : ModelError → Option SystemError
  | spawn _ cause | io _ cause | scratch cause => some cause
  | timeout _ _ | exit _ _ _ => none

/-- Another attempt with a fresh process may help, unless the prompt could not be written. -/
def isRetryable : ModelError → Bool
  | scratch _ => false
  | _ => true

end ModelError

end Codemod

/-!
## Answers of the language model

- `Answer.count?` — the number in an answer to a count prompt
- `Answer.normalize` — the content in an answer to a transformation or repair prompt
- `Answer.change?` — that content, if there is anything to apply
-/

namespace Codemod.Answer

/-- An ASCII digit. -/
def isDigit (c : Char) : Bool := '0' ≤ c && c ≤ '9'

/-- The value of a list of digits. -/
def decimal (digits : List Char) : Nat :=
  digits.foldl (fun n c => n * 10 + (c.toNat - '0'.toNat)) 0

/-- The first run of digits, unless a minus sign stands before it or it exceeds 64 bits. -/
def countIn? (cs : List Char) : Option UInt64 :=
  let before := cs.takeWhile (fun c => !isDigit c)
  let digits := (cs.dropWhile (fun c => !isDigit c)).takeWhile isDigit
  if digits.isEmpty || before.getLast? == some '-' then none
  else if decimal digits < 2 ^ 64 then some (decimal digits).toUInt64 else none

/-- The number in an answer. -/
def count? (answer : String) : Option UInt64 := countIn? answer.toList

/-- Three backticks. -/
def fence : List Char := ['`', '`', '`']

/-- A line begins with a fence, the first line excepted. -/
def hasFencedLine : List Char → Bool
  | [] => false
  | c :: cs => (c == '\n' && fence.isPrefixOf cs) || hasFencedLine cs

/-- The text without a given beginning, if it has it. -/
def dropStart? (start cs : List Char) : Option (List Char) :=
  if start.isPrefixOf cs then some (cs.drop start.length) else none

/-- The text without a given end, if it has it. -/
def dropEnd? (tail cs : List Char) : Option (List Char) :=
  if tail.isSuffixOf cs then some (cs.take (cs.length - tail.length)) else none

/-- What follows the first line feed, if there is one. -/
def afterFirstLine? : List Char → Option (List Char)
  | [] => none
  | c :: cs => if c == '\n' then some cs else afterFirstLine? cs

/-- The body of a single block that takes up the whole text, if the text is one. -/
def fencedBody? (text : List Char) : Option (List Char) := do
  let rest ← dropStart? fence text
  let inner ← dropEnd? fence rest
  let body ← afterFirstLine? inner
  if hasFencedLine body then none
  else some ((dropEnd? ['\n'] body).getD body)

/-- Takes a single enclosing fence off a text. -/
def unfence (text : List Char) : List Char := (fencedBody? text).getD text

/-- The text ends in a line feed. -/
def endsInNewline (cs : List Char) : Bool := cs.getLast? == some '\n'

/-- The content in an answer: without line breaks before it, blanks after it and a fence around it,
and with a final line feed if the input has one. -/
def normalizeChars (answer input : List Char) : List Char :=
  let body := unfence (Text.trimEnd (answer.dropWhile Text.isLineBreak))
  if endsInNewline input && !endsInNewline body then body ++ ['\n'] else body

/-- The content in an answer. -/
def normalize (answer input : String) : String :=
  String.ofList (normalizeChars answer.toList input.toList)

/-- The content to apply: none if the answer is blank or says what the input says. -/
def change? (answer input : String) : Option String :=
  if Text.isBlankText answer then none
  else
    let candidate := normalize answer input
    if candidate = input then none else some candidate

end Codemod.Answer
