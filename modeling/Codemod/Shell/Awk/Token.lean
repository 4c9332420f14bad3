import Codemod.Shell.Awk.Program

/-!
# Tokens of record programs

- `Awk.Token`, `Awk.Placed` — tokens, and where they stand
- `Awk.tokens` — the tokens of a text
-/

namespace Codemod.Shell.Awk

/-- A token. -/
inductive Token where
  | number (x : Float) (written : Octets)
  | text (cs : Octets) (written : Octets)
  | regex (cs : Octets)
  /-- A name, and whether a parenthesis follows at once. -/
  | name (name : String) (called : Bool)
  | function (f : BuiltIn) (name : String)
  | word (word : String)
  | sign (sign : String)
  | lineEnd

/-- A token with its line. -/
structure Placed where
  token : Token
  line : Nat

/-- The token as it is named in a complaint. -/
def Token.shown : Token → String
  | number _ written => written.toText
  | text _ written => written.toText
  | regex cs => "/" ++ cs.toText ++ "/"
  | name called _ => called
  | function _ called => called
  | word w => w
  | sign s => s
  | lineEnd => "end of line"

/-- Words with a meaning of their own. -/
def words : List String :=
  ["BEGIN", "END", "function", "if", "else", "while", "do", "for", "in", "print", "printf", "next",
    "nextfile", "exit", "return", "break", "continue", "delete", "getline"]

/-- The functions of every program by their names. -/
def builtIns : List (String × BuiltIn) :=
  [("length", .length), ("substr", .substr), ("index", .index), ("split", .split), ("sub", .sub),
    ("gsub", .gsub), ("match", .find), ("sprintf", .sprintf), ("tolower", .lower),
    ("toupper", .upper), ("sin", .sine), ("cos", .cosine), ("atan2", .arcTangent),
    ("exp", .exponential), ("log", .logarithm), ("sqrt", .root), ("int", .whole), ("rand", .random),
    ("srand", .seed), ("system", .system), ("close", .close), ("fflush", .flush),
    ("systime", .clock), ("strftime", .date)]

/-- The signs, longer ones first. -/
def signs : List String :=
  ["&&", "||", "==", "!=", "<=", ">=", "++", "--", "+=", "-=", "*=", "/=", "%=", "^=", "!~", ">>",
    "+",
    "-", "*", "/", "%", "^", "<", ">", "=", "!", "~", "?", ":", "(", ")", "[", "]", "\x7b", "\x7d",
      "$",
    ",", ";", "|"]

/-- A text with its escapes replaced; the backslash of one without a meaning stays. -/
def withoutEscapes (fuel : Nat) (cs : Octets) : Octets :=
  match fuel, cs with
  | 0, cs => cs
  | _, [] => []
  | fuel + 1, '\\' :: c :: rest =>
    if Escape.isOctal c then
      let (octet, rest) := Escape.octal 3 (c :: rest)
      octet :: withoutEscapes fuel rest
    else if c == 'x' then
      match Escape.hex? rest with
      | some (octet, rest) => octet :: withoutEscapes fuel rest
      | none => '\\' :: 'x' :: withoutEscapes fuel rest
    else if c == '"' then '"' :: withoutEscapes fuel rest
    else if c == '\n' then withoutEscapes fuel rest
    else
      match Escape.letter? c with
      | some octet => octet :: withoutEscapes fuel rest
      | none => '\\' :: c :: withoutEscapes fuel rest
  | fuel + 1, c :: rest => c :: withoutEscapes fuel rest

/-- The text up to a closing quote, escapes included, and what follows; none without an end. -/
def quoted? : Octets → Option (Octets × Octets)
  | [] => none
  | '"' :: rest => some ([], rest)
  | '\\' :: c :: rest => (quoted? rest).map fun (text, rest) => ('\\' :: c :: text, rest)
  | '\n' :: _ => none
  | c :: rest => (quoted? rest).map fun (text, rest) => (c :: text, rest)

/-- The expression up to a closing slash, and what follows; none without an end. A slash between
brackets closes nothing. -/
def slashed? (inBrackets : Bool) : Octets → Option (Octets × Octets)
  | [] => none
  | '\n' :: _ => none
  | '/' :: rest =>
    if inBrackets then (slashed? true rest).map fun (text, rest) => ('/' :: text, rest)
    else some ([], rest)
  | '\\' :: c :: rest =>
    (slashed? inBrackets rest).map fun (text, rest) =>
      ((if c == '/' then ['/'] else ['\\', c]) ++ text, rest)
  | '[' :: ']' :: rest =>
    if inBrackets then (slashed? false rest).map fun (text, rest) => ('[' :: ']' :: text, rest)
    else (slashed? true rest).map fun (text, rest) => ('[' :: ']' :: text, rest)
  | '[' :: '^' :: ']' :: rest =>
    if inBrackets then
      (slashed? false rest).map fun (text, rest) => ('[' :: '^' :: ']' :: text, rest)
    else (slashed? true rest).map fun (text, rest) => ('[' :: '^' :: ']' :: text, rest)
  | '[' :: ':' :: rest =>
    match rest.span Char.isAlpha with
    | (name, ':' :: ']' :: _) =>
      if inBrackets then
        (slashed? true (rest.drop (name.length + 2))).map fun (text, rest) =>
          ('[' :: ':' :: name ++ [':', ']'] ++ text, rest)
      else (slashed? true (':' :: rest)).map fun (text, rest) => ('[' :: text, rest)
    | _ => (slashed? true (':' :: rest)).map fun (text, rest) => ('[' :: text, rest)
  | '[' :: rest => (slashed? true rest).map fun (text, rest) => ('[' :: text, rest)
  | ']' :: rest => (slashed? false rest).map fun (text, rest) => (']' :: text, rest)
  | c :: rest => (slashed? inBrackets rest).map fun (text, rest) => (c :: text, rest)
termination_by cs => cs.length
decreasing_by all_goals simp_all [List.length_drop] <;> omega

/-- A value ends with the token, so that a slash after it divides. -/
def Token.endsValue : Token → Bool
  | number _ _ | text _ _ | regex _ | name _ _ => true
  | function f _ => f == .length
  | sign s => [")", "]", "$", "++", "--"].contains s
  | word w => w == "getline"
  | lineEnd => false

/-- The digits of a number at the front of a text, and what follows. -/
def numeral (cs : Octets) : Octets × Octets :=
  let (whole, rest) := cs.span Char.isDigit
  let (fraction, rest) := match rest with
    | '.' :: after =>
      let (ds, rest) := after.span Char.isDigit
      ('.' :: ds, rest)
    | rest => ([], rest)
  let exponent : Octets := match rest with
    | e :: after =>
      if e == 'e' || e == 'E' then
        let (sign, ds) := match after with
          | '+' :: ds => (['+'], ds)
          | '-' :: ds => (['-'], ds)
          | ds => ([], ds)
        let digits := ds.takeWhile Char.isDigit
        if digits.isEmpty then [] else e :: sign ++ digits
      else []
    | [] => []
  (whole ++ fraction ++ exponent, rest.drop exponent.length)

/-- A character of a name. -/
def isNameChar (c : Char) : Bool := c.isAlphanum || c == '_'

/-- The tokens of a text from a line on, or a fault with its line. `last` is the token before. -/
def tokens (fuel : Nat) (line : Nat) (last : Token) (cs : Octets) :
    Except (Nat × Fault) (List Placed) :=
  match fuel, cs with
  | 0, _ => .ok []
  | _, [] => .ok (match last with
    | .lineEnd => []
    | _ => [⟨.lineEnd, line⟩])
  | fuel + 1, c :: rest =>
    let put (t : Token) (rest : Octets) : Except (Nat × Fault) (List Placed) :=
      (tokens fuel line t rest).map (⟨t, line⟩ :: ·)
    if c == '\n' then (tokens fuel (line + 1) .lineEnd rest).map (⟨.lineEnd, line⟩ :: ·)
    else if c == ' ' || c == '\t' || c == '\r' then tokens fuel line last rest
    else if c == '\\' && rest.head? == some '\n' then tokens fuel (line + 1) last (rest.drop 1)
    else if c == '#' then tokens fuel line last (rest.dropWhile (· != '\n'))
    else if c == '"' then
      match quoted? rest with
      | some (text, rest) =>
        let t : Token := .text (withoutEscapes (text.length + 1) text) ('"' :: text ++ ['"'])
        (tokens fuel (line + text.count '\n') t rest).map (⟨t, line⟩ :: ·)
      | none => .error (line, .runawayText (rest.takeWhile (· != '\n')))
    else if c == '/' && !last.endsValue then
      match slashed? false rest with
      | some (text, rest) => put (.regex text) rest
      | none => .error (line, .runawayRegex (rest.takeWhile (· != '\n')))
    else if c.isDigit || (c == '.' && rest.head?.any Char.isDigit) then
      let (digits, rest) := numeral (c :: rest)
      put (.number (Number.ofText digits) digits) rest
    else if isNameChar c then
      let (name, rest) := (c :: rest).span isNameChar
      let name := String.ofList name
      if words.contains name then put (.word name) rest
      else
        match builtIns.lookup name with
        | some f => put (.function f name) rest
        | none => put (.name name (rest.head? == some '(')) rest
    else
      match signs.find? fun s => s.toList.isPrefixOf (c :: rest) with
      | some s => put (.sign s) ((c :: rest).drop s.length)
      | none => .error (line, .strayOctet c)

end Codemod.Shell.Awk
