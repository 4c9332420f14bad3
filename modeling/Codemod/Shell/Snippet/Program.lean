import Codemod.Shell.Snippet.Evaluation

/-!
# The program that runs snippets

- `Tool.snippet` — runs a snippet that is given as an argument, in a file, or in the input
-/

namespace Codemod.Shell.Tool

open Snippet

/-- How a snippet is used. -/
structure SnippetUse where
  /-- The snippet, when it is an argument. -/
  given : Option String := none
  /-- Its value is printed. -/
  prints : Bool := false
  /-- It is only read. -/
  checks : Bool := false
  /-- The file that holds it, and the words for it. -/
  words : List String := []

/-- How a snippet is used by arguments; or what is wrong with them. -/
def SnippetUse.read (u : SnippetUse) : List String → Except String SnippetUse
  | [] => .ok u
  | "--" :: rest => .ok { u with words := rest }
  | option :: rest =>
    let text : Except String SnippetUse :=
      match rest with
      | [] => .error s!"{option} requires an argument"
      | text :: rest => read { u with given := some text } rest
    match option with
    | "-e" | "--eval" => text
    | "-p" | "--print" | "-pe" =>
      match rest with
      | text :: rest => read { u with given := some text, prints := true } rest
      | [] => .ok { u with prints := true }
    | "-c" | "--check" => read { u with checks := true } rest
    | option =>
      if option.startsWith "--eval=" then
        read { u with given := some (String.ofList (option.toList.drop 7)) } rest
      else if option.startsWith "--no-" || option.startsWith "--trace" then read u rest
      else if option.startsWith "-" && option != "-" then .error s!"bad option: {option}"
      else .ok { u with words := option :: rest }

/-- Says that a snippet failed, with its first line. -/
def failedSnippet (source text message : String) : Tool Nat := do
  let first := String.ofList (text.toList.takeWhile (· != '\n'))
  complain s!"{source}:1\n{first}\n\n{message}\n"
  return 1

/-- Runs a snippet of some source. -/
def runSnippet (u : SnippetUse) (path : Option String) (source text : String)
    (words : List String) :
    Tool Nat := do
  match Snippet.read path.isSome text with
  | .error fault => failedSnippet source text s!"SyntaxError: {fault.message}"
  | .ok body =>
    if u.checks then return 0
    let (ended, session) ← (Evaluation.whole path body).run.run { words }
    match ended with
    | .ok v =>
      if u.prints then sayText (session.heap.line [v] ++ "\n")
      return session.status
    | .error (.exit status) => return status
    | .error (.thrown v) =>
      let shown := session.heap.shown v
      failedSnippet source text (match v with
        | .object _ => shown
        | _ => s!"Uncaught {shown}")
    | .error .endless =>
      modify fun b => { b with stuck := true }
      return 0
    | .error _ => return session.status

/-- Runs a snippet that is given as an argument, in a file, or in the input. -/
def snippet (arguments : List Octets) : Tool Nat := do
  let b ← get
  let own := s!"/usr/bin/{b.tool}"
  if arguments.any fun a => ["-v", "--version"].contains a.toText then
    sayText "v22.22.2\n"
    return 0
  match SnippetUse.read {} (arguments.map Octets.toText) with
  | .error text =>
    complain s!"{own}: {text}"
    return 9
  | .ok u =>
    match u.given, u.words with
    | some text, words => runSnippet u none "[eval]" text (own :: words)
    | none, [] | none, "-" :: _ => do
      let text ← readAll
      runSnippet u none "[stdin]" (Octets.toText text) [own, "-"]
    | none, path :: words =>
      let place := b.place.toText
      let full := if path.startsWith "/" then path else Path.join place path
      match b.disk.readBytes path with
      | .ok bytes =>
        runSnippet u (some full) full (Octets.toText (Octets.ofBytes bytes)) (own :: full :: words)
      | .error _ =>
        failedSnippet "node:internal/modules/cjs/loader" "  throw err;" s!"Error: Cannot find module '{full}'"

end Codemod.Shell.Tool
