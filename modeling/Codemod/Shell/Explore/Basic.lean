import Codemod.Shell.Explore.Reading
import Codemod.Shell.Runner

/-!
# Looking for entries

- `Explore.Walk` — a step on the way through directories
- `Explore.visit` — an entry, and what is in it
- `Explore.run` — the tool
-/

namespace Codemod.Shell.Explore

/-- What is known on the way. -/
structure Tour where
  /-- The name of the tool. -/
  tool : String
  search : Search
  status : Nat := 0
  /-- Nothing more is looked for. -/
  quits : Bool := false
  /-- What is in the current directory is left out. -/
  prunes : Bool := false
  /-- What errands wait for, latest first: the errand, the directory where it is run, and a path. -/
  waiting : List (Errand × Octets × Octets) := []

/-- A step on the way. -/
abbrev Walk := StateT Tour Act

/-- Complains about something. -/
def blame (text : String) : Walk Unit := do
  let tool := (← get).tool
  liftM (Act.grumble s!"{tool}: {text}")
  modify fun t => { t with status := 1 }

/-- The files as they are. -/
def disk : Walk FileSystem := liftM (do return (← get).disk : Act FileSystem)

/-- Does something with the machine. -/
def onMachine {α : Type} (act : Act α) : Walk α := liftM act

/-- Writes a text where it goes. -/
def emit (outlet : Outlet) (text : Octets) : Walk Unit := do
  let tool := (← get).tool
  match outlet with
  | .output => onMachine (Act.say text)
  | .file path =>
    let name := path.toText
    if name == "/dev/stdout" then onMachine (Act.say text)
    else if name == "/dev/stderr" then onMachine (modify fun m => m.write 2 text)
    else
      let _ ← onMachine <| Act.useTool tool do
        let b ← get
        let old := ((b.disk.readBytes name).toOption.map Octets.ofBytes).getD []
        let _ ← Tool.store name (old ++ text)
        return 0

/-- A word with a path in the place of each pair of braces. -/
def filled (path : Octets) : Octets → Octets
  | '{' :: '}' :: rest => path ++ filled path rest
  | c :: rest => c :: filled path rest
  | [] => []

/-- Runs a command in a directory; the value tells whether it went well. -/
def perform (launch : Launch) (directory : Octets) (command : List Octets) : Walk Bool := do
  let before ← onMachine get
  match before.disk.find directory.toText with
  | .ok (loc, .directory) =>
    onMachine (modify fun m => m.enterBy (Octets.ofString ("/" ++ Location.text loc)) loc)
  | _ => pure ()
  let status := (← get).status
  let result ← onMachine (launch command)
  onMachine (modify fun m => m.enterBy before.entered before.disk.workingDirectory)
  match result with
  | .ok ended => return ended == .exited 0
  | .error cause =>
    blame s!"{Tool.quoted (command.headD [])}: {Tool.reason cause}"
    modify fun t => { t with status }
    return false

/-- Asks whether a command is to be run. -/
def agrees (command : Octets) (path : Octets) : Walk Bool := onMachine do
  modify fun m => m.write 2 ("< ".toList ++ command ++ " ... ".toList ++ path ++ " > ? ".toList)
  let m ← get
  match m.contents 0 with
  | .ok (text, _) =>
    let (line, rest) := text.span (· != '\n')
    set (m.left 0 (rest.drop 1))
    return line.head? == some 'y' || line.head? == some 'Y'
  | .error _ => return false

/-- Runs an errand for an entry, or lets it wait. -/
def Errand.send (launch : Launch) (e : Errand) (p : Point) : Walk Bool := do
  let path : Octets :=
    if !e.inPlace then p.path
    else if p.base == ['/'] then ['/']
    else "./".toList ++ p.base
  let directory : Octets := if e.inPlace then p.around else ['.']
  if e.gathers then
    modify fun t => { t with waiting := (e, directory, path) :: t.waiting }
    return true
  else
    let allowed ← if e.asks then agrees (e.command.headD []) p.path else pure true
    if allowed then perform launch directory (e.command.map (filled path)) else return false

/-- Runs the errands that wait, each with all its paths in a directory. -/
def sendAll (launch : Launch) : Walk Unit := do
  let waiting := (← get).waiting.reverse
  modify fun t => { t with waiting := [] }
  let ids := (waiting.map fun (e, _, _) => e.id).eraseDups
  for id in ids do
    let mine := waiting.filter fun (e, _, _) => e.id == id
    for group in mine.splitBy fun (_, a, _) (_, b, _) => a == b do
      match group with
      | [] => pure ()
      | (e, directory, _) :: _ =>
        let paths := group.map fun (_, _, path) => path
        let fine ← perform launch directory (e.command ++ paths)
        if !fine then modify fun t => { t with status := 1 }

/-- Removes an entry; the value tells whether that went well. -/
def delete (p : Point) : Walk Bool := do
  if p.path == ['.'] then return true
  let d ← disk
  if p.node == .directory && Tool.hasEntries d p.loc then
    blame s!"cannot delete {Tool.quoted p.path}: Directory not empty"
    return false
  else
    onMachine (modify fun m => { m with disk := m.disk.erase p.loc })
    return true

/-- Does something with an entry. -/
def act (launch : Launch) (p : Point) : Action → Walk Bool
  | .print outlet ending => do
    emit outlet (p.path ++ [ending])
    return true
  | .describe outlet format => do
    emit outlet (p.described (← disk) format)
    return true
  | .list outlet => do
    let m ← onMachine get
    emit outlet (p.row m.disk m.now)
    return true
  | .delete => delete p
  | .run e => e.send launch p
  | .prune => do
    modify fun t => { t with prunes := true }
    return true
  | .quit => do
    modify fun t => { t with quits := true }
    return true

/-- A test holds for an entry. -/
def holds (d : FileSystem) (now : Int) (p : Point) : Test → Bool
  | .constant b => b
  | .name folded pattern => Wildcard.accepts pattern (cased folded p.name)
  | .path folded pattern => Wildcard.accepts pattern (cased folded p.path)
  | .target folded pattern =>
    match p.node with
    | .link target => Wildcard.accepts pattern (cased folded (Octets.ofString target))
    | _ => false
  | .regex r => (r.matchAt? p.path.toArray 0).any fun m => m.stop == p.path.length
  | .kind false letters => letters.contains (kindOf p.node)
  | .kind true letters =>
    match p.behind d with
    | .ok node => letters.contains (kindOf node)
    | .error _ => letters.contains 'l'
  | .empty =>
    match p.node with
    | .file bytes => bytes.size == 0
    | .directory => !Tool.hasEntries d p.loc
    | .link _ => false
  | .size a unit => a.admits ((p.entry.size + unit - 1) / unit)
  | .changedAfter time => time < d.modified p.loc
  | .age a unit counted =>
    let age := (now - d.modified p.loc).toNat
    if counted then
      match a with
      | .more n => n * unit < age
      | .fewer n => age < n * unit
      | .exactly n => age / unit + 1 == n
    else a.admits (age / unit)
  | .permission m bits =>
    let mode := p.entry.mode d &&& 0o7777
    match m with
    | .exactly => mode == bits
    | .all => mode &&& bits == bits
    | .any => bits == 0 || mode &&& bits != 0
  | .links a => a.admits (p.entry.links d)
  | .number a => a.admits (p.entry.number d)
  | .sameAs path => (Tool.entryAt d path).toOption.any fun (loc, _) =>
      loc == p.loc || (d.twins loc).contains p.loc
  | .executable =>
    match p.behind d with
    | .ok .directory => true
    | .ok node =>
      (d.find p.path.toText).toOption.any fun (loc, _) => d.mode loc node &&& 0o111 != 0
    | .error _ => false
where
  /-- A text without regard to cases, if so. -/
  cased (folded : Bool) (cs : Octets) : Octets := if folded then cs.map Char.toLower else cs

/-- A query holds for an entry, once its actions are done. -/
def Query.eval (launch : Launch) (p : Point) : Query → Walk Bool
  | .test t => do
    let m ← onMachine get
    return holds m.disk m.now p t
  | .act a => Explore.act launch p a
  | .not q => do return !(← q.eval launch p)
  | .both a b => do
    if ← a.eval launch p then b.eval launch p else return false
  | .either a b => do
    if ← a.eval launch p then return true else b.eval launch p
  | .after a b => do
    let _ ← a.eval launch p
    b.eval launch p

/-- Visits an entry and what is in it. The directories `above` are those on the way to it. -/
def visit (launch : Launch) (fuel : Nat) (above : List (Location × Octets)) (p : Point) :
    Walk Unit :=
  match fuel with
  | 0 => return
  | fuel + 1 => do
    let s := (← get).search
    let own : Walk Unit := do
      modify fun t => { t with prunes := false }
      if s.least ≤ p.depth then
        let _ ← s.query.eval launch p
    let inside : Walk Unit := do
      if p.node == .directory && s.most.all (p.depth < ·) then
        let d ← disk
        match d.get? p.loc with
        | some .directory =>
          let slash : Octets := if p.path.getLast? == some '/' then [] else ['/']
          for name in Tool.sortedNames d p.loc do
            let path := p.path ++ slash ++ name
            let child (loc : Location) (node : Node) : Walk Unit :=
              visit launch fuel ((p.loc, p.path) :: above)
                { start := p.start, path, depth := p.depth + 1, loc, node }
            let quits := (← get).quits
            if !quits then
              let d ← disk
              let loc := p.loc ++ [name.toText]
              match d.get? loc with
              | none => pure ()
              | some (.link target) =>
                if s.following != .always then child loc (.link target)
                else
                  match d.find path.toText with
                  | .ok (there, node) =>
                    match ((p.loc, p.path) :: above).lookup there with
                    | some before =>
                      blame (s!"File system loop detected; {Tool.quoted path} is part of the "
                        ++ s!"same file system loop as {Tool.quoted before}.")
                    | none => child there node
                  | .error cause =>
                    if cause == .linkLoop then blame s!"{Tool.quoted path}: {Tool.reason cause}"
                    else child loc (.link target)
              | some node => child loc node
        | _ => blame s!"{Tool.quoted p.path}: No such file or directory"
    if s.insideFirst then
      inside
      let quits := (← get).quits
      if !quits then own
    else
      own
      let t ← get
      if !t.prunes && !t.quits then inside

/-- How deep directories are entered. -/
def maxDepth : Nat := 1000

/-- Goes the way from a path. -/
def beginAt (launch : Launch) (start : Octets) : Walk Unit := do
  let quits := (← get).quits
  if !quits then
    let d ← disk
    let s := (← get).search
    let plain := Tool.entryAt d start
    let found := if s.following == .never then plain
      else
        match d.find start.toText with
        | .ok found => .ok found
        | .error cause => if cause == .linkLoop then .error cause else plain
    match found with
    | .error cause => blame s!"{Tool.quoted start}: {Tool.reason cause}"
    | .ok (loc, node) => visit launch maxDepth [] { start, path := start, depth := 0, loc, node }

/-- Makes the files that are written to. -/
def prepare : List Octets → Walk Bool
  | [] => return true
  | path :: rest => do
    let tool := (← get).tool
    let status ← onMachine <| Act.useTool tool do
      match ← Tool.store path.toText [] with
      | .ok _ => return 0
      | .error cause =>
        Tool.blame s!"{Tool.quoted path}: {Tool.reason cause}"
        return 1
    if status == 0 then prepare rest else return false

/-- Goes all ways. -/
def explore (launch : Launch) : Walk Unit := do
  let s := (← get).search
  if ← prepare s.files then
    for start in s.starts do
      beginAt launch start
    sendAll launch
  else modify fun t => { t with status := 1 }

/-- Looks for entries. -/
def run (launch : Launch) (called : Octets) (arguments : List Octets) : Act Nat := do
  let tool := called.toText
  let m ← get
  let (early, found) := Reading.ofArguments m.disk m.now arguments
  for text in early do
    Act.grumble s!"{tool}: {text}"
  match found with
  | .error refusal =>
    for text in refusal.message do
      Act.grumble s!"{tool}: {text}"
    return 1
  | .ok r =>
    match r.instead with
    | some text => do
      Act.say text.toList
      return 0
    | none => do
      for text in r.warnings do
        Act.grumble s!"{tool}: {text}"
      let (_, t) ← (explore launch).run { tool, search := r.search }
      return t.status

end Codemod.Shell.Explore
