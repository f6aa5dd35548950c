import InlineLinkage.Shell.Command
import InlineLinkage.Shell.FileTree
import InlineLinkage.Shell.Signal

/-!
# The machine

What scripts work on: files, pipes, processes and a clock. Processes run one after the other, each with a
clock of its own. Whatever they write is stamped with the time and the writers, so that the output of
processes that ran at one time can be put in order afterwards, and what a process wrote after its end by
a signal can be taken back. Times are in nanoseconds.
-/
namespace InlineLinkage.Shell

/-- Something written at a time by a process. The writers are that process and those above it. -/
structure Chunk where
  time : Nat
  writers : List Nat
  text : Raw

/-- What was written and not yet read. While it is written, the last chunk comes first. -/
structure Pipe where
  chunks : List Chunk := []
  /-- When its last writer ended. -/
  closing : Nat := 0

namespace Pipe

def write (p : Pipe) (c : Chunk) : Pipe :=
  { p with chunks := c :: p.chunks }

/-- Puts the chunks in the order of their times, for reading. -/
def inOrder (p : Pipe) : Pipe :=
  { p with chunks := p.chunks.reverse.mergeSort fun c d => c.time ≤ d.time }

/-- What was written before a time. -/
def textUntil (p : Pipe) (time : Nat) : Raw :=
  (p.inOrder.chunks.filter fun c => c.time ≤ time).flatMap Chunk.text

def text (p : Pipe) : Raw :=
  p.inOrder.chunks.flatMap Chunk.text

/-- Takes back what a process and those below it wrote from a time on. -/
def retract (p : Pipe) (writer time : Nat) : Pipe :=
  { p with chunks := p.chunks.filter fun c => !(c.writers.contains writer && time ≤ c.time) }

end Pipe

/-- What a descriptor stands for. -/
inductive Opened where
  | null
  | file (path : Path) (position : Nat) (append : Bool)
  | source (pipe : Nat)
  | sink (pipe : Nat)

structure Variable where
  name : Raw
  /-- There is none for a name that is only marked. -/
  value : Option Raw
  exported : Bool := false
  readOnly : Bool := false

structure Options where
  errexit : Bool := false
  nounset : Bool := false
  xtrace : Bool := false
  noglob : Bool := false
  noexec : Bool := false
  noclobber : Bool := false
  allexport : Bool := false
  verbose : Bool := false

namespace Options

/-- Letters and names of the options, with how they are read and set. -/
def table : List (Char × String × (Options → Bool) × (Options → Bool → Options)) :=
  [('e', "errexit", errexit, fun o b => { o with errexit := b }),
    ('f', "noglob", noglob, fun o b => { o with noglob := b }),
    ('n', "noexec", noexec, fun o b => { o with noexec := b }),
    ('x', "xtrace", xtrace, fun o b => { o with xtrace := b }),
    ('v', "verbose", verbose, fun o b => { o with verbose := b }),
    ('C', "noclobber", noclobber, fun o b => { o with noclobber := b }),
    ('a', "allexport", allexport, fun o b => { o with allexport := b }),
    ('u', "nounset", nounset, fun o b => { o with nounset := b })]

def setLetter? (o : Options) (c : Char) (b : Bool) : Option Options :=
  (table.find? fun e => e.1 == c).map fun e => e.2.2.2 o b

def setName? (o : Options) (name : String) (b : Bool) : Option Options :=
  (table.find? fun e => e.2.1 == name).map fun e => e.2.2.2 o b

/-- The letters of the options that are set. -/
def letters (o : Options) : Raw :=
  (table.filter fun e => e.2.2.1 o).map fun e => e.1

end Options

/-- A process that was started in the background. -/
structure Job where
  id : Nat
  finish : Nat
  status : Nat
  signal : Option Signal

/-- A shell or a program, by what its children inherit and what is its own. -/
structure Process where
  id : Nat
  /-- The process and those above it. -/
  lineage : List Nat
  clock : Nat := 0
  /-- Nothing that happens after this time can be seen. -/
  horizon : Nat
  /-- The process whose number `$$` gives. -/
  shell : Nat
  name : Raw
  arguments : List Raw := []
  vars : List Variable := []
  functions : List (Raw × Command) := []
  options : Options := {}
  traps : List (Signal × Raw) := []
  directory : Path
  descriptors : List (Nat × Nat) := []
  status : Nat := 0
  jobs : List Job := []
  lastJob : Option Nat := none
  line : Nat := 1
  /-- The builtin that is running. -/
  builtin : Option Raw := none
  /-- Variables as they were before functions made them local. -/
  frames : List (List (Raw × Option Variable)) := []
  loops : Nat := 0
  /-- The status of the last substitution of the current command. -/
  substituted : Nat := 0

namespace Process

def lookup? (p : Process) (name : Raw) : Option Variable :=
  p.vars.find? fun v => v.name == name

def value? (p : Process) (name : Raw) : Option Raw :=
  (p.lookup? name).bind Variable.value

def put (v : Variable) : List Variable → List Variable
  | [] => [v]
  | w :: rest => if w.name = v.name then v :: rest else w :: put v rest

def putVariable (p : Process) (v : Variable) : Process :=
  { p with vars := put v p.vars }

/-- Sets a value and keeps the marks of the variable. -/
def assign (p : Process) (name value : Raw) : Process :=
  let v := (p.lookup? name).getD ⟨name, none, p.options.allexport, false⟩
  p.putVariable { v with value := some value }

def unset (p : Process) (name : Raw) : Process :=
  { p with vars := p.vars.filter fun v => v.name != name }

/-- Variables as they were, or their absence. -/
def restore (p : Process) (saved : List (Raw × Option Variable)) : Process :=
  saved.foldl (fun p (name, v) =>
    match v with
    | some v => p.putVariable v
    | none => p.unset name) p

/-- What stands between fields. -/
def separators (p : Process) : Raw :=
  (p.value? "IFS".toList).getD [' ', '\t', '\n']

def opened? (p : Process) (descriptor : Nat) : Option Nat :=
  (p.descriptors.find? fun d => d.1 == descriptor).map Prod.snd

def close (p : Process) (descriptor : Nat) : Process :=
  { p with descriptors := p.descriptors.filter fun d => d.1 != descriptor }

def bind (p : Process) (descriptor opened : Nat) : Process :=
  let p := p.close descriptor
  { p with descriptors := (descriptor, opened) :: p.descriptors }

def trap? (p : Process) (s : Signal) : Option Raw :=
  (p.traps.find? fun t => t.1 == s).map Prod.snd

def dropTrap (p : Process) (s : Signal) : Process :=
  { p with traps := p.traps.filter fun t => t.1 != s }

def setTrap (p : Process) (s : Signal) (action : Raw) : Process :=
  { p with traps := (s, action) :: (p.dropTrap s).traps }

/-- Signals that are ignored stay so in children, all other traps are gone. -/
def ignoredTraps (p : Process) : List (Signal × Raw) :=
  p.traps.filter fun t => t.2.isEmpty && !t.1.isExit

/-- A copy of a shell that goes on by itself. -/
def forked (p : Process) (id : Nat) : Process :=
  { p with id := id, lineage := id :: p.lineage, traps := p.ignoredTraps }

/-- A new shell that inherits what programs do. -/
def fresh (p : Process) (name : Raw) (arguments : List Raw) (options : Options) : Process :=
  { p with
    shell := p.id
    name := name
    arguments := arguments
    vars := p.vars.filter fun v => v.exported && v.value.isSome
    functions := []
    options := options
    traps := p.ignoredTraps
    status := 0
    jobs := []
    lastJob := none
    line := 1
    builtin := none
    frames := []
    loops := 0 }

end Process

structure Machine where
  files : FileTree
  opened : Array Opened := #[]
  pipes : Array Pipe := #[]
  /-- Texts of here-documents by their numbers. -/
  documents : List (Nat × Word) := []
  nextDocument : Nat := 0
  nextProcess : Nat
  /-- Signals that were sent: to whom, which, and when. -/
  signals : List (Nat × Signal × Nat) := []
  /-- How many more steps are followed. -/
  budget : Nat
  process : Process

/-- What takes a process out of the order of its commands. -/
inductive Jump where
  | exit (status : Nat)
  /-- An error that ends a shell. -/
  | failed
  | leaveFunction (status : Nat)
  | leaveLoops (levels : Nat)
  | nextRound (levels : Nat)
  | killed (s : Signal)
  /-- It runs beyond what can be seen. -/
  | expired

abbrev Run := EStateM Jump Machine

namespace Run

def process : Run Process := do
  return (← get).process

def modifyProcess (f : Process → Process) : Run Unit :=
  modify fun m => { m with process := f m.process }

/-- Whether a signal ends a process. -/
def isFatal (p : Process) (s : Signal) : Bool :=
  !s.isHarmless && (s.isFinal || (p.trap? s).isNone)

/-- The first signal up to a time that ends the process. -/
def fatalSignal? (m : Machine) (clock : Nat) : Option (Signal × Nat) :=
  (m.signals.find? fun (id, s, time) =>
    id == m.process.id && time ≤ clock && isFatal m.process s).map Prod.snd

/-- Lets time pass. -/
def spend (time : Nat) : Run Unit := do
  let m ← get
  let clock := m.process.clock + time
  match fatalSignal? m clock with
  | some (s, time) =>
    set { m with process := { m.process with clock := max time m.process.clock } }
    throw (.killed s)
  | none =>
    set { m with budget := m.budget - 1, process := { m.process with clock := clock } }
    if m.process.horizon < clock || m.budget = 0 then throw .expired

/-- Gives up some of the steps that are followed. -/
def charge (steps : Nat) : Run Unit :=
  modify fun m => { m with budget := m.budget - steps }

/-- Lets time pass until a time. -/
def waitUntil (time : Nat) : Run Unit := do
  spend (time - (← process).clock)

/-- Opens something. The answer is its number. -/
def opening (o : Opened) : Run Nat := do
  let m ← get
  set { m with opened := m.opened.push o }
  return m.opened.size

def newPipe (p : Pipe) : Run Nat := do
  let m ← get
  set { m with pipes := m.pipes.push p }
  return m.pipes.size

def sealPipe (pipe : Nat) : Run Unit :=
  modify fun m => { m with pipes := m.pipes.modify pipe Pipe.inOrder }

def openedAt (descriptor : Nat) : Run (Option (Nat × Opened)) := do
  let m ← get
  return do
    let n ← m.process.opened? descriptor
    let o ← m.opened[n]?
    return (n, o)

/-- Text with another text at a position. -/
def overwrite (content : Raw) (position : Nat) (text : Raw) : Raw :=
  content.take position ++ List.replicate (position - content.length) '\x00' ++ text ++
    content.drop (position + text.length)

/-- Writes to a descriptor. The answer is whether that was possible. -/
def write (descriptor : Nat) (text : Raw) : Run Bool := do
  match ← openedAt descriptor with
  | none | some (_, .source _) => return false
  | some (_, .null) => return true
  | some (_, .sink pipe) =>
    modify fun m =>
      let c : Chunk := ⟨m.process.clock, m.process.lineage, text⟩
      { m with pipes := m.pipes.modify pipe fun p => p.write c }
    return true
  | some (n, .file path position append) =>
    let m ← get
    let node := (m.files.node? path).getD (.file [] false)
    let start := if append then node.content.length else position
    let written := Node.file (overwrite node.content start text) node.isExecutable
    set { m with
      files := m.files.put path written
      opened := m.opened.setIfInBounds n (.file path (start + text.length) append) }
    return true

def say (descriptor : Nat) (text : String) : Run Unit := do
  let _ ← write descriptor text.toList

/-- What a pipe gives next, at the time when it is there. At the end of a pipe it gives nothing. -/
def nextChunk (pipe : Nat) : Run Raw := do
  let m ← get
  match m.pipes[pipe]? with
  | none => return []
  | some p =>
    match p.chunks with
    | [] =>
      waitUntil p.closing
      return []
    | c :: rest =>
      set { m with pipes := m.pipes.setIfInBounds pipe { p with chunks := rest } }
      waitUntil c.time
      return c.text

/-- Gives back what was taken from a pipe and not used. -/
def giveBack (pipe : Nat) (text : Raw) : Run Unit := do
  if text ≠ [] then
    modify fun m =>
      let c : Chunk := ⟨m.process.clock, [], text⟩
      { m with pipes := m.pipes.modify pipe fun p => { p with chunks := c :: p.chunks } }

/-- Takes some text from a descriptor: a part of what is there, or nothing at its end. -/
def readSome (descriptor : Nat) : Run (Option Raw) := do
  match ← openedAt descriptor with
  | none | some (_, .sink _) => return none
  | some (_, .null) => return some []
  | some (_, .source pipe) => return some (← nextChunk pipe)
  | some (n, .file path position append) =>
    let m ← get
    let content := ((m.files.node? path).getD .null).content
    set { m with
      opened := m.opened.setIfInBounds n (.file path (max position content.length) append) }
    return some (content.drop position)

/-- Gives back what was read and not used. -/
def unread (descriptor : Nat) (text : Raw) : Run Unit := do
  match ← openedAt descriptor with
  | some (_, .source pipe) => giveBack pipe text
  | some (n, .file path position append) =>
    modify fun m =>
      { m with opened := m.opened.setIfInBounds n (.file path (position - text.length) append) }
  | _ => return

/-- Does something afterwards, whatever happens before. -/
def ensuring {α : Type} (after : Run Unit) (act : Run α) : Run α := do
  let a ← tryCatch act fun j => do
    after
    throw j
  after
  return a

/-- A message of the shell about the current command. -/
def warn (message : Raw) : Run Unit := do
  let p ← process
  let builtin := p.builtin.elim [] fun b => b ++ [':', ' ']
  let _ ← write 2 (p.name ++ [':', ' '] ++ Text.natChars p.line ++ [':', ' '] ++ builtin ++ message ++
    ['\n'])

/-- A message that ends the shell. -/
def failWith {α : Type} (message : Raw) : Run α := do
  warn message
  throw .failed

/-- Tells that a process was ended by a signal. -/
def report (s : Signal) : Run Unit :=
  match s.report? with
  | some message => say 2 (message ++ "\n")
  | none => pure ()

/-- Does something again as long as it asks for it, with a value that goes from round to round. -/
def repeatFrom {α : Type} (step : α → Run (Option α)) : Nat → α → Run Unit
  | 0, _ => throw .expired
  | rounds + 1, a => do
    match ← step a with
    | some a => repeatFrom step rounds a
    | none => return

/-- Does something for each item, as long as it asks for it. -/
def forEach {α : Type} (step : α → Run Bool) : List α → Run Unit
  | [] => return
  | a :: rest => do
    if ← step a then forEach step rest

/-- Takes a line, without its end, and whether it had one. -/
def readLine (descriptor : Nat) : Run (Raw × Bool) := do
  let before ← get
  lineFrom descriptor (before.budget + 1) []
where
  lineFrom (descriptor : Nat) : Nat → Raw → Run (Raw × Bool)
    | 0, line => return (line, false)
    | rounds + 1, line => do
      match ← readSome descriptor with
      | none | some [] => return (line, false)
      | some text =>
        let start := text.takeWhile (· != '\n')
        match text.dropWhile (· != '\n') with
        | [] => lineFrom descriptor rounds (line ++ start)
        | _ :: rest =>
          unread descriptor rest
          return (line ++ start, true)

end Run

end InlineLinkage.Shell
