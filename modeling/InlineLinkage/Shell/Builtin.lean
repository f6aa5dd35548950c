import InlineLinkage.Shell.Fields
import InlineLinkage.Shell.Utility

/-!
# Builtins

The commands that work on the shell itself: its variables, options, traps, jobs and flow. Those that run
other commands stand with the evaluation of commands.
-/
namespace InlineLinkage.Shell.Builtin

/-- Builtins whose errors end the shell, and whose assignments stay. -/
def special : List String :=
  [":", ".", "break", "continue", "eval", "exec", "exit", "export", "readonly", "return", "set",
    "shift", "times", "trap", "unset"]

def regular : List String :=
  ["[", "cd", "command", "echo", "false", "hash", "kill", "local", "printf", "pwd", "read", "test",
    "true", "type", "umask", "wait"]

def isSpecial (name : Raw) : Bool :=
  special.contains (String.ofList name)

def isBuiltin (name : Raw) : Bool :=
  isSpecial name || regular.contains (String.ofList name)

def illegalNumber (r : Raw) : Raw :=
  "Illegal number: ".toList ++ r

/-- The number that an argument gives, or a default. -/
def count (default : Nat) : List Raw → Run Nat
  | [] => return default
  | a :: _ =>
    match Raw.number? a with
    | some n => return n
    | none => Run.failWith (illegalNumber a)

/-- Writes to the standard output. The status tells whether that was possible. -/
def put (name : String) (text : Raw) : Run Nat := do
  if text.isEmpty then return 0
  else if ← Run.write 1 text then return 0
  else
    Run.warn (name ++ ": I/O error").toList
    return 1

/-- A text in quotes that the shell reads back. -/
def quote (r : Raw) : Raw :=
  '\'' :: (r.flatMap fun c => if c = '\'' then "'\"'\"'".toList else [c]) ++ ['\'']

/-- A name, with a value when an equals sign follows it. -/
def splitAssignment (r : Raw) : Raw × Option Raw :=
  match r.dropWhile (· != '=') with
  | _ :: value => (r.takeWhile (· != '='), some value)
  | [] => (r, none)

/-- Sets a variable that may be changed. -/
def assign (name value : Raw) : Run Unit := do
  let p ← Run.process
  if (p.lookup? name).any Variable.readOnly then Run.failWith (name ++ ": is read only".toList)
  else Run.modifyProcess fun p => p.assign name value

/-- The command that a name stands for on the search path. -/
def findOnPath (name : Raw) : Run (Option Path) := do
  let m ← get
  let directories := Raw.split ':' ((m.process.value? "PATH".toList).getD [])
  let candidates := directories.map fun d => (Path.resolve m.process.directory d).step name
  return candidates.find? m.files.isProgram

/-- Why a command cannot be run: a status and a message. -/
structure Unrunnable where
  status : Nat
  message : Raw

def notFound (name : Raw) : Unrunnable :=
  ⟨127, name ++ ": not found".toList⟩

def notPermitted (name : Raw) : Unrunnable :=
  ⟨126, name ++ ": Permission denied".toList⟩

/-- The file of a command. -/
def findProgram (name : Raw) : Run (Except Unrunnable Path) := do
  let m ← get
  if name.contains '/' then
    let p := Path.resolve m.process.directory name
    match m.files.node? p with
    | none => return .error (notFound name)
    | some _ => return if m.files.isProgram p then .ok p else .error (notPermitted name)
  else if name = [] then return .error { notPermitted name with status := 127 }
  else
    match ← findOnPath name with
    | some p => return .ok p
    | none => return .error (notFound name)

def exit (arguments : List Raw) : Run Nat := do
  throw (.exit (← count (← Run.process).status arguments))

def leaveFunction (arguments : List Raw) : Run Nat := do
  throw (.leaveFunction (← count (← Run.process).status arguments))

/-- Leaves some loops, or goes on with the next round of one. -/
def leaveLoops (jump : Nat → Jump) (arguments : List Raw) : Run Nat := do
  let n ← count 1 arguments
  let loops := (← Run.process).loops
  if n = 0 then Run.failWith (illegalNumber ['0'])
  else if loops = 0 then return 0
  else throw (jump (min n loops))

def shift (arguments : List Raw) : Run Nat := do
  let n ← count 1 arguments
  let p ← Run.process
  if p.arguments.length < n then Run.failWith "can't shift that many".toList
  else
    Run.modifyProcess fun p => { p with arguments := p.arguments.drop n }
    return 0

def sayLines (lines : List Raw) : Run Unit := do
  let _ ← Run.write 1 (lines.flatMap fun line => line ++ ['\n'])

/-- Marks variables, after setting those that come with values. -/
def mark (label : String) (isMarked : Variable → Bool) (set : Variable → Variable)
    (arguments : List Raw) : Run Nat := do
  if arguments.isEmpty || arguments == ["-p".toList] then
    let p ← Run.process
    let marked := (p.vars.filter isMarked).mergeSort fun v w => Raw.le v.name w.name
    sayLines (marked.map fun v =>
      label.toList ++ ' ' :: v.name ++ (v.value.elim [] fun r => '=' :: quote r))
    return 0
  else
    arguments.forM fun a => do
      let (name, value) := splitAssignment a
      if !Raw.isName name then Run.failWith (name ++ ": bad variable name".toList)
      else
        match value with
        | some value => assign name value
        | none => pure ()
        Run.modifyProcess fun p => p.putVariable (set ((p.lookup? name).getD ⟨name, none, false, false⟩))
    return 0

def makeLocal (arguments : List Raw) : Run Nat := do
  match (← Run.process).frames with
  | [] => Run.failWith "not in a function".toList
  | _ =>
    arguments.forM fun a => do
      let (name, value) := splitAssignment a
      Run.modifyProcess fun p =>
        match p.frames with
        | frame :: frames => { p with frames := ((name, p.lookup? name) :: frame) :: frames }
        | [] => p
      match value with
      | some value => assign name value
      | none => pure ()
    return 0

def unset (arguments : List Raw) : Run Nat := do
  let functions := arguments.head? == some "-f".toList
  let names := arguments.filter fun a => a.head? != some '-'
  names.forM fun name => do
    if functions then
      Run.modifyProcess fun p => { p with functions := p.functions.filter fun f => f.1 != name }
    else if ((← Run.process).lookup? name).any Variable.readOnly then
      Run.failWith (name ++ ": is read only".toList)
    else Run.modifyProcess fun p => p.unset name
  return 0

/-- A line with its backslashes taken as quotes, and whether it goes on in the next. -/
def unescapeLine : Raw → Marked × Bool
  | [] => ([], false)
  | ['\\'] => ([], true)
  | '\\' :: c :: rest =>
    let (m, more) := unescapeLine rest
    ((c, true) :: m, more)
  | c :: rest =>
    let (m, more) := unescapeLine rest
    ((c, false) :: m, more)

/-- A line for `read`, and whether it had an end. -/
def readMarked (literal : Bool) : Nat → Marked → Run (Marked × Bool)
  | 0, m => return (m, false)
  | rounds + 1, m => do
    let (line, ended) ← Run.readLine 0
    if literal then return (m ++ Marked.ofRaw false line, ended)
    else
      let (more, goesOn) := unescapeLine line
      if goesOn && ended then readMarked literal rounds (m ++ more) else return (m ++ more, ended)

def read (arguments : List Raw) : Run Nat := do
  let literal := arguments.any fun a => a.head? == some '-' && a.contains 'r'
  match arguments.filter fun a => a.head? != some '-' with
  | [] =>
    Run.warn "arg count".toList
    return 2
  | names =>
    let (m, ended) ← readMarked literal (← get).budget []
    let values := Raw.cutLine (← Run.process).separators names.length m
    (names.zip values).forM fun (name, value) => assign name value
    return if ended then 0 else 1

/-- Sets options from arguments up to the first that is none. What is left are parameters, when there
were any or a double hyphen stood before them. -/
def setOptions : List Raw → Run (Option (List Raw))
  | [] => return none
  | a :: rest => do
    let named (b : Bool) : Run (Option (List Raw)) := do
      match rest with
      | [] => return none
      | name :: rest =>
        match (← Run.process).options.setName? (String.ofList name) b with
        | some o =>
          Run.modifyProcess fun p => { p with options := o }
          setOptions rest
        | none => Run.failWith ("Illegal option -o ".toList ++ name)
    let lettered (letters : Raw) (b : Bool) : Run Unit :=
      letters.forM fun c => do
        match (← Run.process).options.setLetter? c b with
        | some o => Run.modifyProcess fun p => { p with options := o }
        | none => Run.failWith ("Illegal option ".toList ++ (if b then ['-', c] else ['+', c]))
    match a with
    | ['-', '-'] => return some rest
    | ['-', 'o'] => named true
    | ['+', 'o'] => named false
    | '-' :: c :: letters => do
      lettered (c :: letters) true
      setOptions rest
    | '+' :: c :: letters => do
      lettered (c :: letters) false
      setOptions rest
    | _ => return some (a :: rest)

def set (arguments : List Raw) : Run Nat := do
  if arguments.isEmpty then
    let p ← Run.process
    let sorted := p.vars.mergeSort fun v w => Raw.le v.name w.name
    sayLines (sorted.filterMap fun v => v.value.map fun r => v.name ++ '=' :: quote r)
  else
    match ← setOptions arguments with
    | some parameters => Run.modifyProcess fun p => { p with arguments := parameters }
    | none => pure ()
  return 0

def trap (arguments : List Raw) : Run Nat := do
  let change (names : List Raw) (f : Signal → Process → Process) : Run Nat :=
    Utility.each (fun name => do
      match Signal.ofText? name with
      | some s =>
        Run.modifyProcess (f s)
        return 0
      | none =>
        Run.say 2 ("trap: " ++ String.ofList name ++ ": bad trap\n")
        return 1) names
  let reset (s : Signal) (p : Process) : Process := p.dropTrap s
  match (if arguments.head? = some "--".toList then arguments.drop 1 else arguments) with
  | [] =>
    let p ← Run.process
    let sorted := p.traps.mergeSort fun t u => t.1.number ≤ u.1.number
    sayLines (sorted.map fun (s, action) => "trap -- ".toList ++ quote action ++ ' ' :: s.name.toList)
    return 0
  | [name] => change [name] reset
  | ['-'] :: names => change names reset
  | action :: names =>
    if Raw.isNumber action then change (action :: names) reset
    else change names fun s p => p.setTrap s action

/-- A job as it ended, which may be by a signal that it was sent. -/
def Job.ended (m : Machine) (j : Job) : Job :=
  match m.signals.find? fun (id, s, time) => id == j.id && !s.isHarmless && time < j.finish with
  | some (_, s, time) => { j with finish := time, status := s.status, signal := some s }
  | none => j

/-- Waits for a job. The answer tells how it ended. -/
def waitFor (j : Job) : Run Job := do
  let j := Job.ended (← get) j
  Run.waitUntil j.finish
  Run.modifyProcess fun p => { p with jobs := p.jobs.filter fun i => i.id != j.id }
  return j

def wait (arguments : List Raw) : Run Nat := do
  match arguments with
  | [] =>
    (← Run.process).jobs.forM fun j => do
      let _ ← waitFor j
    return 0
  | arguments =>
    let statuses ← arguments.mapM fun a => do
      let jobs := (← Run.process).jobs
      match (Raw.number? a).bind fun id => jobs.find? fun j => j.id == id with
      | some j =>
        let j ← waitFor j
        j.signal.forM Run.report
        return j.status
      | none => return 127
    return statuses.getLast?.getD 0

/-- Sends a signal to a process of this or a lower shell. -/
def send (s : Signal) (id : Nat) : Run Bool := do
  let m ← get
  let p := m.process
  let job := p.jobs.find? fun j => j.id == id
  let isAlive := p.lineage.contains id || job.any fun j => p.clock < (Job.ended m j).finish
  if isAlive && !s.isExit then
    let pipes := if job.isSome && !s.isHarmless then m.pipes.map (Pipe.retract · id p.clock) else m.pipes
    MonadState.set { m with signals := m.signals ++ [(id, s, p.clock)], pipes := pipes }
  return isAlive

/-- Sends a signal to the target that an argument names. -/
def sendTo (s : Signal) (a : Raw) : Run Nat := do
  let p ← Run.process
  let ids :=
    match a with
    | ['0'] | '-' :: _ => some p.lineage
    | a => (Raw.number? a).map fun n => [n]
  match ids with
  | none =>
    Run.warn (illegalNumber a)
    return 2
  | some ids =>
    let sent ← ids.mapM (send s)
    if sent.any id then return 0
    else
      Run.warn "No such process\n".toList
      return 1

def killUsage : Raw :=
  "Usage: kill [-s sigspec | -signum | -sigspec] [pid | job]... or\nkill -l [exitstatus]".toList

/-- The name of a signal by its number or by the status that it leaves. -/
def nameSignal (arguments : List Raw) : Run Nat := do
  match arguments with
  | [] =>
    let names := (List.range 64).map fun n => (Signal.name ⟨n + 1⟩).toList
    put "kill" (Utility.unlines (['0'] :: names))
  | a :: _ =>
    match Raw.number? a with
    | some n => put "kill" ((Signal.name ⟨if n > 128 then n - 128 else n⟩).toList ++ ['\n'])
    | none =>
      Run.warn (illegalNumber a)
      return 2

/-- Sends a signal to each target. -/
def sendAll (s : Signal) (targets : List Raw) : Run Nat := do
  match targets with
  | [] =>
    Run.warn killUsage
    return 2
  | targets =>
    let status ← Utility.each (sendTo s) targets
    Run.spend 1000
    return status

def kill (arguments : List Raw) : Run Nat := do
  let afterHyphens (targets : List Raw) : List Raw :=
    if targets.head? = some "--".toList then targets.drop 1 else targets
  match arguments with
  | ['-', 'l'] :: rest => nameSignal rest
  | ['-', 's'] :: name :: rest =>
    match Signal.ofText? name with
    | some s => sendAll s (afterHyphens rest)
    | none =>
      Run.warn ("invalid signal number or name: ".toList ++ name)
      return 2
  | ['-', '-'] :: rest => sendAll .terminate rest
  | ('-' :: c :: name) :: rest =>
    match Signal.ofText? (c :: name) with
    | some s => sendAll s (afterHyphens rest)
    | none =>
      Run.warn ("Illegal option -".toList ++ [c])
      return 2
  | rest => sendAll .terminate rest

def cd (arguments : List Raw) : Run Nat := do
  let p ← Run.process
  let back := arguments.head? == some ['-']
  let target :=
    match arguments with
    | [] => p.value? "HOME".toList
    | ['-'] :: _ => p.value? "OLDPWD".toList
    | a :: _ => some a
  match target with
  | none | some [] => return 0
  | some a =>
    let directory := Path.resolve p.directory a
    if (← get).files.isDirectory directory then
      Run.modifyProcess fun p =>
        let moved := (p.assign "OLDPWD".toList p.directory.text).assign "PWD".toList directory.text
        { moved with directory := directory }
      if back then sayLines [directory.text]
      return 0
    else
      Run.warn ("can't cd to ".toList ++ a)
      return 2

/-- What a name stands for, as `command -v` says it. -/
def whereIs (name : Raw) : Run (Option Raw) := do
  let p ← Run.process
  if isBuiltin name || p.functions.any fun f => f.1 == name then return some name
  else
    match ← findProgram name with
    | .ok path => return some (if name.contains '/' then name else path.text)
    | .error _ => return none

def type (arguments : List Raw) : Run Nat :=
  Utility.each (fun name => do
    let p ← Run.process
    if isSpecial name then
      sayLines [name ++ " is a special shell builtin".toList]
      return 0
    else if isBuiltin name then
      sayLines [name ++ " is a shell builtin".toList]
      return 0
    else if p.functions.any fun f => f.1 == name then
      sayLines [name ++ " is a shell function".toList]
      return 0
    else
      match ← whereIs name with
      | some r =>
        sayLines [name ++ " is ".toList ++ r]
        return 0
      | none =>
        sayLines [name ++ ": not found".toList]
        return 127) arguments

/-- The builtins that run no other commands. -/
def run? (name : String) (arguments : List Raw) : Option (Run Nat) :=
  match name with
  | ":" | "true" | "hash" | "times" => some (return 0)
  | "false" => some (return 1)
  | "echo" => some (put "echo" (Format.echo arguments))
  | "printf" => some (Utility.printf (put "printf") Run.warn arguments)
  | "test" => some (Utility.test Run.warn arguments)
  | "[" => some (Utility.bracket Run.warn arguments)
  | "pwd" => some (do put "pwd" ((← Run.process).directory.text ++ ['\n']))
  | "umask" => some (do
      if arguments.isEmpty then sayLines ["0022".toList]
      return 0)
  | "exit" => some (exit arguments)
  | "return" => some (leaveFunction arguments)
  | "break" => some (leaveLoops .leaveLoops arguments)
  | "continue" => some (leaveLoops .nextRound arguments)
  | "shift" => some (shift arguments)
  | "export" => some (mark "export" Variable.exported (fun v => { v with exported := true }) arguments)
  | "readonly" =>
    some (mark "readonly" Variable.readOnly (fun v => { v with readOnly := true }) arguments)
  | "local" => some (makeLocal arguments)
  | "unset" => some (unset arguments)
  | "read" => some (read arguments)
  | "set" => some (set arguments)
  | "trap" => some (trap arguments)
  | "wait" => some (wait arguments)
  | "kill" => some (kill arguments)
  | "cd" => some (cd arguments)
  | "type" => some (type arguments)
  | _ => none

end InlineLinkage.Shell.Builtin
