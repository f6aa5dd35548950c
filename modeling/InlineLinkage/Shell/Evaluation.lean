import InlineLinkage.Shell.Builtin
import InlineLinkage.Shell.Reading

/-!
# Evaluation

Words are expanded and commands are run. A command is told whether its failure is tested: only a
failure that nothing tests ends a shell that was asked to stop at failures. What runs in a process of its
own is followed to its end before its parent goes on; the times on what it wrote tell what came first.
-/
namespace InlineLinkage.Shell

/-- How a process ended. -/
structure Ending where
  id : Nat
  status : Nat
  signal : Option Signal := none
  time : Nat
  /-- It did not end within what can be seen. -/
  expired : Bool := false

namespace Run

/-- How long a copy of the shell takes to start. -/
def forkTime : Nat := 200000

/-- For how many steps a copy of the shell counts. -/
def forkSteps : Nat := 200

/-- How long a command of the shell itself takes. -/
def commandTime : Nat := 2000

/-- How long a process in the background is followed. -/
def backgroundHorizon : Nat := Nat.pow 10 15

/-- How many steps of a process in the background are followed. -/
def backgroundBudget : Nat := 200000

/-- A signal that a shell gets when its calls are nested too deeply. -/
def tooDeep : Signal := ⟨11⟩

/-- The interpreter that the first line of a script names, with an argument. -/
def interpreter? : Raw → Option (Raw × Option Raw)
  | '#' :: '!' :: rest =>
    let line := (rest.takeWhile (· != '\n')).dropWhile Cutting.isBlank
    let line := (line.reverse.dropWhile Cutting.isBlank).reverse
    let name := line.takeWhile fun c => !Cutting.isBlank c
    let argument := (line.drop name.length).dropWhile Cutting.isBlank
    some (name, if argument = [] then none else some argument)
  | _ => none

/-- The programs that read scripts. -/
def isShell (program : Raw) : Bool :=
  ["sh", "dash", "bash"].contains (String.ofList program)

def ofValue (quoted : Bool) (r : Raw) : Fragment :=
  if quoted then .text (Marked.ofRaw true r) else .value r

/-- The fragments of all parameters, with field ends between them. -/
def separate (f : Raw → Fragment) : List Raw → List Fragment
  | [] => []
  | [r] => [f r]
  | r :: rest => f r :: .boundary :: separate f rest

/-- The value of a parameter that is not all of them. -/
def parameter? (name : Raw) : Run (Option Raw) := do
  let p ← process
  match name with
  | ['?'] => return some (Text.natChars p.status)
  | ['$'] => return some (Text.natChars p.shell)
  | ['!'] => return p.lastJob.map Text.natChars
  | ['#'] => return some (Text.natChars p.arguments.length)
  | ['-'] => return some p.options.letters
  | ['0'] => return some p.name
  | name =>
    match Raw.number? name with
    | some n => return if n = 0 then some p.name else p.arguments[n - 1]?
    | none => return p.value? name

def isAll (name : Raw) : Bool :=
  name == ['@'] || name == ['*']

/-- All parameters as one text. -/
def joined : Run Raw := do
  let p ← process
  return Raw.join (p.separators.take 1) p.arguments

def allFragments (quoted : Bool) (name : Raw) : Run (List Fragment) := do
  if quoted && name == ['*'] then return [ofValue true (← joined)]
  else return separate (ofValue quoted) (← process).arguments

/-- Sets a variable during the expansion of a word. -/
def assignParameter (name value : Raw) : Run Unit := do
  if Raw.isName name then Builtin.assign name value
  else failWith (name ++ ": bad variable name".toList)

/-- Closes what an ended process had open. -/
def closeAll (time : Nat) : Run Unit := do
  let m ← get
  let pipes := m.process.descriptors.foldl (fun pipes (_, n) =>
    match m.opened[n]? with
    | some (.sink pipe) => pipes.modify pipe fun (p : Pipe) => { p with closing := max p.closing time }
    | _ => pipes) m.pipes
  set { m with pipes := pipes }

/-- Waits for a process in the foreground. An unusual end is reported. -/
def await (e : Ending) : Run Nat := do
  if e.expired then throw .expired
  waitUntil e.time
  match e.signal with
  | none => return e.status
  | some s =>
    report s
    return s.status

/-- Opens a file for a redirection. The answer is its number, or a message. -/
def openFile (kind : RedirectKind) (target : Raw) : Run (Except Raw Nat) := do
  let m ← get
  let path := Path.resolve m.process.directory target
  let failed (action reason : String) : Run (Except Raw Nat) :=
    return .error ((action ++ " ").toList ++ target ++ (": " ++ reason).toList)
  match m.files.node? path, kind with
  | none, .read => failed "cannot open" "No such file"
  | some .null, _ => return .ok (← opening .null)
  | some .directory, .read => return .ok (← opening .null)
  | some _, .read => return .ok (← opening (.file path 0 false))
  | some .directory, _ => failed "cannot create" "Is a directory"
  | node, kind =>
    if node.isNone && !m.files.isDirectory path.parent then
      failed "cannot create" "Directory nonexistent"
    else if kind == .write && m.process.options.noclobber && node.isSome then
      failed "cannot create" "File exists"
    else
      let old := node.getD (.file [] false)
      let kept := if kind == .append || kind == .update then old.content else []
      set { m with files := m.files.put path (.file kept (node.any Node.isExecutable)) }
      return .ok (← opening (.file path 0 (kind == .append)))

/-- Lets a descriptor stand for what another stands for. The answer is a message when there is none. -/
def duplicate (descriptor : Nat) (target : Raw) : Run (Option Raw) := do
  if target = ['-'] then
    modifyProcess fun p => p.close descriptor
    return none
  else
    match Raw.number? target with
    | none => return some "Syntax error: Bad fd number".toList
    | some n =>
      match (← process).opened? n with
      | some o =>
        modifyProcess fun p => p.bind descriptor o
        return none
      | none => return some (target ++ ": Bad file descriptor".toList)

/-- Lets a descriptor stand for a text that can be read. -/
def bindText (descriptor : Nat) (text : Raw) : Run Unit := do
  let clock := (← process).clock
  let pipe ← newPipe { chunks := if text = [] then [] else [⟨clock, [], text⟩], closing := clock }
  let o ← opening (.source pipe)
  modifyProcess fun p => p.bind descriptor o

/-- Runs with variables that are set for the time being. -/
def withVariables {α : Type} (values : List (Raw × Raw)) (act : Run α) : Run α := do
  let before ← process
  values.forM fun (name, value) => do
    Builtin.assign name value
    modifyProcess fun p => p.putVariable ⟨name, some value, true, false⟩
  ensuring (modifyProcess fun p =>
    p.restore (values.reverse.map fun (name, _) => (name, before.lookup? name))) act

/-- The text that leads to the file of a command. -/
def fileText (name : Raw) (path : Path) : Raw :=
  if name.contains '/' then name else path.text

/-- The trace of a command. -/
def trace (descriptors : List (Nat × Nat)) (values : List (Raw × Raw)) (arguments : List Raw) :
    Run Unit := do
  let p ← process
  if p.options.xtrace then
    let mark := (p.value? "PS4".toList).getD ['+', ' ']
    let words := (values.map fun (name, value) => name ++ '=' :: value) ++ arguments
    modifyProcess fun p => { p with descriptors := descriptors }
    let _ ← write 2 (mark ++ Raw.join [' '] words ++ ['\n'])
    modifyProcess fun q => { q with descriptors := p.descriptors }

/-- A word that starts with a tilde starts with a home directory. -/
def expandHome (p : Process) (w : Word) : Word :=
  match w with
  | .plain ('~' :: s) :: rest =>
    let user := s.takeWhile (· != '/')
    let isWhole := user.length < s.length || rest.isEmpty
    let home? :=
      if !isWhole then none
      else if user.isEmpty then p.value? "HOME".toList
      else if user = "root".toList then some "/root".toList
      else none
    match home? with
    | some home => .quoted home :: .plain (s.drop user.length) :: rest
    | none => w
  | w => w

/-- What the arguments of a shell ask for. -/
structure Invocation where
  options : Options := {}
  /-- The first operand is a script itself. -/
  isCommand : Bool := false
  operands : List Raw := []

/-- Reads the arguments of a shell. -/
def invocation? (v : Invocation) : List Raw → Option Invocation
  | [] => some v
  | ['-', '-'] :: rest => some { v with operands := rest }
  | ['-', 'o'] :: name :: rest => do
    let o ← v.options.setName? (String.ofList name) true
    invocation? { v with options := o } rest
  | ('-' :: c :: letters) :: rest => do
    let letters := c :: letters
    let own := letters.filter fun c => c != 'c' && c != 's'
    let o ← own.foldlM (fun o c => o.setLetter? c true) v.options
    invocation? { v with options := o, isCommand := v.isCommand || letters.contains 'c' } rest
  | rest => some { v with operands := rest }

mutual

/-- The fragments of a word. -/
def expand : Nat → Word → Run (List Fragment)
  | 0, _ => throw (.killed tooDeep)
  | fuel + 1, w => do
    (expandHome (← process) w).flatMapM fun p => expandPiece fuel p

def expandPiece : Nat → Piece → Run (List Fragment)
  | 0, _ => throw (.killed tooDeep)
  | fuel + 1, p => do
    match p with
    | .plain r => return [.text (Marked.ofRaw false r)]
    | .quoted r => return [.text (Marked.ofRaw true r)]
    | .parameter quoted name operation => expandParameter fuel quoted name operation
    | .output quoted c => return [ofValue quoted (← capture fuel c)]
    | .arithmetic quoted e =>
      let text ← expandWhole fuel e
      let p ← process
      match Arithmetic.run p.value? text with
      | .error f => failWith (f.message text)
      | .ok (n, changes) =>
        changes.forM fun (name, n) => Builtin.assign name (Text.intChars n)
        return [ofValue quoted (Text.intChars n)]

/-- The text of a word that is not cut. -/
def expandWhole : Nat → Word → Run Raw
  | 0, _ => throw (.killed tooDeep)
  | fuel + 1, w => return (Fragment.whole (← expand fuel w)).toRaw

/-- The word of an operation. Outside of quotes its text is cut. -/
def expandAlternative : Nat → Bool → Word → Run (List Fragment)
  | 0, _, _ => throw (.killed tooDeep)
  | fuel + 1, quoted, w => do
    let fs ← w.flatMapM fun p => do
      match p, quoted with
      | .plain r, false => return [.value r]
      | p, _ => expandPiece fuel p
    return if quoted && fs.isEmpty then [.text []] else fs

def expandParameter : Nat → Bool → Raw → Operation → Run (List Fragment)
  | 0, _, _, _ => throw (.killed tooDeep)
  | fuel + 1, quoted, name, operation => do
    let p ← process
    let value? ←
      if !isAll name then parameter? name
      else if p.arguments.isEmpty then pure none
      else some <$> joined
    let fragments : Run (List Fragment) :=
      if isAll name then allFragments quoted name
      else return [ofValue quoted (value?.getD [])]
    let isSet (colon : Bool) : Bool := value?.any fun r => !(colon && r.isEmpty)
    let demanded : Run Unit := do
      if value?.isNone && p.options.nounset && !isAll name then
        failWith (name ++ ": parameter not set".toList)
    match operation with
    | .value =>
      demanded
      fragments
    | .length =>
      demanded
      return [ofValue quoted (Text.natChars (value?.getD []).length)]
    | .default colon w => if isSet colon then fragments else expandAlternative fuel quoted w
    | .assign colon w =>
      if isSet colon then fragments
      else
        let value ← expandWhole fuel w
        assignParameter name value
        return [ofValue quoted value]
    | .demand colon w =>
      if isSet colon then fragments
      else
        let message ← expandWhole fuel w
        let usual := "parameter not set" ++ if colon then " or null" else ""
        failWith (name ++ [':', ' '] ++ if w.isEmpty then usual.toList else message)
    | .replace colon w =>
      if isSet colon then expandAlternative fuel quoted w
      else return if quoted then [.text []] else []
    | .trimStart longest w =>
      demanded
      let pattern := Wildcard.ofMarked (Fragment.whole (← expand fuel w))
      return [ofValue quoted (Wildcard.trimStart longest pattern (value?.getD []))]
    | .trimEnd longest w =>
      demanded
      let pattern := Wildcard.ofMarked (Fragment.whole (← expand fuel w))
      return [ofValue quoted (Wildcard.trimEnd longest pattern (value?.getD []))]

/-- The output of a command, without the line feeds at its end. -/
def capture : Nat → Command → Run Raw
  | 0, _ => throw (.killed tooDeep)
  | fuel + 1, c => do
    let pipe ← newPipe {}
    let sink ← opening (.sink pipe)
    let e ← child fuel (fun p => p.bind 1 sink) do
      let _ ← eval fuel false c
    let status ← await e
    modifyProcess fun p => { p with substituted := status }
    let p := ((← get).pipes[pipe]?).getD {}
    waitUntil p.closing
    return Raw.dropFinalNewlines (p.text.filter (· != '\x00'))

/-- The fields of words. -/
def expandFields : Nat → List Word → Run (List Raw)
  | 0, _ => throw (.killed tooDeep)
  | fuel + 1, ws =>
    ws.flatMapM fun w => do
      let fs ← expand fuel w
      let m ← get
      let fields := Cutting.fieldsOf m.process.separators fs
      return if m.process.options.noglob then fields.map Marked.toRaw
        else fields.flatMap fun f => Wildcard.files m.files m.process.directory f

/-- Runs to the end of a process: what was asked for, and what is trapped at the end. -/
def runToEnd : Nat → Run Unit → Run Ending
  | 0, _ => throw (.killed tooDeep)
  | fuel + 1, body => do
    let first ← ending body
    if first.signal.isSome || first.expired then return first
    else
      match (← process).trap? Signal.exit with
      | none | some [] => return first
      | some action =>
        modifyProcess fun p => { p.dropTrap Signal.exit with status := first.status, builtin := none }
        ending do
          runText fuel false action
          throw (.exit first.status)
where
  /-- How a process ends that does this. -/
  ending (body : Run Unit) : Run Ending := do
    let ended (status : Nat) : Run Ending := do
      let p ← process
      return { id := p.id, status := status % 256, time := p.clock }
    tryCatch (do
      body
      ended (← process).status) fun j => do
      match j with
      | .exit status | .leaveFunction status => ended status
      | .failed => ended 2
      | .leaveLoops _ | .nextRound _ => ended 0
      | .killed s => return { ← ended s.status with signal := some s }
      | .expired =>
        let p ← process
        return { id := p.id, status := 0, time := max p.clock (p.horizon + 1), expired := true }

/-- Runs a copy of the shell. -/
def child : Nat → (Process → Process) → Run Unit → Run Ending
  | 0, _, _ => throw (.killed tooDeep)
  | fuel + 1, prepare, body => do
    let m ← get
    let id := m.nextProcess
    set { m with nextProcess := id + 1, process := prepare (m.process.forked id) }
    let e ← runToEnd fuel do
      charge forkSteps
      spend forkTime
      body
    closeAll e.time
    modifyProcess fun _ => m.process
    return e

/-- Runs the lines of a script one by one. -/
def runText : Nat → Bool → Raw → Run Unit
  | 0, _, _ => throw (.killed tooDeep)
  | fuel + 1, tested, text =>
    repeatFrom (fun (r : Reader) => do
      let before := r.rest
      match { r with nextDocument := (← get).nextDocument, documents := [] }.nextLine with
      | .error e =>
        modifyProcess fun p => { p with line := e.line }
        failWith e.fault.message.toList
      | .ok (none, _) => return none
      | .ok (some c, r) =>
        modify fun m =>
          { m with documents := r.documents ++ m.documents, nextDocument := r.nextDocument }
        let p ← process
        if p.options.verbose && p.builtin.isNone then
          let _ ← write 2 (before.take (before.length - r.rest.length))
        let _ ← eval fuel tested c
        return some r) (text.length + 2) (Reader.ofText text)

/-- Runs a shell with its arguments, in the current process. -/
def runShell : Nat → Raw → List Raw → Run Unit
  | 0, _, _ => throw (.killed tooDeep)
  | fuel + 1, name, arguments => do
    match invocation? {} arguments with
    | none =>
      say 2 (String.ofList name ++ ": 0: Illegal option\n")
      throw (.exit 2)
    | some v =>
      match v.isCommand, v.operands with
      | true, [] =>
        say 2 (String.ofList name ++ ": 0: -c requires an argument\n")
        throw (.exit 2)
      | true, text :: operands =>
        modifyProcess fun p => p.fresh (operands.head?.getD name) (operands.drop 1) v.options
        runText fuel false text
      | false, [] =>
        modifyProcess fun p => p.fresh name [] v.options
        let pipe ← newPipe {}
        let sink ← opening (.sink pipe)
        let e ← child fuel (fun p => p.bind 1 sink) do
          let _ ← Utility.copyInput (String.ofList name) {}
        let _ ← await e
        runText fuel false (((← get).pipes[pipe]?).getD {}).text
      | false, file :: operands =>
        match ← Utility.node? file with
        | some (.file content _) =>
          modifyProcess fun p => p.fresh file operands v.options
          runText fuel false content
        | some _ =>
          say 2 (String.ofList name ++ ": 0: cannot open " ++ String.ofList file ++ ": No such file\n")
          throw (.exit 2)
        | none =>
          say 2 (String.ofList name ++ ": 0: cannot open " ++ String.ofList file ++ ": No such file\n")
          throw (.exit 2)

/-- Runs a program in the current process. A program is told its name as it was called, and a script the
text that leads to its file. -/
def runProgram : Nat → Path → Raw → Raw → List Raw → Run Unit
  | 0, _, _, _, _ => throw (.killed tooDeep)
  | fuel + 1, path, file, name, arguments => do
    match (← get).files.node? path with
    | some (.program program) =>
      spend Utility.startTime
      if isShell program then runShell fuel name arguments
      else
        match Utility.run? (String.ofList program) (String.ofList name) arguments with
        | some act => throw (.exit (← act))
        | none =>
          warn (name ++ ": Permission denied".toList)
          throw (.exit 126)
    | some (.file content _) =>
      spend Utility.startTime
      match interpreter? content with
      | none =>
        modifyProcess fun p => p.fresh file arguments {}
        runText fuel false content
      | some (interpreter, argument) =>
        let m ← get
        let ipath := Path.resolve m.process.directory interpreter
        if m.files.isProgram ipath then
          runProgram fuel ipath interpreter interpreter (argument.toList ++ file :: arguments)
        else
          warn (name ++ ": not found".toList)
          throw (.exit 127)
    | _ =>
      warn (name ++ ": not found".toList)
      throw (.exit 127)

/-- Runs what traps ask for and ends the shell at signals that nothing traps. -/
def deliver : Nat → Run Unit
  | 0 => throw (.killed tooDeep)
  | fuel + 1 => do
    let m ← get
    if !m.signals.isEmpty then
      let p := m.process
      match m.signals.find? fun (id, _, time) => id == p.id && time ≤ p.clock with
      | none => return
      | some (_, s, time) =>
        let isThis (t : Nat × Signal × Nat) : Bool := t == (p.id, s, time)
        set { m with signals := m.signals.filter fun t => !isThis t }
        if isFatal p s then throw (.killed s)
        match p.trap? s with
        | none | some [] => pure ()
        | some action =>
          runText fuel false action
          modifyProcess fun q => { q with status := p.status }
        deliver fuel

/-- Opens the targets of redirections. The answer is whether all could be opened. -/
def redirect : Nat → List Redirect → Run Bool
  | 0, _ => throw (.killed tooDeep)
  | _ + 1, [] => return true
  | fuel + 1, r :: rest => do
    let failure? ← match r with
      | .document descriptor number => do
        let w := ((← get).documents.find? fun d => d.1 == number).elim [] Prod.snd
        bindText descriptor (← expandWhole fuel w)
        pure none
      | .file descriptor .duplicate w => do duplicate descriptor (← expandWhole fuel w)
      | .file descriptor kind w => do
        match ← openFile kind (← expandWhole fuel w) with
        | .ok o =>
          modifyProcess fun p => p.bind descriptor o
          pure none
        | .error message => pure (some message)
    match failure? with
    | none => redirect fuel rest
    | some message =>
      let builtin := (← process).builtin
      modifyProcess fun p => { p with builtin := none }
      warn message
      modifyProcess fun p => { p with builtin := builtin }
      return false

/-- Runs a command and gives its status. -/
def eval : Nat → Bool → Command → Run Nat
  | 0, _, _ => throw (.killed tooDeep)
  | fuel + 1, tested, c => do
    if (← process).options.noexec then return 0
    match c with
    | .empty => return 0
    | .simple line values words redirects =>
      evalChecked fuel tested (evalSimple fuel tested line values words redirects)
    | .pipeline cs =>
      evalChecked fuel tested do
        let endings ← evalPipeline fuel tested none cs
        if endings.any Ending.expired then throw .expired
        waitUntil ((endings.map Ending.time).foldl max 0)
        match endings.getLast? with
        | some e => await e
        | none => return 0
    | .subshell c =>
      evalChecked fuel tested do
        await (← child fuel id do
          let _ ← eval fuel tested c)
    | .negation c =>
      let status ← eval fuel true c
      finish fuel (if status = 0 then 1 else 0)
    | .both c d =>
      let status ← eval fuel true c
      if status = 0 then eval fuel tested d else return status
    | .either c d =>
      let status ← eval fuel true c
      if status = 0 then return status else eval fuel tested d
    | .sequence c d =>
      let _ ← eval fuel tested c
      eval fuel tested d
    | .background c =>
      evalBackground fuel c
      finish fuel 0
    | .redirected line c redirects =>
      modifyProcess fun p => { p with line := line }
      let descriptors := (← process).descriptors
      let status ← ensuring (modifyProcess fun p => { p with descriptors := descriptors }) do
        if ← redirect fuel redirects then eval fuel tested c else return 2
      finish fuel status
    | .conditional test yes no =>
      let status ← eval fuel true test
      let status ← eval fuel tested (if status = 0 then yes else no)
      finish fuel status
    | .loop whenTrue test body =>
      let rounds := (← get).budget + 1
      let status ← loops do
        repeatFrom (fun (status : Nat) => do
          let t ← eval fuel true test
          if (t == 0) == whenTrue then return some (← evalRound fuel tested body)
          else
            modifyProcess fun p => { p with status := status }
            return none) rounds 0
      finish fuel status
    | .each line name words body =>
      modifyProcess fun p => { p with line := line }
      let items ← expandFields fuel words
      modifyProcess fun p => { p with status := 0 }
      let status ← loops do
        forEach (fun item => do
          Builtin.assign name item
          let _ ← evalRound fuel tested body
          return true) items
      finish fuel status
    | .choice line w arms =>
      modifyProcess fun p => { p with line := line }
      let text ← expandWhole fuel w
      let body ← chosen fuel text arms
      let status ← eval fuel tested body
      finish fuel status
    | .define name body =>
      modifyProcess fun p =>
        { p with functions := (name, body) :: p.functions.filter fun f => f.1 != name }
      finish fuel 0
where
  /-- Runs a loop, which can be left. -/
  loops (act : Run Unit) : Run Nat := do
    let before := (← process).loops
    modifyProcess fun p => { p with loops := before + 1 }
    ensuring (modifyProcess fun p => { p with loops := before }) do
      tryCatch (do
        act
        return (← process).status) fun
        | .leaveLoops n => if n ≤ 1 then return 0 else throw (.leaveLoops (n - 1))
        | j => throw j

/-- Runs the body of a loop once. -/
def evalRound : Nat → Bool → Command → Run Nat
  | 0, _, _ => throw (.killed tooDeep)
  | fuel + 1, tested, body => do
    spend commandTime
    tryCatch (eval fuel tested body) fun
      | .nextRound n =>
        if n ≤ 1 then do
          modifyProcess fun p => { p with status := 0 }
          return 0
        else throw (.nextRound (n - 1))
      | j => throw j

/-- Records the status of a command. -/
def finish : Nat → Nat → Run Nat
  | 0, _ => throw (.killed tooDeep)
  | fuel + 1, status => do
    modifyProcess fun p => { p with status := status }
    deliver fuel
    return status

/-- Runs a command whose failure can end the shell. -/
def evalChecked : Nat → Bool → Run Nat → Run Nat
  | 0, _, _ => throw (.killed tooDeep)
  | fuel + 1, tested, act => do
    let status ← act
    let status ← finish fuel status
    if status ≠ 0 ∧ !tested ∧ (← process).options.errexit then throw (.exit status)
    else return status

/-- The body of the first arm with a pattern that fits. -/
def chosen : Nat → Raw → List (List Word × Command) → Run Command
  | 0, _, _ => throw (.killed tooDeep)
  | _ + 1, _, [] => return .empty
  | fuel + 1, text, (patterns, body) :: rest => do
    if ← fitsAny fuel text patterns then return body else chosen fuel text rest

def fitsAny : Nat → Raw → List Word → Run Bool
  | 0, _, _ => throw (.killed tooDeep)
  | _ + 1, _, [] => return false
  | fuel + 1, text, w :: rest => do
    let pattern := Wildcard.ofMarked (Fragment.whole (← expand fuel w))
    if Wildcard.fits pattern text then return true else fitsAny fuel text rest

/-- Starts the commands of a pipeline at one time, each reading what the one before wrote. -/
def evalPipeline : Nat → Bool → Option Nat → List Command → Run (List Ending)
  | 0, _, _, _ => throw (.killed tooDeep)
  | _ + 1, _, _, [] => return []
  | fuel + 1, tested, input, c :: rest => do
    let reading (p : Process) : Process := input.elim p fun o => p.bind 0 o
    if rest.isEmpty then
      let e ← child fuel reading do
        let _ ← eval fuel tested c
      return [e]
    else
      let pipe ← newPipe {}
      let sink ← opening (.sink pipe)
      let e ← child fuel (fun p => (reading p).bind 1 sink) do
        let _ ← eval fuel tested c
      sealPipe pipe
      let source ← opening (.source pipe)
      let es ← evalPipeline fuel tested (some source) rest
      return e :: es

/-- Runs a command in the background, which reads nothing. -/
def evalBackground : Nat → Command → Run Unit
  | 0, _ => throw (.killed tooDeep)
  | fuel + 1, c => do
    let m ← get
    let budget := min m.budget backgroundBudget
    let null ← opening .null
    modify fun m => { m with budget := budget }
    let e ← child fuel (fun p => { p.bind 0 null with horizon := p.clock + backgroundHorizon }) do
      let _ ← eval fuel false c
    modify fun after => { after with budget := m.budget - (budget - after.budget) }
    let status := e.signal.elim e.status Signal.status
    modifyProcess fun p =>
      { p with jobs := p.jobs ++ [⟨e.id, e.time, status, e.signal⟩], lastJob := some e.id }

/-- Runs a simple command. -/
def evalSimple : Nat → Bool → Nat → List (Raw × Word) → List Word → List Redirect → Run Nat
  | 0, _, _, _, _, _ => throw (.killed tooDeep)
  | fuel + 1, tested, line, values, words, redirects => do
    modifyProcess fun p => { p with line := line, substituted := 0 }
    spend commandTime
    let arguments ← expandFields fuel words
    let descriptors := (← process).descriptors
    let isSpecial := arguments.head?.any Builtin.isSpecial
    let keepsDescriptors := arguments == ["exec".toList]
    let restore : Run Unit := do
      if !keepsDescriptors then modifyProcess fun p => { p with descriptors := descriptors }
    ensuring restore do
      if !(← redirect fuel redirects) then
        if isSpecial then throw .failed else return 2
      else
        match arguments with
        | [] =>
          let expanded ← evalValues fuel true values
          trace descriptors expanded []
          return (← process).substituted
        | name :: rest =>
          let expanded ← evalValues fuel isSpecial values
          trace descriptors expanded arguments
          if isSpecial then evalCommand fuel tested true name rest
          else withVariables expanded (evalCommand fuel tested true name rest)

/-- The values of assignments, which are made at once when they stay. -/
def evalValues : Nat → Bool → List (Raw × Word) → Run (List (Raw × Raw))
  | 0, _, _ => throw (.killed tooDeep)
  | _ + 1, _, [] => return []
  | fuel + 1, stay, (name, w) :: rest => do
    let value ← expandWhole fuel w
    if stay then Builtin.assign name value
    let others ← evalValues fuel stay rest
    return (name, value) :: others

/-- Runs a function, a builtin or a program. -/
def evalCommand : Nat → Bool → Bool → Raw → List Raw → Run Nat
  | 0, _, _, _, _ => throw (.killed tooDeep)
  | fuel + 1, tested, withFunctions, name, arguments => do
    let p ← process
    let function := if withFunctions then p.functions.find? fun f => f.1 == name else none
    match Builtin.isSpecial name, function with
    | false, some (_, body) => evalFunction fuel tested body arguments
    | _, _ =>
      if Builtin.isBuiltin name then
        modifyProcess fun p => { p with builtin := some name }
        ensuring (modifyProcess fun q => { q with builtin := p.builtin }) do
          evalBuiltin fuel tested name arguments
      else
        match ← Builtin.findProgram name with
        | .error e =>
          warn e.message
          return e.status
        | .ok path =>
          await (← child fuel id (runProgram fuel path (fileText name path) name arguments))

def evalFunction : Nat → Bool → Command → List Raw → Run Nat
  | 0, _, _, _ => throw (.killed tooDeep)
  | fuel + 1, tested, body, arguments => do
    let before ← process
    modifyProcess fun p => { p with arguments := arguments, frames := [] :: p.frames, loops := 0 }
    ensuring (modifyProcess fun p =>
      let p := p.restore (p.frames.head?.getD [])
      { p with arguments := before.arguments, frames := before.frames, loops := before.loops }) do
      tryCatch (eval fuel tested body) fun
        | .leaveFunction status => return status
        | j => throw j

/-- Runs a builtin. -/
def evalBuiltin : Nat → Bool → Raw → List Raw → Run Nat
  | 0, _, _, _ => throw (.killed tooDeep)
  | fuel + 1, tested, name, arguments => do
    match String.ofList name, arguments with
    | "eval", arguments =>
      modifyProcess fun p => { p with status := 0 }
      runText fuel tested (Raw.join [' '] arguments)
      return (← process).status
    | ".", file :: _ => evalFile fuel file
    | ".", [] => return 0
    | "exec", [] => return 0
    | "exec", name :: rest =>
      match ← Builtin.findProgram name with
      | .error e =>
        warn e.message
        throw (.exit e.status)
      | .ok path =>
        modifyProcess fun p => { p with traps := p.ignoredTraps, builtin := none }
        runProgram fuel path (fileText name path) name rest
        throw (.exit (← process).status)
    | "command", [] => return 0
    | "command", option :: rest =>
      if option = "-v".toList ∨ option = "-V".toList then
        match rest with
        | [] => return 0
        | name :: _ =>
          match ← Builtin.whereIs name with
          | some r =>
            Builtin.sayLines [r]
            return 0
          | none => return 127
      else
        let (name, rest) :=
          if option = "-p".toList ∨ option = "--".toList then (rest.head?.getD [], rest.drop 1)
          else (option, rest)
        modifyProcess fun p => { p with builtin := none }
        tryCatch (evalCommand fuel tested false name rest) fun
          | .failed => return 2
          | j => throw j
    | name, arguments =>
      match Builtin.run? name arguments with
      | some act =>
        if Builtin.isSpecial name.toList then act
        else
          tryCatch act fun
            | .failed => return 2
            | j => throw j
      | none => return 127

/-- Runs the commands of a file in the shell itself. Nothing tests them. -/
def evalFile : Nat → Raw → Run Nat
  | 0, _ => throw (.killed tooDeep)
  | fuel + 1, file => do
    let m ← get
    let path ← if file.contains '/' then pure (some (Path.resolve m.process.directory file))
      else
        let directories := Raw.split ':' ((m.process.value? "PATH".toList).getD [])
        let candidates := directories.map fun d => (Path.resolve m.process.directory d).step file
        pure (candidates.find? fun p => (m.files.node? p).any Node.isFile)
    match path.bind m.files.node? with
    | some (.file content _) =>
      modifyProcess fun p => { p with status := 0 }
      tryCatch (do
        runText fuel false content
        return (← process).status) fun
        | .leaveFunction status => do
          if status ≠ 0 ∧ (← process).options.errexit then throw (.exit status) else return status
        | j => throw j
    | _ =>
      if file.contains '/' then failWith ("cannot open ".toList ++ file ++ ": No such file".toList)
      else failWith (file ++ ": not found".toList)

end

end Run

end InlineLinkage.Shell
