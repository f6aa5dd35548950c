import InlineLinkage.Shell.Condition
import InlineLinkage.Shell.Format
import InlineLinkage.Shell.Machine
import InlineLinkage.Text.Column

/-!
# Utilities

The small programs that scripts call besides the shell itself. Each reads its arguments, works on the
machine, and gives a status.
-/
namespace InlineLinkage.Shell.Utility

open Text

/-- How long the start of a program takes. -/
def startTime : Nat := 1000000

def second : Nat := 1000000000

/-- Writes a message of a program. -/
def complain (program message : String) : Run Unit :=
  Run.say 2 (program ++ ": " ++ message ++ "\n")

/-- A name between quotes. -/
def quoted (r : Raw) : String :=
  if r.contains '\'' then "\"" ++ String.ofList r ++ "\"" else "'" ++ String.ofList r ++ "'"

/-- Characters that need no quotes. -/
def isSafe (c : Char) : Bool :=
  c.isAlphanum || ['_', '.', '/', ':', ',', '+', '@', '%', '-'].contains c

/-- A name in a message. -/
def shown (r : Raw) : String :=
  if !r.isEmpty && r.all isSafe then String.ofList r else quoted r

/-- Writes to the standard output. The status tells whether that was possible. -/
def emit (program : String) (failure : Nat) (text : Raw) : Run Nat := do
  if text.isEmpty then return 0
  else if ← Run.write 1 text then return 0
  else
    complain program "write error: Bad file descriptor"
    return failure

def resolve (r : Raw) : Run Path := do
  return Path.resolve (← Run.process).directory r

def node? (r : Raw) : Run (Option Node) := do
  if r = [] then return none
  let p ← resolve r
  return (← get).files.node? p

/-- Does something for each argument. The status is the worst. -/
def each (step : Raw → Run Nat) : List Raw → Run Nat
  | [] => return 0
  | a :: rest => do
    let first ← step a
    let others ← each step rest
    return max first others

/-- Letters of the options among arguments, and the other arguments. All after a double hyphen are
operands. -/
def splitOptions : List Raw → List Char × List Raw
  | [] => ([], [])
  | a :: rest =>
    match a with
    | ['-', '-'] => ([], rest)
    | '-' :: c :: letters =>
      let (more, operands) := splitOptions rest
      (c :: letters ++ more, operands)
    | a =>
      let (letters, operands) := splitOptions rest
      (letters, a :: operands)

/-- An option that is a word. -/
def longOption? (arguments : List Raw) : Option Raw :=
  (arguments.takeWhile (· != ['-', '-'])).find? fun a => ['-', '-'].isPrefixOf a

/-- Refuses an option that a program does not know. -/
def refuse (program : String) (what : String) (status : Nat) : Run Nat := do
  complain program what
  Run.say 2 ("Try '" ++ program ++ " --help' for more information.\n")
  return status

/-- Runs with known options only. -/
def withOptions (program known : String) (status : Nat) (arguments : List Raw)
    (act : List Char → List Raw → Run Nat) : Run Nat := do
  let (letters, operands) := splitOptions arguments
  match longOption? arguments, letters.find? fun c => !known.toList.contains c with
  | some a, _ => refuse program ("unrecognized option '" ++ String.ofList a ++ "'") status
  | none, some c => refuse program ("invalid option -- '" ++ String.singleton c ++ "'") status
  | none, none => act letters operands

/-- How `cat` shows what it copies. -/
structure Display where
  ends : Bool := false
  tabs : Bool := false
  nonprinting : Bool := false
  numbers : Bool := false

namespace Display

def ofLetters (letters : List Char) : Display :=
  let has (s : String) : Bool := letters.any fun c => s.toList.contains c
  { ends := has "eEA", tabs := has "tTA", nonprinting := has "vetA", numbers := has "n" }

/-- A byte below 128, or one above that is shown without its highest bit. -/
def printable (c : Char) : Raw :=
  if c < ' ' then ['^', Char.ofNat (c.toNat + 64)] else if c = '\x7f' then ['^', '?'] else [c]

def byte (d : Display) (c : Char) : Raw :=
  if c = '\n' then if d.ends then ['$', '\n'] else ['\n']
  else if c = '\t' then if d.tabs then ['^', 'I'] else ['\t']
  else if !d.nonprinting then [c]
  else if c.toNat < 128 then printable c
  else 'M' :: '-' :: printable (Char.ofNat (c.toNat - 128))

/-- Numbers lines from the given number on. -/
def numbered : Nat → List Raw → Raw
  | _, [] => []
  | _, [[]] => []
  | n, [line] => padLeft 6 (natChars n) ++ '\t' :: line
  | n, line :: rest => padLeft 6 (natChars n) ++ '\t' :: line ++ '\n' :: numbered (n + 1) rest

def text (d : Display) (r : Raw) : Raw :=
  let shown := r.flatMap d.byte
  if d.numbers then numbered 1 (Raw.split '\n' shown) else shown

end Display

/-- Copies the standard input to the standard output. -/
def copyInput (program : String) (d : Display) : Run Nat := do
  let m ← get
  if (m.process.opened? 0).isNone then
    complain program "-: Bad file descriptor"
    complain program "closing standard input: Bad file descriptor"
    return 1
  else
    Run.repeatFrom (fun _ => do
      match ← Run.readSome 0 with
      | none | some [] => return none
      | some text =>
        let _ ← Run.write 1 (d.text text)
        return some ()) (m.budget + 1) ()
    return 0

def catOne (program : String) (d : Display) (a : Raw) : Run Nat := do
  if a = ['-'] then copyInput program d
  else
    match ← node? a with
    | none =>
      complain program (shown a ++ ": No such file or directory")
      return 1
    | some .directory =>
      complain program (shown a ++ ": Is a directory")
      return 1
    | some n =>
      let _ ← Run.write 1 (d.text n.content)
      return 0

def cat (program : String) (arguments : List Raw) : Run Nat :=
  withOptions program "eEtTvAnu" 1 arguments fun letters operands => do
    if ((← Run.process).opened? 1).isNone then
      complain program "standard output: Bad file descriptor"
      return 1
    else
      let d := Display.ofLetters letters
      if operands.isEmpty then copyInput program d else each (catOne program d) operands

/-- Which names `ls` shows, and in which order. -/
structure Listing where
  hidden : Bool := false
  dots : Bool := false
  directories : Bool := false
  backwards : Bool := false

namespace Listing

def ofLetters (letters : List Char) : Listing :=
  { hidden := letters.contains 'a' || letters.contains 'A'
    dots := letters.contains 'a'
    directories := letters.contains 'd'
    backwards := letters.contains 'r' }

def order (l : Listing) (names : List Raw) : List Raw :=
  if l.backwards then (Raw.sort names).reverse else Raw.sort names

/-- The names of a directory that are shown. -/
def names (l : Listing) (all : List Raw) : List Raw :=
  let seen := if l.hidden then all else all.filter fun n => n.head? != some '.'
  l.order (if l.dots then ['.'] :: ['.', '.'] :: seen else seen)

end Listing

def unlines (lines : List Raw) : Raw :=
  lines.flatMap fun line => line ++ ['\n']

/-- Lists files, and then directories under their names when there are several operands. -/
def listNames (program : String) (l : Listing) (named : List Raw) : Run Nat := do
  let operands := if named.isEmpty then [['.']] else l.order named
  let status ← each (fun a => do
    match ← node? a with
    | some _ => return 0
    | none =>
      complain program ("cannot access " ++ quoted a ++ ": No such file or directory")
      return 2) operands
  let found ← operands.filterMapM fun a => do
    return (← node? a).map fun n => (a, n)
  let isListed (e : Raw × Node) : Bool := e.2.isDirectory && !l.directories
  let alone := (found.filter fun e => !isListed e).map Prod.fst
  let listed := (found.filter isListed).map Prod.fst
  let blocks ← listed.mapM fun a => do
    let names := l.names ((← get).files.names (← resolve a))
    return if operands.length > 1 then (a ++ [':']) :: names else names
  let parts := (if alone.isEmpty then [] else [alone]) ++ blocks
  let written ← emit program 2 (Raw.join ['\n'] (parts.map unlines))
  return max status written

def ls (program : String) (arguments : List Raw) : Run Nat :=
  withOptions program "aA1dCxrUf" 2 arguments fun letters operands =>
    listNames program (Listing.ofLetters letters) operands

/-- Whether a mode makes a file executable. There is no answer for a mode that does not say so. -/
def modeExecutable? (mode : Raw) : Option Bool :=
  if Raw.isNumber mode then some (mode.any fun c => digitValue c % 2 == 1)
  else if mode.contains 'x' then some (!mode.contains '-')
  else if mode.contains '=' then some false
  else none

/-- Changes the mode of one file. -/
def changeMode (program : String) (executable? : Option Bool) (a : Raw) : Run Nat := do
  match ← node? a with
  | some (.file content executable) =>
    let p ← resolve a
    modify fun m => { m with files := m.files.put p (.file content (executable?.getD executable)) }
    return 0
  | some _ => return 0
  | none =>
    complain program ("cannot access " ++ quoted a ++ ": No such file or directory")
    return 1

def chmod (program : String) (arguments : List Raw) : Run Nat :=
  match arguments with
  | [] => refuse program "missing operand" 1
  | [mode] => refuse program ("missing operand after " ++ quoted mode) 1
  | mode :: names => each (changeMode program (modeExecutable? mode)) names

def makeDirectory (program : String) (parents : Bool) (a : Raw) : Run Nat := do
  let p ← resolve a
  let m ← get
  let refused (reason : String) : Run Nat := do
    complain program ("cannot create directory " ++ quoted a ++ ": " ++ reason)
    return 1
  match m.files.node? p with
  | some n => if parents && n.isDirectory then return 0 else refused "File exists"
  | none =>
    if parents || m.files.isDirectory p.parent then
      set { m with files := m.files.plant p .directory }
      return 0
    else refused "No such file or directory"

def mkdir (program : String) (arguments : List Raw) : Run Nat :=
  withOptions program "p" 1 arguments fun letters operands =>
    if operands.isEmpty then refuse program "missing operand" 1
    else each (makeDirectory program (letters.contains 'p')) operands

def remove (program : String) (force recursive : Bool) (a : Raw) : Run Nat := do
  let p ← resolve a
  let m ← get
  let refused (reason : String) : Run Nat := do
    complain program ("cannot remove " ++ quoted a ++ ": " ++ reason)
    return 1
  match m.files.node? p with
  | none => if force then return 0 else refused "No such file or directory"
  | some n =>
    if n.isDirectory && !recursive then refused "Is a directory"
    else
      set { m with files := m.files.remove p }
      return 0

def rm (program : String) (arguments : List Raw) : Run Nat :=
  withOptions program "frR" 1 arguments fun letters operands =>
    let force := letters.contains 'f'
    if operands.isEmpty && !force then refuse program "missing operand" 1
    else each (remove program force (letters.contains 'r' || letters.contains 'R')) operands

/-- The nanoseconds of a decimal fraction of a second. -/
def fractionTime (digits : Raw) : Nat :=
  ofDigitChars ((digits ++ List.replicate 9 '0').take 9)

def unitFactor? : Raw → Option Nat
  | [] | ['s'] => some 1
  | ['m'] => some 60
  | ['h'] => some 3600
  | ['d'] => some 86400
  | _ => none

/-- The nanoseconds of a time interval. -/
def interval? (r : Raw) : Option Nat := do
  if r = "infinity".toList ∨ r = "inf".toList then return Nat.pow 10 30
  let whole := r.takeWhile Char.isDigit
  let rest := r.dropWhile Char.isDigit
  let (fraction, rest) :=
    match rest with
    | '.' :: rest => (rest.takeWhile Char.isDigit, rest.dropWhile Char.isDigit)
    | rest => ([], rest)
  let factor ← unitFactor? rest
  if whole = [] ∧ fraction = [] then none
  else return (ofDigitChars whole * second + fractionTime fraction) * factor

def sleepFor (program : String) (arguments : List Raw) : Run Nat := do
  let wrong := arguments.filter fun a => (interval? a).isNone
  if arguments.isEmpty then refuse program "missing operand" 1
  else if wrong.isEmpty then
    Run.spend ((arguments.filterMap interval?).foldl (· + ·) 0)
    return 0
  else
    let _ ← each (fun a => do
      complain program ("invalid time interval " ++ quoted a)
      return 1) wrong
    Run.say 2 ("Try '" ++ program ++ " --help' for more information.\n")
    return 1

def sleep (program : String) (arguments : List Raw) : Run Nat :=
  withOptions program "" 1 arguments fun _ operands => sleepFor program operands

/-- Reads the options at the start of the arguments of `echo`: whether escapes are meant, and whether a
line feed follows. -/
def echoOptions : Bool → Bool → List Raw → Bool × Bool × List Raw
  | escapes, ended, [] => (escapes, ended, [])
  | escapes, ended, a :: rest =>
    match a with
    | '-' :: c :: letters =>
      let letters := c :: letters
      if letters.all fun c => c == 'n' || c == 'e' || c == 'E' then
        echoOptions ((letters.reverse.find? (· != 'n')).elim escapes (· == 'e'))
          (ended && !letters.contains 'n') rest
      else (escapes, ended, a :: rest)
    | a => (escapes, ended, a :: rest)

/-- The program, which takes escapes only when it is asked to. -/
def echo (program : String) (arguments : List Raw) : Run Nat :=
  let (escapes, ended, words) := echoOptions false true arguments
  let text := Raw.join [' '] words
  let o : Format.Output := if escapes then Format.unescaped text else ⟨text, false⟩
  emit program 1 (if ended && !o.ended then o.text ++ ['\n'] else o.text)

/-- The status of `printf`. Text is given to `emit` and messages to `warn`. -/
def printf (emit : Raw → Run Nat) (warn : Raw → Run Unit) (arguments : List Raw) : Run Nat := do
  match (if arguments.head? = some "--".toList then arguments.drop 1 else arguments) with
  | [] =>
    warn "usage: printf format [arg ...]".toList
    return 2
  | format :: arguments =>
    let (text, complaints) := Format.printf format arguments
    let written ← emit text
    complaints.forM fun c => warn c.message
    return (complaints.map Format.Complaint.status).foldl max written

/-- The status of `test`. Messages are given to `warn`. -/
def test (warn : Raw → Run Unit) (arguments : List Raw) : Run Nat := do
  let m ← get
  let node? (r : Raw) : Option Node := m.files.node? (Path.resolve m.process.directory r)
  match Condition.holds node? arguments with
  | .ok b => return if b then 0 else 1
  | .error f =>
    warn f.message
    return 2

/-- The status of `[`, which wants its closing bracket. -/
def bracket (warn : Raw → Run Unit) (arguments : List Raw) : Run Nat := do
  if arguments.getLast? = some [']'] then test warn arguments.dropLast
  else
    warn "missing ]".toList
    return 2

/-- The programs that can be run without reading a script. The second name is that which messages
use. -/
def run? (name program : String) (arguments : List Raw) : Option (Run Nat) :=
  let warn (message : Raw) : Run Unit := complain program (String.ofList message)
  match name with
  | "cat" => some (cat program arguments)
  | "ls" => some (ls program arguments)
  | "sleep" => some (sleep program arguments)
  | "chmod" => some (chmod program arguments)
  | "mkdir" => some (mkdir program arguments)
  | "rm" => some (rm program arguments)
  | "true" => some (return 0)
  | "false" => some (return 1)
  | "echo" => some (echo program arguments)
  | "printf" => some (printf (emit program 1) warn arguments)
  | "test" => some (test warn arguments)
  | "[" => some (bracket warn arguments)
  | "pwd" => some (do emit program 1 ((← Run.process).directory.text ++ ['\n']))
  | _ => none

end InlineLinkage.Shell.Utility
