import InlineLinkage.Shell.Raw

/-!
# Signals

The signals that scripts name, with their numbers, and what a shell says when one of them ended a
program.
-/
namespace InlineLinkage.Shell

structure Signal where
  number : Nat
  deriving DecidableEq, Repr

namespace Signal

/-- Names and numbers. -/
def table : List (String × Nat) :=
  [("HUP", 1), ("INT", 2), ("QUIT", 3), ("ILL", 4), ("TRAP", 5), ("ABRT", 6), ("BUS", 7), ("FPE", 8),
    ("KILL", 9), ("USR1", 10), ("SEGV", 11), ("USR2", 12), ("PIPE", 13), ("ALRM", 14), ("TERM", 15),
    ("CHLD", 17), ("CONT", 18), ("STOP", 19), ("TSTP", 20), ("TTIN", 21),
    ("TTOU", 22), ("URG", 23), ("XCPU", 24), ("XFSZ", 25), ("VTALRM", 26), ("PROF", 27),
    ("WINCH", 28), ("IO", 29), ("PWR", 30), ("SYS", 31)]

def kill : Signal := ⟨9⟩

def terminate : Signal := ⟨15⟩

/-- The end of a script, which can be trapped as signals can. -/
def exit : Signal := ⟨0⟩

def isExit (s : Signal) : Bool :=
  s == exit

/-- A signal by its number or by its name. -/
def ofText? (r : Raw) : Option Signal :=
  match Raw.number? r with
  | some n => if n < 65 then some ⟨n⟩ else none
  | none =>
    let name := (String.ofList r).toUpper
    if name == "EXIT" then some exit
    else (table.find? fun e => e.1 == name).map fun e => ⟨e.2⟩

def name (s : Signal) : String :=
  if s.isExit then "EXIT"
  else
    match table.find? fun e => e.2 == s.number with
    | some e => e.1
    | none => realTimeName s.number
where
  realTimeName (n : Nat) : String :=
    if n = 34 then "RTMIN"
    else if 34 < n ∧ n < 50 then "RTMIN+" ++ toString (n - 34)
    else if 49 < n ∧ n < 64 then "RTMAX-" ++ toString (64 - n)
    else if n = 64 then "RTMAX"
    else toString n

/-- Signals that do nothing to a program that did not ask for them. -/
def isHarmless (s : Signal) : Bool :=
  s.number == 0 || s.number == 17 || s.number == 18 || s.number == 23 || s.number == 28

/-- Signals that no program can trap. -/
def isFinal (s : Signal) : Bool :=
  s.number == 9 || s.number == 19

/-- The status of a program that a signal ended. -/
def status (s : Signal) : Nat :=
  128 + s.number

/-- What the shell says about a program that a signal ended. -/
def report? (s : Signal) : Option String :=
  match s.number with
  | 1 => some "Hangup"
  | 3 => some "Quit"
  | 4 => some "Illegal instruction"
  | 5 => some "Trace/breakpoint trap"
  | 6 => some "Aborted"
  | 7 => some "Bus error"
  | 8 => some "Floating point exception"
  | 9 => some "Killed"
  | 10 => some "User defined signal 1"
  | 11 => some "Segmentation fault"
  | 12 => some "User defined signal 2"
  | 14 => some "Alarm clock"
  | 15 => some "Terminated"
  | 24 => some "CPU time limit exceeded"
  | 25 => some "File size limit exceeded"
  | 26 => some "Virtual timer expired"
  | 27 => some "Profiling timer expired"
  | 31 => some "Bad system call"
  | _ => none

end Signal

end InlineLinkage.Shell
