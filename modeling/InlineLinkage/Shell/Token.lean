import InlineLinkage.Shell.Command

/-!
# Tokens

What a script is cut into, the words that are reserved for compound commands, and what can be wrong
with a script. A script is read piece by piece: `Reader` holds what is left of it, and the here-documents
that were announced on the current line.
-/
namespace InlineLinkage.Shell

inductive Mark where
  | semicolon
  | doubleSemicolon
  | ampersand
  | doubleAmpersand
  | bar
  | doubleBar
  | openParenthesis
  | closeParenthesis
  deriving DecidableEq, Repr

def Mark.text : Mark → String
  | .semicolon => ";"
  | .doubleSemicolon => ";;"
  | .ampersand => "&"
  | .doubleAmpersand => "&&"
  | .bar => "|"
  | .doubleBar => "||"
  | .openParenthesis => "("
  | .closeParenthesis => ")"

/-- The operators of redirections, those of here-documents included. -/
inductive RedirectMark where
  | file (kind : RedirectKind)
  | document (stripTabs : Bool)
  deriving DecidableEq, Repr

inductive Token where
  | word (w : Word)
  | mark (m : Mark)
  | redirect (descriptor : Nat) (m : RedirectMark)
  | newline
  | finish

/-- The words with a meaning at the start of a command. -/
def reservedWords : List String :=
  ["!", "case", "do", "done", "elif", "else", "esac", "fi", "for", "if", "then", "until", "while",
    "\x7b", "\x7d"]

/-- The reserved words that end a list of commands. -/
def closingWords : List String :=
  ["do", "done", "elif", "else", "esac", "fi", "then", "\x7d"]

namespace Token

/-- A word without quotes and substitutions. -/
def bare? : Token → Option String
  | .word w => w.bareText?.map String.ofList
  | _ => none

def reserved? (t : Token) : Option String :=
  t.bare?.filter fun s => reservedWords.contains s

/-- Whether a list of commands ends here. -/
def endsList : Token → Bool
  | .mark .doubleSemicolon | .mark .closeParenthesis | .finish => true
  | t => t.bare?.any fun s => closingWords.contains s

/-- How messages name a token. -/
def description (t : Token) : String :=
  match t, t.reserved? with
  | _, some s => "\"" ++ s ++ "\""
  | .mark m, _ => "\"" ++ m.text ++ "\""
  | .word _, _ => "word"
  | .redirect .., _ => "redirection"
  | .newline, _ => "newline"
  | .finish, _ => "end of file"

end Token

/-- What can be wrong with a script. -/
inductive ScriptFault where
  /-- A token that cannot stand where it does, and the one that can, by their descriptions. -/
  | unexpected (token : String) (expected : Option String)
  | openQuote
  | openBackquote
  | openBrace
  | openArithmetic
  | badLoopVariable
  | badFunctionName
  | badSubstitution
  | tooDeep

def ScriptFault.message : ScriptFault → String
  | .unexpected t none => "Syntax error: " ++ t ++ " unexpected"
  | .unexpected t (some e) => "Syntax error: " ++ t ++ " unexpected (expecting " ++ e ++ ")"
  | .openQuote => "Syntax error: Unterminated quoted string"
  | .openBackquote => "Syntax error: EOF in backquote substitution"
  | .openBrace => "Syntax error: Missing '\x7d'"
  | .openArithmetic => "Syntax error: Missing '))'"
  | .badLoopVariable => "Syntax error: Bad for loop variable"
  | .badFunctionName => "Syntax error: Bad function name"
  | .badSubstitution => "Bad substitution"
  | .tooDeep => "Syntax error: nested too deeply"

/-- A fault and the line at which it was noticed. -/
structure ScriptError where
  line : Nat
  fault : ScriptFault

/-- A here-document whose text stands on later lines. -/
structure Announcement where
  number : Nat
  delimiter : Raw
  /-- Nothing in the text is substituted. -/
  literal : Bool
  stripTabs : Bool

/-- A script that is being read. -/
structure Reader where
  rest : Raw
  line : Nat := 1
  /-- A token that was looked at and not used. -/
  ahead : Option Token := none
  announced : List Announcement := []
  documents : List (Nat × Word) := []
  nextDocument : Nat := 0

namespace Reader

/-- Steps over characters at the start of what is left. -/
def advance (r : Reader) (passed rest : Raw) : Reader :=
  { r with rest := rest, line := r.line + passed.count '\n' }

/-- Drops blanks and joins lines that end in a backslash. -/
def skipBlanks : Raw → Nat → Raw × Nat
  | ' ' :: rest, lines => skipBlanks rest lines
  | '\t' :: rest, lines => skipBlanks rest lines
  | '\\' :: '\n' :: rest, lines => skipBlanks rest (lines + 1)
  | rest, lines => (rest, lines)

/-- Drops a comment, up to the end of its line. -/
def skipComment : Raw → Raw
  | '#' :: rest => rest.dropWhile (· != '\n')
  | rest => rest

/-- The reader before its next token. -/
def toToken (r : Reader) : Reader :=
  let (rest, lines) := skipBlanks r.rest 0
  { r with rest := skipComment rest, line := r.line + lines }

/-- One line and what follows it. -/
def cutLine (s : Raw) : Raw × Raw :=
  (s.takeWhile (· != '\n'), (s.dropWhile (· != '\n')).drop 1)

/-- The text of a here-document and what follows it, with the number of lines passed. -/
def cutDocument (a : Announcement) : Nat → Raw → Raw → Nat → Raw × Raw × Nat
  | 0, text, s, lines => (text, s, lines)
  | _ + 1, text, [], lines => (text, [], lines)
  | fuel + 1, text, s, lines =>
    let (line, rest) := cutLine s
    let line := if a.stripTabs then line.dropWhile (· == '\t') else line
    if line = a.delimiter then (text, rest, lines + 1)
    else
      let ended := if s.contains '\n' then ['\n'] else []
      cutDocument a fuel (text ++ line ++ ended) rest (lines + 1)

end Reader

end InlineLinkage.Shell
