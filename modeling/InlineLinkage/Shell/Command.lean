import InlineLinkage.Shell.Raw

/-!
# Commands

The parsed form of shell scripts: words with their substitutions, redirections, and commands. The text
of a here-document is kept apart, under a number, because it is read after the line that announces it.
-/
namespace InlineLinkage.Shell

/-- What a redirection does with its descriptor. -/
inductive RedirectKind where
  | read
  | write
  /-- It writes even where files are protected. -/
  | replace
  | append
  | update
  | duplicate
  deriving DecidableEq, Repr

mutual

/-- A part of a word. -/
inductive Piece where
  /-- Unquoted text. -/
  | plain (text : Raw)
  /-- Text that is protected by quotes. -/
  | quoted (text : Raw)
  /-- The value of a parameter, after an operation. -/
  | parameter (quoted : Bool) (name : Raw) (operation : Operation)
  /-- The output of a script. -/
  | output (quoted : Bool) (script : Command)
  /-- The value of an arithmetic expression. -/
  | arithmetic (quoted : Bool) (expression : List Piece)

/-- What is done with the value of a parameter. A colon treats an empty value as a missing one. -/
inductive Operation where
  | value
  | length
  | default (colon : Bool) (word : List Piece)
  | assign (colon : Bool) (word : List Piece)
  | demand (colon : Bool) (word : List Piece)
  | replace (colon : Bool) (word : List Piece)
  | trimStart (longest : Bool) (pattern : List Piece)
  | trimEnd (longest : Bool) (pattern : List Piece)

/-- A redirection of a descriptor to a file, to another descriptor, or from a here-document. -/
inductive Redirect where
  | file (descriptor : Nat) (kind : RedirectKind) (target : List Piece)
  | document (descriptor : Nat) (number : Nat)

inductive Command where
  | empty
  | simple (line : Nat) (assignments : List (Raw × List Piece)) (words : List (List Piece))
      (redirects : List Redirect)
  | pipeline (commands : List Command)
  | negation (c : Command)
  | both (c d : Command)
  | either (c d : Command)
  | sequence (c d : Command)
  | background (c : Command)
  | subshell (c : Command)
  | redirected (line : Nat) (c : Command) (redirects : List Redirect)
  | conditional (test : Command) (thenBranch elseBranch : Command)
  | loop (whenTrue : Bool) (test body : Command)
  | each (line : Nat) (variableName : Raw) (words : List (List Piece)) (body : Command)
  | choice (line : Nat) (word : List Piece) (arms : List (List (List Piece) × Command))
  | define (name : Raw) (body : Command)

end

/-- A word before its expansion. -/
abbrev Word := List Piece

namespace Word

/-- Puts a piece behind others, which are given reversed. Neighbours of one kind become one. -/
def push (p : Piece) (reversed : List Piece) : List Piece :=
  match p, reversed with
  | .plain s, .plain r :: rest => .plain (r ++ s) :: rest
  | .quoted s, .quoted r :: rest => .quoted (r ++ s) :: rest
  | p, rest => p :: rest

/-- The text of a word without quotes and substitutions. -/
def bareText? : Word → Option Raw
  | [] => some []
  | .plain s :: rest => (bareText? rest).map (s ++ ·)
  | _ => none

/-- The text of a word with its quotes removed, when it has no substitution. -/
def literalText : Word → Raw
  | [] => []
  | .plain s :: rest => s ++ literalText rest
  | .quoted s :: rest => s ++ literalText rest
  | _ :: rest => literalText rest

def isQuoted (w : Word) : Bool :=
  w.any fun
    | .plain _ => false
    | _ => true

end Word

namespace Command

/-- Commands one after the other. -/
def andThen : Command → Command → Command
  | .empty, d => d
  | c, .empty => c
  | c, d => .sequence c d

end Command

end InlineLinkage.Shell
