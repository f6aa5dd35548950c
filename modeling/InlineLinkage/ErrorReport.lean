import InlineLinkage.Text.Column
import InlineLinkage.Text.Number

/-!
# Error reports

An error is a chain of messages, each caused by the next. Its report names the outermost first and
lists the causes below it, numbered when there are several. All lines of a cause are indented.
-/
namespace InlineLinkage.ErrorReport

open Text

/-- The pieces of a text between its line feeds, after the current piece, which is given reversed. -/
def piecesFrom (piece : List Char) : List Char → List (List Char)
  | [] => [piece.reverse]
  | c :: rest => if c = '\n' then piece.reverse :: piecesFrom [] rest else piecesFrom (c :: piece) rest

/-- A cause with what stands before its first line and before the others. -/
def causeChars (first later : List Char) (message : String) : List Char :=
  match piecesFrom [] message.toList with
  | [] => []
  | line :: rest => '\n' :: first ++ line ++ rest.flatMap fun l => '\n' :: later ++ l

/-- The causes with their numbers. -/
def numberedChars (number : Nat) : List String → List Char
  | [] => []
  | m :: rest =>
    causeChars (padLeft 5 (natChars number) ++ [':', ' ']) (List.replicate 7 ' ') m ++
      numberedChars (number + 1) rest

def causesChars : List String → List Char
  | [] => []
  | [m] => "\n\nCaused by:".toList ++ causeChars (List.replicate 4 ' ') (List.replicate 4 ' ') m
  | ms => "\n\nCaused by:".toList ++ numberedChars 0 ms

/-- The report of a chain of messages. -/
def chars : List String → List Char
  | [] => []
  | m :: causes => "Error: ".toList ++ m.toList ++ causesChars causes ++ ['\n']

def text (chain : List String) : String :=
  String.ofList (chars chain)

end InlineLinkage.ErrorReport
