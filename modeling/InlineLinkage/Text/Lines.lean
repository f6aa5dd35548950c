/-!
# Lines

A text is cut at its line feeds. A carriage return directly before a line feed belongs to the end of
the line, one at the end of an unfinished last line does not, and there is no empty line after a
final line feed.
-/
namespace InlineLinkage.Text

/-- A finished line, given reversed, without the carriage return at its end. -/
def finishLine (reversed : List Char) : List Char :=
  match reversed with
  | '\r' :: rest => rest.reverse
  | _ => reversed.reverse

/-- The lines of a text whose current line, read so far and reversed, is given. -/
def linesFrom (line : List Char) : List Char → List (List Char)
  | [] => if line = [] then [] else [line.reverse]
  | c :: rest =>
    if c = '\n' then finishLine line :: linesFrom [] rest else linesFrom (c :: line) rest

/-- The lines of a text. -/
def lines (s : List Char) : List (List Char) :=
  linesFrom [] s

/-- The step by which reports indent what they quote. -/
def indentation : List Char := [' ', ' ', ' ', ' ']

/-- Every line of a text indented by four spaces and finished by a line feed. -/
def indentChars (s : List Char) : List Char :=
  (lines s).flatMap fun line => indentation ++ line ++ ['\n']

/-- Every line of a text, also a blank one, indented by four spaces. -/
def indent (s : String) : String :=
  String.ofList (indentChars s.toList)

end InlineLinkage.Text
