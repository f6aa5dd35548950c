/-!
# Columns

Text fitted into columns of a fixed width. A longer text keeps its length and pushes the next column
to the right.
-/
namespace InlineLinkage.Text

/-- Fills up with spaces on the right. -/
def padRight (width : Nat) (s : List Char) : List Char :=
  s ++ List.replicate (width - s.length) ' '

/-- Fills up with spaces on the left. -/
def padLeft (width : Nat) (s : List Char) : List Char :=
  List.replicate (width - s.length) ' ' ++ s

end InlineLinkage.Text
