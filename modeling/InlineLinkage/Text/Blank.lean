/-!
# White space

The characters with the Unicode property `White_Space`, trimming, and the words between blanks.
Words are never empty and never contain a blank.
-/
namespace InlineLinkage.Text

/-- A character with the property `White_Space`. -/
def isBlank (c : Char) : Bool :=
  let n := c.toNat
  (0x09 ≤ n && n ≤ 0x0d) || n == 0x20 || n == 0x85 || n == 0xa0 || n == 0x1680 ||
    (0x2000 ≤ n && n ≤ 0x200a) || n == 0x2028 || n == 0x2029 || n == 0x202f || n == 0x205f ||
    n == 0x3000

/-- Drops blanks on the left. -/
def trimLeft (s : List Char) : List Char :=
  s.dropWhile isBlank

/-- Drops blanks on the right. -/
def trimRight (s : List Char) : List Char :=
  (trimLeft s.reverse).reverse

/-- Drops blanks on both sides. -/
def trimChars (s : List Char) : List Char :=
  trimRight (trimLeft s)

/-- A text without the blanks on its two sides. -/
def trim (s : String) : String :=
  String.ofList (trimChars s.toList)

@[simp] theorem toList_trim (s : String) : (trim s).toList = trimChars s.toList := by
  simp [trim]

/-- A text that holds blanks only. -/
def isAllBlank (s : String) : Bool :=
  s.toList.all isBlank

/-- The words of a text whose current word, read so far and reversed, is given. -/
def wordsFrom (word : List Char) : List Char → List (List Char)
  | [] => if word = [] then [] else [word.reverse]
  | c :: rest =>
    if isBlank c then
      if word = [] then wordsFrom [] rest else word.reverse :: wordsFrom [] rest
    else wordsFrom (c :: word) rest

/-- The maximal runs of non-blank characters, in order. -/
def words (s : List Char) : List (List Char) :=
  wordsFrom [] s

@[simp] theorem words_nil : words [] = [] := rfl

/-- Texts joined by single spaces. -/
def unwords : List (List Char) → List Char
  | [] => []
  | [w] => w
  | w :: rest => w ++ ' ' :: unwords rest

end InlineLinkage.Text
