import InlineLinkage.Json.Token

/-!
# JSON values

A value is read from tokens by a machine that holds the arrays and objects still open around it. Each
token is one step, so a text of any depth is read. Members of an object keep their order and are not
merged.
-/
namespace InlineLinkage.Json

inductive Value where
  | null
  | bool (b : Bool)
  | number (n : Number)
  | string (s : List Piece)
  | array (items : List Value)
  | object (members : List (List Piece × Value))
  deriving Repr

/-- An array or object still open: what it holds so far, the last first, and for an object the key
whose value comes next. -/
inductive Frame where
  | array (items : List Value)
  | object (members : List (List Piece × Value)) (key : List Piece)

/-- What may come next, and the frames around it, the innermost first. -/
inductive State where
  | value (frames : List Frame)
  | firstItem (frames : List Frame)
  | afterItem (frames : List Frame) (items : List Value)
  | firstKey (frames : List Frame)
  | nextKey (frames : List Frame) (members : List (List Piece × Value))
  | colon (frames : List Frame) (members : List (List Piece × Value)) (key : List Piece)
  | afterMember (frames : List Frame) (members : List (List Piece × Value))
  | done (v : Value)

/-- The state after a complete value. -/
def supply (v : Value) : List Frame → State
  | [] => .done v
  | .array items :: frames => .afterItem frames (v :: items)
  | .object members key :: frames => .afterMember frames ((key, v) :: members)

/-- The state after the first token of a value. -/
def startValue (frames : List Frame) : Token → Option State
  | .null => some (supply .null frames)
  | .bool b => some (supply (.bool b) frames)
  | .number n => some (supply (.number n) frames)
  | .string s => some (supply (.string s) frames)
  | .openArray => some (.firstItem frames)
  | .openObject => some (.firstKey frames)
  | _ => none

/-- The state after one more token. -/
def State.step : State → Token → Option State
  | .value frames, t => startValue frames t
  | .firstItem frames, .closeArray => some (supply (.array []) frames)
  | .firstItem frames, t => startValue (.array [] :: frames) t
  | .afterItem frames items, .comma => some (.value (.array items :: frames))
  | .afterItem frames items, .closeArray => some (supply (.array items.reverse) frames)
  | .firstKey frames, .closeObject => some (supply (.object []) frames)
  | .firstKey frames, .string key => some (.colon frames [] key)
  | .nextKey frames members, .string key => some (.colon frames members key)
  | .colon frames members key, .colon => some (.value (.object members key :: frames))
  | .afterMember frames members, .comma => some (.nextKey frames members)
  | .afterMember frames members, .closeObject => some (supply (.object members.reverse) frames)
  | _, _ => none

/-- The state after a row of tokens. -/
def State.run (s : State) : List Token → Option State
  | [] => some s
  | t :: rest =>
    match s.step t with
    | some s => s.run rest
    | none => none

/-- The value that a row of tokens spells. -/
def Value.ofTokens? (ts : List Token) : Option Value :=
  match (State.value []).run ts with
  | some (.done v) => some v
  | _ => none

/-- The value that a text spells. -/
def Value.ofChars? (s : List Char) : Option Value :=
  (tokens? s).bind Value.ofTokens?

def Value.ofString? (s : String) : Option Value :=
  Value.ofChars? s.toList

/-- A plain text as a string value. -/
def pieces (s : String) : List Piece :=
  s.toList.map .char

/-- A string value. -/
def Value.text (s : String) : Value :=
  .string (pieces s)

/-- The characters of a string. A surrogate must be followed or preceded by its other half. -/
def pieceChars? : List Piece → Option (List Char)
  | [] => some []
  | .char c :: rest => (pieceChars? rest).map (c :: ·)
  | .surrogate high :: .surrogate low :: rest =>
    if high < 0xdc00 ∧ 0xdc00 ≤ low then
      (pieceChars? rest).map (Char.ofNat (0x10000 + (high - 0xd800) * 0x400 + (low - 0xdc00)) :: ·)
    else none
  | .surrogate _ :: _ => none

/-- The text of a string. -/
def piecesText? (s : List Piece) : Option String :=
  (pieceChars? s).map String.ofList

/-- The number token of a natural number. -/
def Number.ofNat (n : Nat) : Number :=
  ⟨false, (Text.natChars n).map Text.digitValue, [], none⟩

/-- The number token of an integer. -/
def Number.ofInt (n : Int) : Number :=
  match n with
  | .ofNat n => .ofNat n
  | .negSucc n => { Number.ofNat (n + 1) with negative := true }

end InlineLinkage.Json
