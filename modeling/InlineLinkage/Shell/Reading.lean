import InlineLinkage.Shell.Token

/-!
# Reading of scripts

A script is read one complete command at a time, so that the commands before a fault have run when it
is noticed. Words, substitutions and commands contain one another; each function gives up some of its
fuel to those it calls, and every round of them uses up a character.
-/
namespace InlineLinkage.Shell

abbrev Reading := EStateM ScriptError Reader

namespace Reading

def fail {α : Type} (f : ScriptFault) : Reading α := do
  throw ⟨(← get).line, f⟩

/-- Takes characters that were already looked at. -/
def pass (passed rest : Raw) : Reading Unit :=
  modify fun r => r.advance passed rest

/-- Reads a text in place of what is left. -/
def within {α : Type} (text : Raw) (read : Reading α) : Reading α := do
  let outer ← get
  set { outer with rest := text, ahead := none, announced := [] }
  let a ← read
  modify fun r =>
    { r with rest := outer.rest, line := outer.line, ahead := outer.ahead, announced := outer.announced }
  return a

/-- Where a piece of text stands, which decides what is special in it and what ends it. -/
inductive Place where
  | bare
  | quotes
  | braces (quoted : Bool)
  | document
  | arithmetic (depth : Nat)
  deriving DecidableEq

/-- Characters that end an unquoted word. -/
def endsWord (c : Char) : Bool :=
  [' ', '\t', '\n', ';', '&', '|', '<', '>', '(', ')'].contains c

namespace Place

def special : Place → List Char
  | .bare => ['\'', '"', '\\', '$', '\x60']
  | .quotes => ['"', '\\', '$', '\x60']
  | .braces false => ['\'', '"', '\\', '$', '\x60', '\x7d']
  | .braces true => ['"', '\\', '$', '\x60', '\x7d']
  | .document => ['\\', '$', '\x60']
  | .arithmetic _ => ['\\', '$', '\x60', '(', ')']

/-- Characters that stand for themselves. -/
def isOrdinary (p : Place) (c : Char) : Bool :=
  !p.special.contains c && !(p == .bare && endsWord c)

/-- Whether what stands here is protected from splitting. -/
def isQuoted : Place → Bool
  | .bare | .braces false => false
  | _ => true

/-- The characters that a backslash protects. All of them, where there is no list. -/
def escapable : Place → Option (List Char)
  | .bare | .braces false => none
  | .quotes => some ['$', '\x60', '"', '\\']
  | .braces true => some ['$', '\x60', '"', '\\', '\x7d']
  | .document | .arithmetic _ => some ['$', '\x60', '\\']

def piece (p : Place) (text : Raw) : Piece :=
  if p.isQuoted then .quoted text else .plain text

/-- What a backslash and the character after it stand for. -/
def escape (p : Place) (c : Char) : Raw :=
  match p.escapable with
  | none => [c]
  | some cs => if cs.contains c then [c] else ['\\', c]

/-- What is wrong when the script ends here. -/
def unclosed : Place → Option ScriptFault
  | .bare | .document => none
  | .quotes => some .openQuote
  | .braces _ => some .openBrace
  | .arithmetic _ => some .openArithmetic

end Place

/-- The parameters with names of one character. -/
def isSpecialParameter (c : Char) : Bool :=
  ['?', '$', '!', '#', '*', '@', '-'].contains c

/-- The text between backquotes, without the backslashes that protect it, and what follows it. -/
def cutBackquote (quoted : Bool) : Raw → Raw → Option (Raw × Raw)
  | _, [] => none
  | text, '\x60' :: rest => some (text.reverse, rest)
  | text, '\\' :: c :: rest =>
    if c = '\x60' ∨ c = '$' ∨ c = '\\' ∨ (quoted ∧ c = '"') then cutBackquote quoted (c :: text) rest
    else cutBackquote quoted (c :: '\\' :: text) rest
  | text, c :: rest => cutBackquote quoted (c :: text) rest

/-- The name of a parameter between braces, and what follows it. -/
def cutParameter : Raw → Option (Raw × Raw)
  | [] => none
  | c :: rest =>
    if Raw.startsName c then
      some (c :: rest.takeWhile Raw.continuesName, rest.dropWhile Raw.continuesName)
    else if c.isDigit then some (c :: rest.takeWhile Char.isDigit, rest.dropWhile Char.isDigit)
    else if isSpecialParameter c then some ([c], rest)
    else none

/-- An operator of a parameter: whether its word is protected, and what it makes of the word. -/
def cutOperation (quoted : Bool) : Raw → Option (Place × (Word → Operation) × Raw)
  | ':' :: '-' :: rest => some (.braces quoted, .default true, rest)
  | ':' :: '=' :: rest => some (.braces quoted, .assign true, rest)
  | ':' :: '?' :: rest => some (.braces quoted, .demand true, rest)
  | ':' :: '+' :: rest => some (.braces quoted, .replace true, rest)
  | '-' :: rest => some (.braces quoted, .default false, rest)
  | '=' :: rest => some (.braces quoted, .assign false, rest)
  | '?' :: rest => some (.braces quoted, .demand false, rest)
  | '+' :: rest => some (.braces quoted, .replace false, rest)
  | '#' :: '#' :: rest => some (.braces false, .trimStart true, rest)
  | '#' :: rest => some (.braces false, .trimStart false, rest)
  | '%' :: '%' :: rest => some (.braces false, .trimEnd true, rest)
  | '%' :: rest => some (.braces false, .trimEnd false, rest)
  | _ => none

/-- The operator at the start of a text, and what follows it. -/
def cutMark : Raw → Option (Mark × Raw)
  | ';' :: ';' :: rest => some (.doubleSemicolon, rest)
  | ';' :: rest => some (.semicolon, rest)
  | '&' :: '&' :: rest => some (.doubleAmpersand, rest)
  | '&' :: rest => some (.ampersand, rest)
  | '|' :: '|' :: rest => some (.doubleBar, rest)
  | '|' :: rest => some (.bar, rest)
  | '(' :: rest => some (.openParenthesis, rest)
  | ')' :: rest => some (.closeParenthesis, rest)
  | _ => none

/-- The redirection at the start of a text, with its usual descriptor, and what follows it. -/
def cutRedirect : Raw → Option (RedirectMark × Nat × Raw)
  | '<' :: '<' :: '-' :: rest => some (.document true, 0, rest)
  | '<' :: '<' :: rest => some (.document false, 0, rest)
  | '<' :: '&' :: rest => some (.file .duplicate, 0, rest)
  | '<' :: '>' :: rest => some (.file .update, 0, rest)
  | '<' :: rest => some (.file .read, 0, rest)
  | '>' :: '>' :: rest => some (.file .append, 1, rest)
  | '>' :: '&' :: rest => some (.file .duplicate, 1, rest)
  | '>' :: '|' :: rest => some (.file .replace, 1, rest)
  | '>' :: rest => some (.file .write, 1, rest)
  | _ => none

/-- The variable and the value of a word that is an assignment. -/
def assignment? : Word → Option (Raw × Word)
  | .plain s :: rest =>
    let name := s.takeWhile (· != '=')
    match s.dropWhile (· != '=') with
    | '=' :: value =>
      if Raw.isName name then some (name, if value = [] then rest else .plain value :: rest) else none
    | _ => none
  | _ => none

/-- The words of a loop that names none. -/
def allParameters : List Word :=
  [[.parameter true ['@'] .value]]

def unexpected {α : Type} (t : Token) : Reading α :=
  fail (.unexpected t.description none)

/-- A token where only a reserved word or an operator can stand. -/
def unlike {α : Type} (t : Token) (expected : String) : Reading α :=
  fail (.unexpected t.description (some ("\"" ++ expected ++ "\"")))

mutual

/-- The pieces up to the end of their place, behind those already read, which are given reversed. -/
def pieces : Nat → Place → List Piece → Reading Word
  | 0, _, _ => fail .tooDeep
  | fuel + 1, place, read => do
    let s := (← get).rest
    let run := s.takeWhile place.isOrdinary
    if run ≠ [] then
      pass run (s.drop run.length)
      pieces fuel place (Word.push (place.piece run) read)
    else
      match s with
      | [] =>
        match place.unclosed with
        | none => return read.reverse
        | some f => fail f
      | '\\' :: '\n' :: rest =>
        pass ['\n'] rest
        pieces fuel place read
      | '\\' :: c :: rest =>
        pass [c] rest
        pieces fuel place (Word.push (.quoted (place.escape c)) read)
      | '\\' :: [] =>
        pass [] []
        pieces fuel place (Word.push (.quoted ['\\']) read)
      | '$' :: rest =>
        pass [] rest
        let p ← dollar fuel place.isQuoted
        pieces fuel place (Word.push p read)
      | '\x60' :: rest =>
        match cutBackquote place.isQuoted [] rest with
        | none =>
          pass rest []
          fail .openBackquote
        | some (text, rest) =>
          let c ← within text (script fuel)
          pass [] rest
          pieces fuel place (.output place.isQuoted c :: read)
      | '\'' :: rest =>
        let text := rest.takeWhile (· != '\'')
        match rest.dropWhile (· != '\'') with
        | [] =>
          pass rest []
          fail .openQuote
        | _ :: rest =>
          pass text rest
          pieces fuel place (Word.push (.quoted text) read)
      | '"' :: rest =>
        if place = .quotes then return read.reverse
        else
          pass [] rest
          let inner ← pieces fuel .quotes []
          pass [] ((← get).rest.drop 1)
          let inner := if inner.isEmpty then [.quoted []] else inner
          pieces fuel place (inner.foldl (fun read p => Word.push p read) read)
      | c :: rest =>
        match place with
        | .arithmetic depth =>
          if c = '(' then
            pass [] rest
            pieces fuel (.arithmetic (depth + 1)) (Word.push (.quoted [c]) read)
          else if depth = 0 ∧ rest.head? = some ')' then return read.reverse
          else
            pass [] rest
            pieces fuel (.arithmetic (depth - 1)) (Word.push (.quoted [c]) read)
        | _ => return read.reverse

/-- What follows a dollar sign. -/
def dollar : Nat → Bool → Reading Piece
  | 0, _ => fail .tooDeep
  | fuel + 1, quoted => do
    match (← get).rest with
    | '(' :: '(' :: rest =>
      pass [] rest
      let e ← pieces fuel (.arithmetic 0) []
      match (← get).rest with
      | ')' :: ')' :: rest =>
        pass [] rest
        return .arithmetic quoted e
      | _ => fail .openArithmetic
    | '(' :: rest =>
      pass [] rest
      let c ← list fuel true .empty
      match ← token fuel with
      | .mark .closeParenthesis => return .output quoted c
      | t => unlike t ")"
    | '\x7b' :: '#' :: '\x7d' :: rest =>
      pass [] rest
      return .parameter quoted ['#'] .value
    | '\x7b' :: '#' :: rest =>
      match cutParameter rest with
      | some (name, '\x7d' :: rest) =>
        pass [] rest
        return .parameter quoted name .length
      | _ => fail .badSubstitution
    | '\x7b' :: rest =>
      match cutParameter rest with
      | none => fail .badSubstitution
      | some (name, '\x7d' :: rest) =>
        pass [] rest
        return .parameter quoted name .value
      | some (name, rest) =>
        match cutOperation quoted rest with
        | none => fail (if rest.head?.all fun c => c == '\n' then .openBrace else .badSubstitution)
        | some (place, operation, rest) =>
          pass [] rest
          let w ← pieces fuel place []
          pass [] ((← get).rest.drop 1)
          return .parameter quoted name (operation w)
    | c :: rest =>
      if Raw.startsName c then
        pass [] (rest.dropWhile Raw.continuesName)
        return .parameter quoted (c :: rest.takeWhile Raw.continuesName) .value
      else if c.isDigit || isSpecialParameter c then
        pass [] rest
        return .parameter quoted [c] .value
      else return if quoted then .quoted ['$'] else .plain ['$']
    | [] => return if quoted then .quoted ['$'] else .plain ['$']

/-- The texts of the here-documents that were announced. -/
def readDocuments : Nat → Reading Unit
  | 0 => fail .tooDeep
  | fuel + 1 => do
    let r ← get
    match r.announced with
    | [] => return
    | a :: announced =>
      let (text, rest, lines) := Reader.cutDocument a (r.rest.length + 1) [] r.rest 0
      let w ← if a.literal then pure [.quoted text] else within text (pieces fuel .document [])
      modify fun r =>
        { r with
          rest := rest
          line := r.line + lines
          announced := announced
          documents := (a.number, w) :: r.documents }
      readDocuments fuel

/-- The next token. -/
def token : Nat → Reading Token
  | 0 => fail .tooDeep
  | fuel + 1 => do
    match (← get).ahead with
    | some t =>
      modify fun r => { r with ahead := none }
      return t
    | none =>
      modify Reader.toToken
      match (← get).rest with
      | [] =>
        readDocuments fuel
        return .finish
      | '\n' :: rest =>
        pass ['\n'] rest
        readDocuments fuel
        return .newline
      | s =>
        match cutMark s, cutRedirect s with
        | some (m, rest), _ =>
          pass [] rest
          return .mark m
        | none, some (m, descriptor, rest) =>
          pass [] rest
          return .redirect descriptor m
        | none, none =>
          let w ← pieces fuel .bare []
          match w, cutRedirect (← get).rest with
          | [.plain [d]], some (m, _, rest) =>
            if d.isDigit then
              pass [] rest
              return .redirect (d.toNat - '0'.toNat) m
            else return .word w
          | w, _ => return .word w

/-- The next token, which stays the next. -/
def peek : Nat → Reading Token
  | 0 => fail .tooDeep
  | fuel + 1 => do
    let t ← token fuel
    modify fun r => { r with ahead := some t }
    return t

/-- The first token that is no line feed, which stays the next. -/
def peekPastNewlines : Nat → Reading Token
  | 0 => fail .tooDeep
  | fuel + 1 => do
    match ← token fuel with
    | .newline => peekPastNewlines fuel
    | t =>
      modify fun r => { r with ahead := some t }
      return t

/-- Takes a reserved word. -/
def expect : Nat → String → Reading Unit
  | 0, _ => fail .tooDeep
  | fuel + 1, expected => do
    let t ← token fuel
    if t.reserved? = some expected then return
    else unlike t expected

/-- The commands up to a token that ends their list, behind those already read. -/
def list : Nat → Bool → Command → Reading Command
  | 0, _, _ => fail .tooDeep
  | fuel + 1, mayEnd, before => do
    let t ← peekPastNewlines fuel
    if t.endsList && (mayEnd || t.description == "end of file") then return before
    else
      let c ← andOr fuel
      match ← token fuel with
      | .mark .ampersand => list fuel true (before.andThen (.background c))
      | .mark .semicolon => list fuel true (before.andThen c)
      | .newline => list fuel true (before.andThen c)
      | t =>
        modify fun r => { r with ahead := some t }
        return before.andThen c

/-- A script that is read as a whole. -/
def script : Nat → Reading Command
  | 0 => fail .tooDeep
  | fuel + 1 => do
    let c ← list fuel true .empty
    match ← token fuel with
    | .finish => return c
    | t => unexpected t

/-- The commands of a line, behind those already read. -/
def lineFrom : Nat → Command → Reading Command
  | 0, _ => fail .tooDeep
  | fuel + 1, before => do
    match ← peek fuel with
    | .newline =>
      let _ ← token fuel
      return before
    | .finish => return before
    | _ =>
      let c ← andOr fuel
      match ← token fuel with
      | .mark .ampersand => lineFrom fuel (before.andThen (.background c))
      | .mark .semicolon => lineFrom fuel (before.andThen c)
      | .newline | .finish => return before.andThen c
      | t => unexpected t

def andOr : Nat → Reading Command
  | 0 => fail .tooDeep
  | fuel + 1 => do
    let c ← pipeline fuel
    andOrFrom fuel c

/-- What is joined to a command on its right. -/
def andOrFrom : Nat → Command → Reading Command
  | 0, _ => fail .tooDeep
  | fuel + 1, c => do
    match ← token fuel with
    | .mark .doubleAmpersand =>
      let _ ← peekPastNewlines fuel
      let d ← pipeline fuel
      andOrFrom fuel (.both c d)
    | .mark .doubleBar =>
      let _ ← peekPastNewlines fuel
      let d ← pipeline fuel
      andOrFrom fuel (.either c d)
    | t =>
      modify fun r => { r with ahead := some t }
      return c

def pipeline : Nat → Reading Command
  | 0 => fail .tooDeep
  | fuel + 1 => do
    let t ← peek fuel
    if t.reserved? = some "!" then
      let _ ← token fuel
      let c ← command fuel
      return .negation (← pipelineFrom fuel [c])
    else
      let c ← command fuel
      pipelineFrom fuel [c]

/-- The rest of a pipeline. The commands already read are given reversed. -/
def pipelineFrom : Nat → List Command → Reading Command
  | 0, _ => fail .tooDeep
  | fuel + 1, read => do
    match ← token fuel with
    | .mark .bar =>
      let _ ← peekPastNewlines fuel
      let c ← command fuel
      pipelineFrom fuel (c :: read)
    | t =>
      modify fun r => { r with ahead := some t }
      match read with
      | [c] => return c
      | read => return .pipeline read.reverse

def command : Nat → Reading Command
  | 0 => fail .tooDeep
  | fuel + 1 => do
    let t ← peek fuel
    let line := (← get).line
    match t, t.reserved? with
    | _, some "if" =>
      let _ ← token fuel
      let c ← conditional fuel
      withRedirects fuel line c
    | _, some "while" =>
      let _ ← token fuel
      let c ← loopBody fuel true
      withRedirects fuel line c
    | _, some "until" =>
      let _ ← token fuel
      let c ← loopBody fuel false
      withRedirects fuel line c
    | _, some "for" =>
      let _ ← token fuel
      let c ← forLoop fuel line
      withRedirects fuel line c
    | _, some "case" =>
      let _ ← token fuel
      match ← token fuel with
      | .word w =>
        let _ ← peekPastNewlines fuel
        let t ← token fuel
        if t.bare? ≠ some "in" then unlike t "in"
        else
          let arms ← caseArms fuel []
          withRedirects fuel line (.choice line w arms)
      | t => fail (.unexpected t.description (some "word"))
    | _, some "\x7b" =>
      let _ ← token fuel
      let c ← list fuel false .empty
      expect fuel "\x7d"
      withRedirects fuel line c
    | .mark .openParenthesis, _ =>
      let _ ← token fuel
      let c ← list fuel false .empty
      match ← token fuel with
      | .mark .closeParenthesis => withRedirects fuel line (.subshell c)
      | t => unlike t ")"
    | .word _, none | .redirect .., none => simple fuel line [] [] []
    | t, _ =>
      let _ ← token fuel
      unexpected t

/-- A compound command with the redirections after it. -/
def withRedirects : Nat → Nat → Command → Reading Command
  | 0, _, _ => fail .tooDeep
  | fuel + 1, line, c => do
    match ← redirects fuel [] with
    | [] => return c
    | rs => return .redirected line c rs

/-- Redirections behind those already read, which are given reversed. -/
def redirects : Nat → List Redirect → Reading (List Redirect)
  | 0, _ => fail .tooDeep
  | fuel + 1, read => do
    match ← token fuel with
    | .redirect descriptor m =>
      let r ← redirect fuel descriptor m
      redirects fuel (r :: read)
    | t =>
      modify fun r => { r with ahead := some t }
      return read.reverse

/-- The target of a redirection. -/
def redirect : Nat → Nat → RedirectMark → Reading Redirect
  | 0, _, _ => fail .tooDeep
  | fuel + 1, descriptor, m => do
    match ← token fuel, m with
    | .word w, .file kind => return .file descriptor kind w
    | .word w, .document stripTabs =>
      let number := (← get).nextDocument
      let a : Announcement := ⟨number, Word.literalText w, Word.isQuoted w, stripTabs⟩
      modify fun r => { r with nextDocument := number + 1, announced := r.announced ++ [a] }
      return .document descriptor number
    | t, _ => unexpected t

/-- What follows `if` or `elif`. -/
def conditional : Nat → Reading Command
  | 0 => fail .tooDeep
  | fuel + 1 => do
    let test ← list fuel false .empty
    expect fuel "then"
    let yes ← list fuel false .empty
    let t ← token fuel
    match t.reserved? with
    | some "elif" => return .conditional test yes (← conditional fuel)
    | some "else" =>
      let no ← list fuel false .empty
      expect fuel "fi"
      return .conditional test yes no
    | some "fi" => return .conditional test yes .empty
    | _ => unlike t "fi"

/-- What follows `while` or `until`. -/
def loopBody : Nat → Bool → Reading Command
  | 0, _ => fail .tooDeep
  | fuel + 1, whenTrue => do
    let test ← list fuel false .empty
    expect fuel "do"
    let body ← list fuel false .empty
    expect fuel "done"
    return .loop whenTrue test body

/-- What follows `for`. -/
def forLoop : Nat → Nat → Reading Command
  | 0, _ => fail .tooDeep
  | fuel + 1, line => do
    let t ← token fuel
    match t.bare? with
    | some name =>
      if !Raw.isName name.toList then fail .badLoopVariable
      else
        let words ← forWords fuel
        let _ ← peekPastNewlines fuel
        expect fuel "do"
        let body ← list fuel false .empty
        expect fuel "done"
        return .each line name.toList words body
    | none => fail .badLoopVariable

/-- The words of a `for` loop. -/
def forWords : Nat → Reading (List Word)
  | 0 => fail .tooDeep
  | fuel + 1 => do
    let t ← peekPastNewlines fuel
    if t.bare? = some "in" then
      let _ ← token fuel
      wordsFrom fuel []
    else
      match t with
      | .mark .semicolon =>
        let _ ← token fuel
        return allParameters
      | _ => return allParameters

/-- Words up to the end of a line or a semicolon. Those already read are given reversed. -/
def wordsFrom : Nat → List Word → Reading (List Word)
  | 0, _ => fail .tooDeep
  | fuel + 1, read => do
    match ← token fuel with
    | .word w => wordsFrom fuel (w :: read)
    | .newline | .mark .semicolon => return read.reverse
    | t => unexpected t

/-- The arms of a `case`, behind those already read, which are given reversed. -/
def caseArms : Nat → List (List Word × Command) → Reading (List (List Word × Command))
  | 0, _ => fail .tooDeep
  | fuel + 1, read => do
    let t ← peekPastNewlines fuel
    if t.bare? = some "esac" then
      let _ ← token fuel
      return read.reverse
    else
      match t with
      | .mark .openParenthesis =>
        let _ ← token fuel
        pure ()
      | _ => pure ()
      let patterns ← casePatterns fuel []
      let body ← list fuel true .empty
      let t ← token fuel
      match t with
      | .mark .doubleSemicolon => caseArms fuel ((patterns, body) :: read)
      | t =>
        if t.bare? = some "esac" then return ((patterns, body) :: read).reverse
        else unlike t ";;"

/-- The patterns of an arm and the parenthesis after them. -/
def casePatterns : Nat → List Word → Reading (List Word)
  | 0, _ => fail .tooDeep
  | fuel + 1, read => do
    match ← token fuel with
    | .word w =>
      match ← token fuel with
      | .mark .bar => casePatterns fuel (w :: read)
      | .mark .closeParenthesis => return (w :: read).reverse
      | t => unlike t ")"
    | t => unlike t ")"

/-- A simple command, or the definition of a function. What was already read is given reversed. -/
def simple : Nat → Nat → List (Raw × Word) → List Word → List Redirect → Reading Command
  | 0, _, _, _, _ => fail .tooDeep
  | fuel + 1, line, assignments, words, redirects => do
    match ← token fuel with
    | .word w =>
      match words, assignment? w with
      | [], some a => simple fuel line (a :: assignments) words redirects
      | words, _ => simple fuel line assignments (w :: words) redirects
    | .redirect descriptor m =>
      let r ← redirect fuel descriptor m
      simple fuel line assignments words (r :: redirects)
    | .mark .openParenthesis =>
      match words, assignments, redirects with
      | [name], [], [] =>
        match ← token fuel with
        | .mark .closeParenthesis =>
          match Word.bareText? name with
          | some name =>
            if !Raw.isName name then fail .badFunctionName
            else
              let _ ← peekPastNewlines fuel
              return .define name (← command fuel)
          | none => fail .badFunctionName
        | t => unlike t ")"
      | _, _, _ =>
        modify fun r => { r with ahead := some (.mark .openParenthesis) }
        return .simple line assignments.reverse words.reverse redirects.reverse
    | t =>
      modify fun r => { r with ahead := some t }
      return .simple line assignments.reverse words.reverse redirects.reverse

end

/-- Enough fuel for a text. -/
def fuelFor (s : Raw) : Nat :=
  24 * s.length + 96

end Reading

namespace Reader

def ofText (s : Raw) : Reader :=
  { rest := s }

/-- The commands of the next line. There are none at the end of the script. -/
def nextLine (r : Reader) : Except ScriptError (Option Command × Reader) :=
  match (Reading.lineFrom (Reading.fuelFor r.rest) .empty).run r with
  | .error e _ => .error e
  | .ok c after =>
    .ok (if r.rest = [] then none else some c, after)

end Reader

end InlineLinkage.Shell
