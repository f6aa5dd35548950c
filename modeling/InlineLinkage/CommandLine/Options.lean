/-!
# Options

The arguments after a command are options: flags, or names with values. A value follows its option as
the next argument or after an equals sign. Every option is given at most once, and nothing but options
is taken.
-/
namespace InlineLinkage.CommandLine

/-- What an option takes. -/
inductive OptionForm where
  | flag
  | value
  /-- A value that may start with a hyphen. -/
  | anyValue
  deriving DecidableEq, Repr

/-- The options of a command, by their names without hyphens. -/
abbrev Forms := List (String × OptionForm)

/-- The options that were given, the last first. A flag has no value. -/
abbrev Given := List (String × Option String)

/-- What is wrong with arguments. -/
inductive UsageError where
  | noCommand
  | unknownCommand (name : String)
  | unexpectedArgument (argument : String)
  | unexpectedValue (option : String)
  | missingValue (option : String)
  | repeated (option : String)
  | missing (option : String)
  | badValue (option value : String)
  deriving DecidableEq, Repr

def UsageError.message : UsageError → String
  | .noCommand => "a command is required"
  | .unknownCommand name => "unrecognized command '" ++ name ++ "'"
  | .unexpectedArgument a => "unexpected argument '" ++ a ++ "' found"
  | .unexpectedValue o => "unexpected value for '--" ++ o ++ "'"
  | .missingValue o => "a value is required for '--" ++ o ++ "' but none was supplied"
  | .repeated o => "the argument '--" ++ o ++ "' cannot be used multiple times"
  | .missing o => "the required argument '--" ++ o ++ "' was not provided"
  | .badValue o v => "invalid value '" ++ v ++ "' for '--" ++ o ++ "'"

/-- Why no command is run. -/
inductive Stop where
  | usage (e : UsageError)
  | help
  | version
  deriving DecidableEq, Repr

/-- What stands before the first equals sign, and what stands after it when there is one. -/
def splitEquals : List Char → List Char × Option (List Char)
  | [] => ([], none)
  | c :: rest =>
    if c = '=' then ([], some rest)
    else
      let (before, after) := splitEquals rest
      (c :: before, after)

/-- The shape of an argument. -/
inductive Shape where
  /-- Two hyphens alone. -/
  | separator
  | long (name : String) (value : Option String)
  /-- One hyphen and a letter, with what follows it. -/
  | short (letter : Char)
  | plain
  deriving DecidableEq

def shape (argument : String) : Shape :=
  match argument.toList with
  | ['-', '-'] => .separator
  | '-' :: '-' :: rest =>
    let (name, value) := splitEquals rest
    .long (String.ofList name) (value.map String.ofList)
  | '-' :: c :: _ => .short c
  | _ => .plain

/-- Whether an argument can be the value of an option before it. -/
def OptionForm.accepts (f : OptionForm) (argument : String) : Bool :=
  match f with
  | .flag => false
  | .value => shape argument == .plain
  | .anyValue => true

/-- Takes one more option. The value is checked at once. -/
def give (check : String → String → Bool) (given : Given) (name : String) (value : Option String) :
    Except UsageError Given :=
  if given.any fun g => g.1 == name then .error (.repeated name)
  else
    match value with
    | some v => if check name v then .ok ((name, value) :: given) else .error (.badValue name v)
    | none => .ok ((name, none) :: given)

/-- Reads the options of a command. -/
def readOptions (forms : Forms) (check : String → String → Bool) (given : Given) :
    List String → Except Stop Given
  | [] => .ok given
  | argument :: rest =>
    match shape argument with
    | .separator =>
      match rest with
      | [] => .ok given
      | next :: _ => .error (.usage (.unexpectedArgument next))
    | .short c =>
      if c = 'h' then .error .help else .error (.usage (.unexpectedArgument argument))
    | .plain => .error (.usage (.unexpectedArgument argument))
    | .long name value =>
      match forms.lookup name, value with
      | none, _ =>
        if name = "help" ∧ value = none then .error .help
        else .error (.usage (.unexpectedArgument argument))
      | some .flag, some _ => .error (.usage (.unexpectedValue name))
      | some .flag, none =>
        match give check given name none with
        | .ok given => readOptions forms check given rest
        | .error e => .error (.usage e)
      | some _, some v =>
        match give check given name (some v) with
        | .ok given => readOptions forms check given rest
        | .error e => .error (.usage e)
      | some form, none =>
        match rest with
        | [] => .error (.usage (.missingValue name))
        | v :: rest =>
          if form.accepts v then
            match give check given name (some v) with
            | .ok given => readOptions forms check given rest
            | .error e => .error (.usage e)
          else .error (.usage (.missingValue name))

namespace Given

def has (g : Given) (name : String) : Bool :=
  g.any fun e => e.1 == name

def value? (g : Given) (name : String) : Option String :=
  (g.lookup name).join

/-- The value of an option that must be there. -/
def required (g : Given) (name : String) : Except Stop String :=
  match value? g name with
  | some v => .ok v
  | none => .error (.usage (.missing name))

end Given

end InlineLinkage.CommandLine
