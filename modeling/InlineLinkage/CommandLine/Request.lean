import InlineLinkage.Case
import InlineLinkage.CommandLine.Options
import InlineLinkage.Domain

/-!
# Requests

What the arguments of the program ask for: to run a domain or a single case, to predict a case, to show
its script, or to show the digest of a domain. The settings of a case are checked while the arguments
are read, its qualifiers later.
-/
namespace InlineLinkage.CommandLine

/-- A case whose qualifiers are not yet read. -/
structure CaseRequest where
  definition : String
  prototype : Option String
  compiler : Compiler
  dialect : Dialect
  level : Level
  deriving DecidableEq, Repr

def CaseRequest.toCase (r : CaseRequest) : Except UnknownQualifier Case :=
  match Declarations.ofTexts r.prototype r.definition with
  | .error e => .error e
  | .ok d => .ok ⟨d, r.compiler, r.dialect, r.level⟩

inductive Request where
  | run (scope : Scope) (skip config : Option String)
  | check (c : CaseRequest) (config : Option String)
  | classify (c : CaseRequest) (asJson : Bool)
  | render (c : CaseRequest) (config : Option String)
  | digest (scope : Scope) (expected : Option String)
  deriving DecidableEq, Repr

/-- The options of a case. -/
def caseForms : Forms :=
  [("definition", .value), ("prototype", .value), ("std", .value), ("opt", .anyValue),
    ("compiler", .value)]

/-- The commands with their options. -/
def commandForms : List (String × Forms) :=
  [("run", [("minimal", .flag), ("skip", .value), ("config", .value)]),
    ("check", caseForms ++ [("config", .value)]),
    ("classify", caseForms ++ [("json", .flag)]),
    ("render", caseForms ++ [("config", .value)]),
    ("digest", [("minimal", .flag), ("expect", .value)])]

/-- The option that stands before or after every command. -/
def sharedForms : Forms :=
  [("verbose", .flag)]

/-- Whether a value fits its option. -/
def isValue (name value : String) : Bool :=
  match name with
  | "std" => (Dialect.ofText value).isOk
  | "opt" => (Level.ofText value).isOk
  | "compiler" => (Compiler.ofText value).isOk
  | "config" => !value.isEmpty
  | _ => true

/-- A setting of a case by its text. -/
def setting {α ε : Type} (name value : String) : Except ε α → Except Stop α
  | .ok a => .ok a
  | .error _ => .error (.usage (.badValue name value))

def CaseRequest.ofGiven (g : Given) : Except Stop CaseRequest := do
  let definition ← g.required "definition"
  let dialect ← g.required "std"
  let level ← g.required "opt"
  let compiler := (g.value? "compiler").getD "gcc"
  return {
    definition := definition
    prototype := g.value? "prototype"
    compiler := ← setting "compiler" compiler (Compiler.ofText compiler)
    dialect := ← setting "std" dialect (Dialect.ofText dialect)
    level := ← setting "opt" level (Level.ofText level) }

/-- The domain that a flag asks for. -/
def scopeOf (g : Given) : Scope :=
  if g.has "minimal" then .minimal else .exhaustive

namespace Request

/-- The configuration file that is named. -/
def config? : Request → Option String
  | .run _ _ config => config
  | .check _ config => config
  | .render _ config => config
  | _ => none

/-- The request of a command with its options. -/
def ofGiven (name : String) (g : Given) : Except Stop Request :=
  match name with
  | "run" => .ok (.run (scopeOf g) (g.value? "skip") (g.value? "config"))
  | "check" => (CaseRequest.ofGiven g).map fun c => .check c (g.value? "config")
  | "classify" => (CaseRequest.ofGiven g).map fun c => .classify c (g.has "json")
  | "render" => (CaseRequest.ofGiven g).map fun c => .render c (g.value? "config")
  | "digest" => .ok (.digest (scopeOf g) (g.value? "expect"))
  | name => .error (.usage (.unknownCommand name))

/-- The request of a command with the arguments after it. -/
def ofCommand (name : String) (arguments : List String) : Except Stop Request :=
  match commandForms.lookup name with
  | none =>
    if name = "help" then
      match arguments with
      | [] => .error .help
      | [c] =>
        if (commandForms.lookup c).isSome || c == "help" then .error .help
        else .error (.usage (.unknownCommand c))
      | c :: _ => .error (.usage (.unknownCommand c))
    else .error (.usage (.unknownCommand name))
  | some forms =>
    match readOptions (forms ++ sharedForms) isValue [] arguments with
    | .error s => .error s
    | .ok g => ofGiven name g

/-- Reads the arguments before the command. -/
def ofArgumentsFrom (given : Given) : List String → Except Stop Request
  | [] => .error (.usage .noCommand)
  | argument :: rest =>
    match shape argument with
    | .plain => ofCommand argument rest
    | .separator => .error (.usage (rest.head?.elim .noCommand .unexpectedArgument))
    | .short 'h' => .error .help
    | .short 'V' => .error .version
    | .short _ => .error (.usage (.unexpectedArgument argument))
    | .long "help" none => .error .help
    | .long "version" none => .error .version
    | .long name none =>
      if (sharedForms.lookup name).isSome then
        match give isValue given name none with
        | .ok given => ofArgumentsFrom given rest
        | .error e => .error (.usage e)
      else .error (.usage (.unexpectedArgument argument))
    | .long name (some _) =>
      if (sharedForms.lookup name).isSome then .error (.usage (.unexpectedValue name))
      else .error (.usage (.unexpectedArgument argument))

/-- The request that the arguments of the program make. -/
def ofArguments (arguments : List String) : Except Stop Request :=
  ofArgumentsFrom [] arguments

end Request

end InlineLinkage.CommandLine
