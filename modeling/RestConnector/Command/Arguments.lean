import RestConnector.Fault
import RestConnector.Text.LetterCase

/-!
Contract: the words of a command line.

Owns:
- `ConvertArguments`, what a conversion is asked to do;
- `Invocation.ofWords`, what a command line asks for.

Does not own: doing it, see `RestConnector.Command.Run`.

An option takes the word after it, or what is joined to it by an equals sign; a short option also
takes the rest of its own word.  A separate value never starts with a hyphen, unless it is nothing
else.  Only the method alias may be given more than once.
-/

namespace RestConnector.Command

/-- What a conversion is asked to do. -/
structure ConvertArguments where
  file : String
  output : Option String
  format : Option TextFormat
  config : Option String
  variableRoot : Option String
  pathRoot : Option String
  /-- Words for methods, in the order in which they were given. -/
  verbs : List (String × String)
deriving Repr, DecidableEq

inductive Invocation where
  | convert (arguments : ConvertArguments)
  | version
  | help
  | refused
deriving Repr, DecidableEq

inductive Setting where
  | file
  | output
  | format
  | config
  | variableRoot
  | pathRoot
  | verb
deriving Repr, DecidableEq

namespace Setting

def long : List (String × Setting) :=
  [("file", .file), ("output", .output), ("format", .format), ("config", .config),
    ("env-prefix", .variableRoot), ("trim-prefix", .pathRoot), ("method-alias", .verb)]

def short : List (Char × Setting) := [('f', .file), ('o', .output)]

end Setting

/-- A word of a command line as far as its form tells. -/
inductive Word where
  /-- An option with the value that is joined to it. -/
  | setting (setting : Setting) (joined : Option String)
  | help
  | other
deriving Repr, DecidableEq

/-- Part a text at its first equals sign. -/
def splitAtEquals (text : List Char) : Option (List Char × List Char) :=
  match text.dropWhile (· != '=') with
  | [] => none
  | _ :: rest => some (text.takeWhile (· != '='), rest)

namespace Word

/-- The word after two hyphens. -/
def ofLong (text : List Char) : Word :=
  let (name, joined) := match splitAtEquals text with
    | some (name, value) => (String.ofList name, some (String.ofList value))
    | none => (String.ofList text, none)
  match Setting.long.lookup name with
  | some known => .setting known joined
  | none => if name = "help" ∧ joined = none then .help else .other

/-- The word after one hyphen. -/
def ofShort (letter : Char) (rest : List Char) : Word :=
  match Setting.short.lookup letter with
  | some known =>
    match rest with
    | [] => .setting known none
    | '=' :: value => .setting known (some (String.ofList value))
    | value => .setting known (some (String.ofList value))
  | none => if letter = 'h' then .help else .other

def ofText (text : String) : Word :=
  match text.toList with
  | '-' :: '-' :: name => ofLong name
  | '-' :: letter :: rest => ofShort letter rest
  | _ => .other

end Word

/-- Whether a word can be the value of the option before it. -/
def isValue (text : String) : Bool :=
  match text.toList with
  | '-' :: _ :: _ => false
  | _ => true

/-- The word for a method, given as both with an equals sign between them. -/
def verb? (text : String) : Option (String × String) := do
  let (method, word) ← splitAtEquals text.toList
  if method.isEmpty || word.isEmpty then none
  else some (String.ofList (method.flatMap Text.lowercase), String.ofList word)

def format? (text : String) : Option TextFormat :=
  [("json", .json), ("yaml", .yaml)].lookup text

structure Given where
  file : Option String
  output : Option String
  format : Option TextFormat
  config : Option String
  variableRoot : Option String
  pathRoot : Option String
  verbs : List (String × String)

namespace Given

def none : Given := ⟨.none, .none, .none, .none, .none, .none, []⟩

def fill {α : Type} (place : Option α) (value : α) : Option (Option α) :=
  if place.isSome then .none else some (some value)

def fillPath (place : Option String) (value : String) : Option (Option String) :=
  if value.isEmpty then .none else fill place value

/-- Give an option a value, unless it has one or does not take this one. -/
def set (given : Given) (setting : Setting) (value : String) : Option Given :=
  match setting with
  | .file => (fillPath given.file value).map fun file => { given with file }
  | .output => (fillPath given.output value).map fun output => { given with output }
  | .config => (fillPath given.config value).map fun config => { given with config }
  | .format => do
    let format ← fill given.format (← format? value)
    return { given with format }
  | .variableRoot =>
    (fill given.variableRoot value).map fun variableRoot => { given with variableRoot }
  | .pathRoot => (fill given.pathRoot value).map fun pathRoot => { given with pathRoot }
  | .verb => (verb? value).map fun pair => { given with verbs := given.verbs ++ [pair] }

/-- The conversion that is asked for, if it names a file. -/
def finish (given : Given) : Invocation :=
  match given.file with
  | some file =>
    .convert
      ⟨file, given.output, given.format, given.config, given.variableRoot, given.pathRoot,
        given.verbs⟩
  | .none => .refused

end Given

/-- The conversion that some words ask for. -/
def convertInvocation (given : Given) : List String → Invocation
  | [] => given.finish
  | [word] =>
    if word = "--" then given.finish
    else
      match Word.ofText word with
      | .setting setting (some value) =>
        match given.set setting value with
        | some next => next.finish
        | none => .refused
      | .help => .help
      | _ => .refused
  | word :: next :: rest =>
    match Word.ofText word with
    | .setting setting (some value) =>
      match given.set setting value with
      | some more => convertInvocation more (next :: rest)
      | none => .refused
    | .setting setting none =>
      if isValue next then
        match given.set setting next with
        | some more => convertInvocation more rest
        | none => .refused
      else .refused
    | .help => .help
    | .other => .refused

/-- Whether the words after the one for help name a command, or none. -/
def isTopic : List String → Bool
  | [] => true
  | [word] => word = "convert" || word = "help"
  | _ => false

/-- What a first word asks for that is an option.  A short one counts whatever is joined to it. -/
def leadingOption (word : String) : Invocation :=
  match word.toList with
  | '-' :: 'V' :: _ => .version
  | '-' :: 'h' :: _ => .help
  | _ =>
    if word = "--version" then .version
    else if word = "--help" then .help
    else .refused

def Invocation.ofWords : List String → Invocation
  | [] => .refused
  | word :: rest =>
    if word = "convert" then convertInvocation Given.none rest
    else if word = "help" then if isTopic rest then .help else .refused
    else leadingOption word

end RestConnector.Command
