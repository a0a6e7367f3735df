import RestConnector.Command.Arguments
import RestConnector.Command.Files
import RestConnector.Connector.Encode
import RestConnector.Conversion
import RestConnector.Json.Writer
import RestConnector.Yaml.Writer

/-!
Contract: the command that converts a document.

Owns:
- `Answer`, what a command leaves behind besides files;
- `run`, the command for given arguments, environment and files.

Does not own: the machine's files and environment, see `RestConnector.Main`.

The options of the command line count before the environment, and both before the options file.
-/

namespace RestConnector.Command

/-- What a command says, and whether it succeeded. -/
structure Answer where
  exit : Nat
  stdout : String
  stderr : String
deriving Repr, DecidableEq

/-- The variables of the environment that a command looks at. -/
structure Environment where
  variableRoot : Option String
  pathRoot : Option String
deriving Repr, DecidableEq

inductive Failure where
  | file (fault : FileFault)
  | conversion (fault : Fault)
deriving Repr

namespace Failure

def message : Failure → String
  | .file fault => "IO Error: " ++ fault.message
  | .conversion fault => fault.message

end Failure

/-- The preferences of an options file. -/
def preferencesOf (complaints : Complaints) (bytes : List UInt8) : Except Failure Preferences :=
  match Text.Utf8.strict bytes with
  | none => .error (.file .notText)
  | some text =>
    match Preferences.ofText? text with
    | some preferences => .ok preferences
    | none =>
      let complaint := complaints .yaml (text.toList.map some)
      .error (.conversion (.bare (.unreadable .yaml complaint)))

/-- Preferences with what the command line and the environment say. -/
def override (arguments : ConvertArguments) (environment : Environment)
    (preferences : Preferences) : Preferences where
  variableRoot :=
    (arguments.variableRoot.or environment.variableRoot).getD preferences.variableRoot
  pathRoot := (arguments.pathRoot.or environment.pathRoot).getD preferences.pathRoot
  verbs := arguments.verbs.foldl (fun verbs pair => verbs.insert pair.1 pair.2) preferences.verbs

/-- The format of the output: the one asked for, or the one that its extension tells. -/
def outputFormat (arguments : ConvertArguments) : TextFormat :=
  match arguments.format with
  | some format => format
  | none =>
    match arguments.output.bind Path.extension? with
    | some "yaml" => .yaml
    | some "yml" => .yaml
    | _ => .json

def render (format : TextFormat) (connector : Connector) : String :=
  match format with
  | .json => connector.toJson.pretty
  | .yaml => Yaml.render connector.toJson

variable {m : Type → Type} [Monad m]

def loadPreferences (complaints : Complaints) (files : FileAccess m) (environment : Environment)
    (arguments : ConvertArguments) : ExceptT Failure m Preferences := do
  let chosen ←
    match arguments.config with
    | none => pure Preferences.empty
    | some path =>
      match ← (files.read path : m _) with
      | .ok bytes => liftExcept (preferencesOf complaints bytes)
      | .error fault => throw (.file fault)
  return override arguments environment chosen
where
  liftExcept (result : Except Failure Preferences) : ExceptT Failure m Preferences :=
    match result with
    | .ok preferences => pure preferences
    | .error failure => throw failure

/-- The text of the connector of a file. -/
def convertFile (complaints : Complaints) (files : FileAccess m) (environment : Environment)
    (arguments : ConvertArguments) : ExceptT Failure m String := do
  let preferences ← loadPreferences complaints files environment arguments
  match ← (files.read arguments.file : m _) with
  | .error fault => throw (.file fault)
  | .ok bytes =>
    match Connector.ofSymbols complaints (Text.Utf8.ofBytes bytes) preferences with
    | .error fault => throw (.conversion fault)
    | .ok connector => return render (outputFormat arguments) connector

/-- A conversion; without an output file its text is printed with a line break after it. -/
def convert (complaints : Complaints) (files : FileAccess m) (environment : Environment)
    (arguments : ConvertArguments) : ExceptT Failure m String := do
  let text ← convertFile complaints files environment arguments
  match arguments.output with
  | none => return text ++ "\n"
  | some path =>
    match ← (files.write path text : m _) with
    | .ok () => return ""
    | .error fault => throw (.file fault)

def versionText : String := "rest-schema-cli 0.1.0"

def usageText : String :=
  "Usage: rest-schema convert --file <FILE> [--output <OUTPUT>] [--format <json|yaml>] " ++
    "[--config <CONFIG>] [--env-prefix <TEXT>] [--trim-prefix <TEXT>] " ++
    "[--method-alias <METHOD=VERB>]"

def run (complaints : Complaints) (files : FileAccess m) (environment : Environment)
    (words : List String) : m Answer := do
  match Invocation.ofWords words with
  | .version => return ⟨0, versionText ++ "\n", ""⟩
  | .help => return ⟨0, usageText ++ "\n", ""⟩
  | .refused => return ⟨2, "", usageText ++ "\n"⟩
  | .convert arguments =>
    match ← (convert complaints files environment arguments).run with
    | .ok text => return ⟨0, text, ""⟩
    | .error failure => return ⟨1, "", failure.message ++ "\n"⟩

end RestConnector.Command
