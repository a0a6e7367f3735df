import RestConnector.Credentials
import RestConnector.Swagger.Reader
import RestConnector.Typing.Operation

/-!
Contract: connectors from documents.

Owns:
- `Connector.ofDocument`, the connector of a document;
- `Connector.ofSymbols`, the connector of a text.

Does not own: the types of single schemas, see `RestConnector.Typing.Schema`; the words of the
parsers, which are given as `Complaints`.

The paths come first, then the definitions, which so replace types of the same name that stand in
operations, then the security definitions.  The first fault ends the conversion.
-/

namespace RestConnector.Conversion

open Swagger (Document PathItem Schema SecurityDefinition)
open Typing (Callables Outcome Scope)

def callables (scope : Scope) (items : List (String × PathItem)) : Outcome Callables :=
  (Outcome.forEach (fun item => Typing.ofPathItem scope item.1 item.2) items).andThen fun parts =>
    .ok ⟨parts.flatMap (·.functions), parts.flatMap (·.procedures)⟩

def definition (scope : Scope) (entry : String × Schema) : Outcome Unit :=
  (Typing.ofDefinition scope entry.1 entry.2).mapFault fun fault =>
    fault.atApi ("definitions/" ++ entry.1)

def credential (preferences : Preferences) (entry : String × SecurityDefinition) :
    Except Fault (String × Credential) :=
  match Credential.ofDefinition entry.1 entry.2 preferences with
  | .ok credential => .ok (entry.1, credential)
  | .error fault => .error (fault.atApi ("securityDefinitions/" ++ entry.1))

/-- All operations and all definitions of a document. -/
def walk (scope : Scope) : Outcome Callables :=
  (callables scope scope.document.pathItems).andThen fun found =>
  (Outcome.forEach (definition scope) scope.document.definitions).andThen fun _ => .ok found

/-- The address of a document's server, if it names a host. -/
def serverAddress? (document : Document) : Option String :=
  let host := document.host.getD ""
  if host.isEmpty then none
  else
    let scheme := document.schemes.find? fun scheme =>
      ['h', 't', 't', 'p'].isPrefixOf scheme.toList
    some (scheme.getD "https" ++ "://" ++ host ++ document.basePath.getD "")

/-- The servers of a document: at most one, whose address the environment may replace. -/
def servers (document : Document) (preferences : Preferences) : List Server :=
  match serverAddress? document with
  | none => []
  | some address =>
    let name := Identifier.constant [preferences.variableRoot, "SERVER_URL"]
    [⟨(Placeholder.mk name (some address)).text⟩]

def settings (document : Document) (preferences : Preferences)
    (credentials : List (String × Credential)) : Settings where
  servers := servers document preferences
  version := document.info.bind fun info => info.version
  credentials := .ofList credentials
  security := Typing.securityRules document.security

end RestConnector.Conversion

namespace RestConnector

/-- What the parser of a format says about a text that it refuses. -/
abbrev Complaints := TextFormat → List Text.Symbol → String

namespace Connector

open RestConnector.Typing (Scope State)

def ofDocument (document : Swagger.Document) (preferences : Preferences) :
    Except Fault Connector :=
  if document.hasPaths then do
    let walked := Conversion.walk (Scope.top document preferences)
    let found ← walked.value
    let credentials ← document.securityDefinitions.mapM (Conversion.credential preferences)
    let catalog := (State.empty.replay walked.log).catalog
    return {
      settings := Conversion.settings document preferences credentials
      functions := found.functions
      procedures := found.procedures
      objects := catalog.objects
      scalars := catalog.scalars }
  else .error (.bare .nothingToConvert)

def ofSymbols (complaints : Complaints) (input : List Text.Symbol) (preferences : Preferences) :
    Except Fault Connector :=
  match Swagger.Document.ofSymbols input with
  | .ok document => ofDocument document preferences
  | .error format => .error (.bare (.unreadable format (complaints format input)))

end Connector

end RestConnector
