import RestConnector.Fault
import RestConnector.Identifier
import RestConnector.Placeholder
import RestConnector.Swagger.Document

/-!
Contract: credentials from security definitions.

Owns:
- `Credential.ofDefinition`, the credential that a definition asks for.

Does not own: what an operation requires, see `RestConnector.Typing.Operation`.

A credential holds the placeholder of a variable that is named for the definition, and never a
secret.
-/

namespace RestConnector.Credential

open Swagger (SecurityDefinition)

/-- The text of the placeholder for a variable named by segments. -/
def placeholder (segments : List String) : String :=
  (Placeholder.mk (Identifier.constant segments) none).text

def ofApiKey (key : String) (definition : SecurityDefinition) (preferences : Preferences) :
    Except Fault Credential :=
  let place := definition.location.getD ""
  match ApiKeyPlace.ofName? place with
  | none => .error (.bare (.unknownKeyPlace place))
  | some known =>
    let name := definition.name.getD ""
    if name.isEmpty then .error (.bare .missingKeyName)
    else .ok (.apiKey known name (placeholder [preferences.variableRoot, key]))

/-- The flows of a definition, which are exactly one. -/
def flows (definition : SecurityDefinition) : Except Fault OAuthFlows :=
  let flow : OAuthFlow := ⟨definition.authorizationUrl, definition.tokenUrl, definition.scopes⟩
  let name := definition.flow.getD ""
  if name = "accessCode" then .ok { OAuthFlows.none with authorizationCode := some flow }
  else if name = "implicit" then .ok { OAuthFlows.none with implicit := some flow }
  else if name = "password" then .ok { OAuthFlows.none with password := some flow }
  else if name = "application" then .ok { OAuthFlows.none with clientCredentials := some flow }
  else .error (.bare (.unsupportedFlow name))

/-- The credential that a definition under a key asks for. -/
def ofDefinition (key : String) (definition : SecurityDefinition) (preferences : Preferences) :
    Except Fault Credential :=
  if definition.type = "apiKey" then ofApiKey key definition preferences
  else if definition.type = "basic" then
    .ok (.http "Basic" "Authorization" (placeholder [preferences.variableRoot, key, "TOKEN"]))
  else if definition.type = "oauth2" then (flows definition).map .oauth2
  else .error (.bare (.unsupportedCredential definition.type))

end RestConnector.Credential
