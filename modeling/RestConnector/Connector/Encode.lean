import RestConnector.Connector.Basic

/-!
Contract: connectors as JSON values.

Owns:
- `toJson` for every part of a connector.

Does not own: the reading of such values, see `RestConnector.Connector.Decode`.

A member that is absent is left out.  So are a shape's properties when there are none, its mark of
nullability when it is not set, and the credentials of settings without any.
-/

namespace RestConnector

namespace Json

/-- A member, unless it is absent. -/
def optional {α : Type} (name : String) (encode : α → Json) : Option α → List (String × Json)
  | some value => [(name, encode value)]
  | none => []

/-- An object of named values. -/
def table {α : Type} (encode : α → Json) (entries : List (String × α)) : Json :=
  .record (entries.map fun entry => (entry.1, encode entry.2))

def double (value : Double) : Json := .number (.decimal value)

end Json

namespace TypeTerm

def toJson : TypeTerm → Json
  | .named name => .record [("type", .text "named"), ("name", .text name)]
  | .nullable inner =>
    .record [("type", .text "nullable"), ("underlying_type", inner.toJson)]
  | .array element => .record [("type", .text "array"), ("element_type", element.toJson)]

end TypeTerm

namespace ValueShape

def plainMembers (shape : ValueShape) : List (String × Json) :=
  [("type", .text shape.kind)] ++
    Json.optional "format" .text shape.format ++
    Json.optional "pattern" .text shape.pattern ++
    (if shape.nullable then [("nullable", .bool true)] else []) ++
    Json.optional "minimum" Json.double shape.minimum ++
    Json.optional "maximum" Json.double shape.maximum ++
    Json.optional "minLength" Json.ofNat shape.minLength ++
    Json.optional "maxLength" Json.ofNat shape.maxLength ++
    Json.optional "description" .text shape.description

mutual

def toJson (shape : ValueShape) : Json :=
  .record (shape.plainMembers ++ itemsMember shape.items ++
    (if shape.properties.isEmpty then []
      else [("properties", .record (propertyMembers shape.properties))]))
termination_by sizeOf shape
decreasing_by
  all_goals
    cases shape
    simp only [ValueShape.mk.sizeOf_spec]
    omega

def itemsMember : Option ValueShape → List (String × Json)
  | some items => [("items", items.toJson)]
  | none => []
termination_by items => sizeOf items

def propertyMembers : List (String × ValueShape) → List (String × Json)
  | [] => []
  | (name, shape) :: rest => (name, shape.toJson) :: propertyMembers rest
termination_by properties => sizeOf properties

end

end ValueShape

namespace WireForm

def tag : WireForm → String
  | .boolean => "boolean"
  | .string => "string"
  | .int32 => "int32"
  | .int64 => "int64"
  | .float32 => "float32"
  | .float64 => "float64"
  | .date => "date"
  | .timestamp => "timestamptz"
  | .uuid => "uuid"
  | .bytes => "bytes"
  | .json => "json"
  | .choice _ => "enum"

/-- The members of a wire form that its name does not tell. -/
def members : WireForm → List (String × Json)
  | .choice values => [("one_of", .ofTexts values)]
  | _ => []

def toJson (form : WireForm) : Json :=
  .record (("type", .text form.tag) :: form.members)

end WireForm

def ScalarDefinition.toJson (scalar : ScalarDefinition) : Json :=
  .record ([
    ("aggregate_functions", .record scalar.aggregates.entries),
    ("comparison_operators", .record scalar.comparisons.entries)] ++
    Json.optional "representation" WireForm.toJson scalar.form)

def FieldDefinition.toJson (field : FieldDefinition) : Json :=
  .record (Json.optional "description" .text field.description ++ [("type", field.type.toJson)])

def ObjectDefinition.fieldsJson (object : ObjectDefinition) : Json :=
  Json.table FieldDefinition.toJson object.fields

def ObjectDefinition.toJson (object : ObjectDefinition) : Json :=
  .record (Json.optional "description" .text object.description ++ [("fields", object.fieldsJson)])

def Argument.toJson (argument : Argument) : Json :=
  .record
    (Json.optional "description" .text argument.description ++ [("type", argument.type.toJson)])

def RequestParameter.toJson (parameter : RequestParameter) : Json :=
  .record [
    ("name", .text parameter.name),
    ("in", .text parameter.place.name),
    ("schema", parameter.shape.toJson)]

def RequestBody.toJson (body : RequestBody) : Json :=
  .record [("contentType", .text body.contentType), ("schema", body.shape.toJson)]

def SecurityRule.toJson (rule : SecurityRule) : Json :=
  Json.table Json.ofTexts rule.entries

def Request.toJson (request : Request) : Json :=
  .record ([
    ("url", .text request.url),
    ("method", .text request.method.name),
    ("parameters", .list (request.parameters.map RequestParameter.toJson))] ++
    Json.optional "requestBody" RequestBody.toJson request.body ++
    [("security", .list (request.security.map SecurityRule.toJson))])

def Callable.toJson (callable : Callable) : Json :=
  .record ([("name", .text callable.name)] ++
    Json.optional "description" .text callable.description ++ [
    ("arguments", Json.table Argument.toJson callable.arguments.entries),
    ("result_type", callable.result.toJson),
    ("request", callable.request.toJson)])

def OAuthFlow.toJson (flow : OAuthFlow) : Json :=
  .record (Json.optional "authorizationUrl" .text flow.authorizationUrl ++
    Json.optional "tokenUrl" .text flow.tokenUrl ++
    [("scopes", Json.table .text flow.scopes)])

def OAuthFlows.toJson (flows : OAuthFlows) : Json :=
  .record (Json.optional "authorizationCode" OAuthFlow.toJson flows.authorizationCode ++
    Json.optional "implicit" OAuthFlow.toJson flows.implicit ++
    Json.optional "password" OAuthFlow.toJson flows.password ++
    Json.optional "clientCredentials" OAuthFlow.toJson flows.clientCredentials)

def Credential.toJson : Credential → Json
  | .apiKey place name value =>
    .record [
      ("type", .text "apiKey"), ("in", .text place.name), ("name", .text name),
      ("value", .text value)]
  | .http scheme header value =>
    .record [
      ("type", .text "http"), ("scheme", .text scheme), ("header", .text header),
      ("value", .text value)]
  | .oauth2 flows => .record [("type", .text "oauth2"), ("flows", flows.toJson)]

def Server.toJson (server : Server) : Json :=
  .record [("url", .text server.url)]

def Settings.toJson (settings : Settings) : Json :=
  .record ([("servers", .list (settings.servers.map Server.toJson))] ++
    Json.optional "version" .text settings.version ++
    (if settings.credentials.entries.isEmpty then []
      else [("securitySchemes", Json.table Credential.toJson settings.credentials.entries)]) ++
    [("security", .list (settings.security.map SecurityRule.toJson))])

def Connector.toJson (connector : Connector) : Json :=
  .record [
    ("settings", connector.settings.toJson),
    ("functions", .list (connector.functions.map Callable.toJson)),
    ("procedures", .list (connector.procedures.map Callable.toJson)),
    ("object_types", Json.table ObjectDefinition.toJson connector.objects.entries),
    ("scalar_types", Json.table ScalarDefinition.toJson connector.scalars.entries)]

end RestConnector
