import RestConnector.Connector.Basic
import RestConnector.Source.Fields

/-!
Contract: connectors from JSON values.

Owns:
- a reader for every part of a connector.

Does not own: the writing of such values, see `RestConnector.Connector.Encode`.

Members that a writer leaves out may be missing.
-/

namespace RestConnector

open Source (Reading Node)

namespace TypeTerm

/-- A type, in which `fuel` more types may be nested. -/
def read : Nat → Node → Reading TypeTerm
  | 0, _ => failure
  | fuel + 1, node => do
    let (tag, rest) ← node.tagged "type" ["named", "nullable", "array"]
    if tag = "named" then
      let fields ← rest.fields ["name"]
      return .named (← fields.required "name" Node.text)
    else if tag = "nullable" then
      let fields ← rest.fields ["underlying_type"]
      return .nullable (← fields.required "underlying_type" (read fuel))
    else
      let fields ← rest.fields ["element_type"]
      return .array (← fields.required "element_type" (read fuel))

def ofNode (node : Node) : Reading TypeTerm := read node.height node

end TypeTerm

namespace ValueShape

/-- A shape, in which `fuel` more shapes may be nested. -/
def read : Nat → Node → Reading ValueShape
  | 0, _ => failure
  | fuel + 1, node => do
    let fields ← node.fields
      ["type", "format", "pattern", "nullable", "minimum", "maximum", "minLength", "maxLength",
        "description", "items", "properties"]
    return {
      kind := ← fields.required "type" Node.text
      format := ← fields.maybe "format" Node.text
      pattern := ← fields.maybe "pattern" Node.text
      nullable := ← fields.defaulted "nullable" false Node.flag
      minimum := ← fields.maybe "minimum" Node.double
      maximum := ← fields.maybe "maximum" Node.double
      minLength := ← fields.maybe "minLength" Node.natural
      maxLength := ← fields.maybe "maxLength" Node.natural
      description := ← fields.maybe "description" Node.text
      items := ← fields.maybe "items" (read fuel)
      properties := ← fields.defaulted "properties" [] fun inner => inner.orderedOf (read fuel) }

def ofNode (node : Node) : Reading ValueShape := read node.height node

end ValueShape

namespace WireForm

/-- The wire forms that their names tell in full. -/
def simple : List (String × WireForm) :=
  [("boolean", .boolean), ("string", .string), ("int32", .int32), ("int64", .int64),
    ("float32", .float32), ("float64", .float64), ("date", .date), ("timestamptz", .timestamp),
    ("uuid", .uuid), ("bytes", .bytes), ("json", .json)]

def ofNode (node : Node) : Reading WireForm := do
  let (tag, rest) ← node.tagged "type" (simple.map Prod.fst ++ ["enum"])
  match simple.lookup tag with
  | some form =>
    rest.unitVariant
    return form
  | none =>
    let fields ← rest.fields ["one_of"]
    return .choice (← fields.required "one_of" (·.listOf Node.text))

end WireForm

def ScalarDefinition.ofNode (node : Node) : Reading ScalarDefinition := do
  let fields ← node.fields ["aggregate_functions", "comparison_operators", "representation"]
  return {
    aggregates := ← fields.defaulted "aggregate_functions" ∅ (·.sortedOf Node.json)
    comparisons := ← fields.defaulted "comparison_operators" ∅ (·.sortedOf Node.json)
    form := ← fields.maybe "representation" WireForm.ofNode }

def FieldDefinition.ofNode (node : Node) : Reading FieldDefinition := do
  let fields ← node.fields ["description", "type"]
  return {
    description := ← fields.maybe "description" Node.text
    type := ← fields.required "type" TypeTerm.ofNode }

def ObjectDefinition.ofNode (node : Node) : Reading ObjectDefinition := do
  let fields ← node.fields ["description", "fields"]
  return {
    description := ← fields.maybe "description" Node.text
    fields := ← fields.required "fields" (·.orderedOf FieldDefinition.ofNode) }

def Argument.ofNode (node : Node) : Reading Argument := do
  let fields ← node.fields ["description", "type"]
  return {
    description := ← fields.maybe "description" Node.text
    type := ← fields.required "type" TypeTerm.ofNode }

def RequestParameter.ofNode (node : Node) : Reading RequestParameter := do
  let fields ← node.fields ["name", "in", "schema"]
  return {
    name := ← fields.required "name" Node.text
    place := ← fields.required "in" (·.choice ParameterPlace.choices)
    shape := ← fields.required "schema" ValueShape.ofNode }

def RequestBody.ofNode (node : Node) : Reading RequestBody := do
  let fields ← node.fields ["contentType", "schema"]
  return {
    contentType := ← fields.required "contentType" Node.text
    shape := ← fields.required "schema" ValueShape.ofNode }

def SecurityRule.ofNode (node : Node) : Reading SecurityRule :=
  node.sortedOf fun scopes => scopes.listOf Node.text

def Request.ofNode (node : Node) : Reading Request := do
  let fields ← node.fields ["url", "method", "parameters", "requestBody", "security"]
  return {
    url := ← fields.required "url" Node.text
    method := ← fields.required "method" (·.choice Method.choices)
    parameters := ← fields.list "parameters" RequestParameter.ofNode
    body := ← fields.maybe "requestBody" RequestBody.ofNode
    security := ← fields.list "security" SecurityRule.ofNode }

def Callable.ofNode (node : Node) : Reading Callable := do
  let fields ← node.fields ["name", "description", "arguments", "result_type", "request"]
  return {
    name := ← fields.required "name" Node.text
    description := ← fields.maybe "description" Node.text
    arguments := ← fields.required "arguments" (·.sortedOf Argument.ofNode)
    result := ← fields.required "result_type" TypeTerm.ofNode
    request := ← fields.required "request" Request.ofNode }

def OAuthFlow.ofNode (node : Node) : Reading OAuthFlow := do
  let fields ← node.fields ["authorizationUrl", "tokenUrl", "scopes"]
  return {
    authorizationUrl := ← fields.maybe "authorizationUrl" Node.text
    tokenUrl := ← fields.maybe "tokenUrl" Node.text
    scopes := ← fields.defaulted "scopes" [] fun inner => inner.orderedOf Node.text }

def OAuthFlows.names : List String :=
  ["authorizationCode", "implicit", "password", "clientCredentials"]

/-- Flows at a node, by their names. -/
def OAuthFlows.ofNode (node : Node) : Reading OAuthFlows := do
  let pairs ← node.orderedOf OAuthFlow.ofNode
  if pairs.all fun pair => OAuthFlows.names.contains pair.1 then
    return {
      authorizationCode := pairs.lookup "authorizationCode"
      implicit := pairs.lookup "implicit"
      password := pairs.lookup "password"
      clientCredentials := pairs.lookup "clientCredentials" }
  else failure

def Credential.ofNode (node : Node) : Reading Credential := do
  let (tag, rest) ← node.tagged "type" ["apiKey", "http", "oauth2"]
  if tag = "apiKey" then
    let fields ← rest.fields ["in", "name", "value"]
    let place ← fields.required "in" (·.choice ApiKeyPlace.choices)
    let name ← fields.required "name" Node.text
    return .apiKey place name (← fields.required "value" Node.text)
  else if tag = "http" then
    let fields ← rest.fields ["scheme", "header", "value"]
    let scheme ← fields.required "scheme" Node.text
    let header ← fields.required "header" Node.text
    return .http scheme header (← fields.required "value" Node.text)
  else
    let fields ← rest.fields ["flows"]
    return .oauth2 (← fields.required "flows" OAuthFlows.ofNode)

def Server.ofNode (node : Node) : Reading Server := do
  let fields ← node.fields ["url"]
  return ⟨← fields.required "url" Node.text⟩

def Settings.ofNode (node : Node) : Reading Settings := do
  let fields ← node.fields ["servers", "version", "securitySchemes", "security"]
  return {
    servers := ← fields.list "servers" Server.ofNode
    version := ← fields.maybe "version" Node.text
    credentials := ← fields.defaulted "securitySchemes" ∅ (·.sortedOf Credential.ofNode)
    security := ← fields.list "security" SecurityRule.ofNode }

def Connector.ofNode (node : Node) : Reading Connector := do
  let fields ← node.fields
    ["settings", "functions", "procedures", "object_types", "scalar_types"]
  return {
    settings := ← fields.required "settings" Settings.ofNode
    functions := ← fields.required "functions" (·.listOf Callable.ofNode)
    procedures := ← fields.required "procedures" (·.listOf Callable.ofNode)
    objects := ← fields.required "object_types" (·.sortedOf ObjectDefinition.ofNode)
    scalars := ← fields.required "scalar_types" (·.sortedOf ScalarDefinition.ofNode) }

end RestConnector
