import RestConnector.Fault
import RestConnector.Json.Reader
import RestConnector.Source.Fields
import RestConnector.Swagger.Document
import RestConnector.Text.Utf8

/-!
Contract: documents from JSON and YAML texts.

Owns:
- a reader for each part of a document;
- `Document.ofSymbols`, the document of a text.

Does not own: the readings of plain values, see `RestConnector.Source.Fields`.

A text whose first character that is no white space is an opening brace is read as JSON, and as
YAML if that fails; when both fail, JSON is the format at fault.  Every other text is YAML.
Everything below `paths` and below a status code is read as a plain value first, so that there the
strict types of JSON hold in either format.
-/

namespace RestConnector.Swagger

open RestConnector.Source (Reading Node)
open RestConnector.Text (Symbol)

/-! ## Schemas -/

def schemaFields : List String :=
  ["$ref", "type", "format", "title", "description", "enum", "required", "properties", "items",
    "additionalProperties", "anyOf", "oneOf", "allOf", "nullable", "x-nullable", "pattern",
    "maximum", "minimum", "maxLength", "minLength", "default"]

/-- One type, or a list of them. -/
def readTypes (node : Node) : Reading (List String) := do
  match ← node.present? with
  | some present =>
    present.firstOf [fun held => return [← held.text], fun held => held.listOf Node.text]
  | none => return []

namespace Schema

/-- A schema, in which `fuel` more schemas may be nested. -/
def read : Nat → Node → Reading Schema
  | 0, _ => failure
  | fuel + 1, node => do
    let fields ← node.fields schemaFields
    let additional (inner : Node) : Reading (Bool ⊕ Schema) :=
      inner.firstOf
        [fun held => return .inl (← held.flag), fun held => return .inr (← read fuel held)]
    return {
      reference := ← fields.optional "$ref" Node.text
      types := ← fields.defaulted "type" [] readTypes
      format := ← fields.optional "format" Node.text
      title := ← fields.optional "title" Node.text
      description := ← fields.optional "description" Node.text
      choices := ← fields.list "enum" Node.json
      required := ← fields.list "required" Node.text
      properties := ← fields.defaulted "properties" [] fun inner => inner.orderedOf (read fuel)
      items := ← fields.optional "items" (read fuel)
      additional := ← fields.optional "additionalProperties" additional
      anyOf := ← fields.list "anyOf" (read fuel)
      oneOf := ← fields.list "oneOf" (read fuel)
      allOf := ← fields.list "allOf" (read fuel)
      nullable := ← fields.optional "nullable" Node.flag
      vendorNullable := ← fields.optional "x-nullable" Node.flag
      pattern := ← fields.optional "pattern" Node.text
      maximum := ← fields.optional "maximum" Node.double
      minimum := ← fields.optional "minimum" Node.double
      maxLength := ← fields.optional "maxLength" Node.natural
      minLength := ← fields.optional "minLength" Node.natural
      fallback := ← fields.optional "default" Node.json }

def ofNode (node : Node) : Reading Schema := read node.height node

end Schema

/-! ## Parameters and responses -/

/-- A reference, and if there is none a value in its place. -/
def Linked.ofNode {α : Type} (reader : Node → Reading α) (node : Node) : Reading (Linked α) :=
  let link (held : Node) : Reading (Linked α) := do
    let fields ← held.fields ["$ref"]
    return .link (← fields.required "$ref" Node.text)
  node.firstOf [link, fun held => return .inline (← reader held)]

namespace ParameterItems

/-- The description of items, in which `fuel` more may be nested. -/
def read : Nat → Node → Reading ParameterItems
  | 0, _ => failure
  | fuel + 1, node => do
    let fields ← node.fields ["type", "format", "items", "enum", "collectionFormat"]
    return {
      type := ← fields.optional "type" Node.text
      format := ← fields.optional "format" Node.text
      items := ← fields.optional "items" (read fuel)
      choices := ← fields.list "enum" Node.json
      collectionFormat := ← fields.optional "collectionFormat" Node.text }

def ofNode (node : Node) : Reading ParameterItems := read node.height node

end ParameterItems

def Parameter.ofNode (node : Node) : Reading Parameter := do
  let fields ← node.fields
    ["name", "in", "description", "required", "schema", "type", "format", "items",
      "collectionFormat", "enum", "default", "pattern", "maximum", "minimum", "maxLength",
      "minLength"]
  return {
    name := ← fields.defaulted "name" "" Node.text
    location := ← fields.defaulted "in" "" Node.text
    description := ← fields.optional "description" Node.text
    required := ← fields.defaulted "required" false Node.flag
    schema := ← fields.optional "schema" Schema.ofNode
    type := ← fields.optional "type" Node.text
    format := ← fields.optional "format" Node.text
    items := ← fields.optional "items" ParameterItems.ofNode
    collectionFormat := ← fields.optional "collectionFormat" Node.text
    choices := ← fields.list "enum" Node.json
    fallback := ← fields.optional "default" Node.json
    pattern := ← fields.optional "pattern" Node.text
    maximum := ← fields.optional "maximum" Node.double
    minimum := ← fields.optional "minimum" Node.double
    maxLength := ← fields.optional "maxLength" Node.natural
    minLength := ← fields.optional "minLength" Node.natural }

def Response.ofNode (node : Node) : Reading Response := do
  let fields ← node.fields ["description", "schema"]
  return {
    description := ← fields.defaulted "description" "" Node.text
    schema := ← fields.optional "schema" Schema.ofNode }

/-- The key of a response: a text, or a number. -/
inductive StatusKey where
  | text (value : String)
  | code (value : Nat)
deriving Repr, DecidableEq

namespace StatusKey

def written : StatusKey → String
  | .text value => value
  | .code value => String.ofList (Decimal.digitsOf value)

def ofNode (node : Node) : Reading StatusKey :=
  node.firstOf [fun held => return .text (← held.text), fun held => return .code (← held.natural)]

end StatusKey

/-- Whether a member of an object is an extension of the specification. -/
def isExtension (name : String) : Bool := ['x', '-'].isPrefixOf name.toList

namespace Responses

/-- Add the response of a key. -/
def add (responses : Responses) (name : String) (value : Json) : Reading Responses :=
  if isExtension name then
    return { responses with extensions := Members.assign name value responses.extensions }
  else do
    let response ← ((Source.ofJson value).read (Linked.ofNode Response.ofNode) : Option _)
    if name = "default" then return { responses with fallback := some response }
    else return { responses with codes := Members.assign name response responses.codes }

/-- Responses by their keys.  A number and a text are different keys; the later one counts where
both are written alike. -/
def ofNode (node : Node) : Reading Responses := do
  let pairs ← (← node.members).mapM fun (key, value) => do
    return (← StatusKey.ofNode key, ← value.json)
  (Members.collapse pairs).foldlM (fun responses pair => add responses pair.1.written pair.2)
    ⟨none, [], []⟩

end Responses

/-! ## Operations and paths -/

def readNeed (node : Node) : Reading SecurityNeed :=
  node.orderedOf fun scopes => scopes.listOf Node.text

/-- The alternatives of security schemes. -/
def readNeeds (node : Node) : Reading (List SecurityNeed) := node.listOf readNeed

def readTexts (node : Node) : Reading (List String) := node.listOf Node.text

def Operation.ofNode (node : Node) : Reading Operation := do
  let fields ← node.fields
    ["operationId", "summary", "description", "tags", "consumes", "produces", "parameters",
      "responses", "security", "deprecated"]
  return {
    identifier := ← fields.optional "operationId" Node.text
    summary := ← fields.optional "summary" Node.text
    description := ← fields.optional "description" Node.text
    tags := ← fields.list "tags" Node.text
    consumes := ← fields.optional "consumes" readTexts
    produces := ← fields.optional "produces" readTexts
    parameters := ← fields.list "parameters" (Linked.ofNode Parameter.ofNode)
    responses := ← fields.optional "responses" Responses.ofNode
    security := ← fields.optional "security" readNeeds
    deprecated := ← fields.defaulted "deprecated" false Node.flag }

def PathItem.ofNode (node : Node) : Reading PathItem := do
  let fields ← node.fields
    ["get", "put", "post", "delete", "patch", "head", "options", "parameters"]
  return {
    get := ← fields.optional "get" Operation.ofNode
    put := ← fields.optional "put" Operation.ofNode
    post := ← fields.optional "post" Operation.ofNode
    delete := ← fields.optional "delete" Operation.ofNode
    patch := ← fields.optional "patch" Operation.ofNode
    head := ← fields.optional "head" Operation.ofNode
    options := ← fields.optional "options" Operation.ofNode
    parameters := ← fields.list "parameters" (Linked.ofNode Parameter.ofNode) }

namespace Paths

def ofNode (node : Node) : Reading Paths := do
  let pairs ← node.orderedOf Node.json
  let items ← (pairs.filter fun pair => !isExtension pair.1).mapM fun (template, value) => do
    let item ← ((Source.ofJson value).read PathItem.ofNode : Option _)
    return (template, item)
  return ⟨items, pairs.filter fun pair => isExtension pair.1⟩

end Paths

/-! ## Documents -/

/-- What a document says about its interface. -/
def Info.ofNode (node : Node) : Reading Info := do
  let fields ← node.fields ["title", "version", "description"]
  return {
    title := ← fields.defaulted "title" "" Node.text
    version := ← fields.optional "version" Node.text
    description := ← fields.optional "description" Node.text }

def SecurityDefinition.ofNode (node : Node) : Reading SecurityDefinition := do
  let fields ← node.fields
    ["type", "description", "name", "in", "flow", "authorizationUrl", "tokenUrl", "scopes"]
  return {
    type := ← fields.defaulted "type" "" Node.text
    description := ← fields.optional "description" Node.text
    name := ← fields.optional "name" Node.text
    location := ← fields.optional "in" Node.text
    flow := ← fields.optional "flow" Node.text
    authorizationUrl := ← fields.optional "authorizationUrl" Node.text
    tokenUrl := ← fields.optional "tokenUrl" Node.text
    scopes := ← fields.defaulted "scopes" [] fun inner => inner.orderedOf Node.text }

namespace Document

def ofNode (node : Node) : Reading Document := do
  let fields ← node.fields
    ["swagger", "info", "host", "basePath", "schemes", "consumes", "produces", "paths",
      "definitions", "parameters", "responses", "securityDefinitions", "security"]
  return {
    swagger := ← fields.optional "swagger" Node.text
    info := ← fields.optional "info" Info.ofNode
    host := ← fields.optional "host" Node.text
    basePath := ← fields.optional "basePath" Node.text
    schemes := ← fields.list "schemes" Node.text
    consumes := ← fields.list "consumes" Node.text
    produces := ← fields.list "produces" Node.text
    paths := ← fields.optional "paths" Paths.ofNode
    definitions := ← fields.defaulted "definitions" [] (·.orderedOf Schema.ofNode)
    parameters := ← fields.defaulted "parameters" [] (·.orderedOf Parameter.ofNode)
    responses := ← fields.defaulted "responses" [] (·.orderedOf Response.ofNode)
    securityDefinitions :=
      ← fields.defaulted "securityDefinitions" [] (·.orderedOf SecurityDefinition.ofNode)
    security := ← fields.optional "security" readNeeds }

/-- White space in front of a document. -/
def isLeadingSpace : Symbol → Bool
  | some c => c == ' ' || c == '\t' || c == '\n' || c == '\r' || c.toNat == 12
  | none => false

def ofJsonText? (input : List Symbol) : Option Document := do
  let datum ← Json.read input
  (Source.ofJsonDatum datum).read ofNode

def ofYamlText? (input : List Symbol) : Option Document := do
  let source ← Source.ofYaml? (← input.mapM id)
  source.read ofNode

/-- The document of a YAML text, or the format that is at fault if it is none. -/
def ofYamlTextOr (fault : TextFormat) (input : List Symbol) : Except TextFormat Document :=
  match ofYamlText? input with
  | some document => .ok document
  | none => .error fault

/-- Whether the first character of a text that is no white space is an opening brace. -/
def looksLikeJson (input : List Symbol) : Bool :=
  (input.dropWhile isLeadingSpace).head? == some (some '\x7b')

/-- The document of a text in either format, or the format that the text is at fault with. -/
def ofSymbols (input : List Symbol) : Except TextFormat Document :=
  if looksLikeJson input then
    match ofJsonText? input with
    | some document => .ok document
    | none => ofYamlTextOr .json input
  else ofYamlTextOr .yaml input

end Document

end RestConnector.Swagger
