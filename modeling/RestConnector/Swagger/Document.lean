import RestConnector.Members
import RestConnector.Swagger.Pointer
import RestConnector.Swagger.Schema

/-!
Contract: Swagger 2.0 documents.

Owns:
- `Document` and its parts, as far as the converter reads them;
- the look-up of definitions, and of parameters and responses that may stand as references.

Does not own: how a document is read from a text, see `RestConnector.Swagger.Reader`.

Maps of a document keep the order of its text.
-/

namespace RestConnector.Swagger

/-- A value in its place, or a reference to one. -/
inductive Linked (α : Type) where
  | link (reference : String)
  | inline (value : α)

/-- The names of security schemes with the scopes that each must grant. -/
abbrev SecurityNeed := List (String × List String)

structure ParameterItems where
  type : Option String
  format : Option String
  items : Option ParameterItems
  choices : List Json
  collectionFormat : Option String

structure Parameter where
  name : String
  location : String
  description : Option String
  required : Bool
  /-- The body's schema, for a parameter in the body. -/
  schema : Option Schema
  type : Option String
  format : Option String
  items : Option ParameterItems
  collectionFormat : Option String
  choices : List Json
  fallback : Option Json
  pattern : Option String
  maximum : Option Double
  minimum : Option Double
  maxLength : Option Nat
  minLength : Option Nat

structure Response where
  description : String
  schema : Option Schema

/-- The responses of an operation by status code, and the one for all other codes. -/
structure Responses where
  fallback : Option (Linked Response)
  codes : List (String × Linked Response)
  extensions : List (String × Json)

structure Operation where
  identifier : Option String
  summary : Option String
  description : Option String
  tags : List String
  consumes : Option (List String)
  produces : Option (List String)
  parameters : List (Linked Parameter)
  responses : Option Responses
  security : Option (List SecurityNeed)
  deprecated : Bool

/-- The operations on one path and the parameters that they share. -/
structure PathItem where
  get : Option Operation
  put : Option Operation
  post : Option Operation
  delete : Option Operation
  patch : Option Operation
  head : Option Operation
  options : Option Operation
  parameters : List (Linked Parameter)

/-- The paths of a document, apart from its extensions. -/
structure Paths where
  items : List (String × PathItem)
  extensions : List (String × Json)

/-- What a document says about its interface. -/
structure Info where
  title : String
  version : Option String
  description : Option String

structure SecurityDefinition where
  type : String
  description : Option String
  name : Option String
  location : Option String
  flow : Option String
  authorizationUrl : Option String
  tokenUrl : Option String
  scopes : List (String × String)

structure Document where
  swagger : Option String
  info : Option Info
  host : Option String
  basePath : Option String
  schemes : List String
  consumes : List String
  produces : List String
  paths : Option Paths
  definitions : List (String × Schema)
  parameters : List (String × Parameter)
  responses : List (String × Response)
  securityDefinitions : List (String × SecurityDefinition)
  security : Option (List SecurityNeed)

namespace Document

/-- The document that says nothing. -/
def empty : Document :=
  ⟨none, none, none, none, [], [], [], none, [], [], [], [], none⟩

def pathItems (document : Document) : List (String × PathItem) :=
  match document.paths with
  | some paths => paths.items
  | none => []

def hasPaths (document : Document) : Bool := !document.pathItems.isEmpty

def definition? (document : Document) (name : String) : Option Schema :=
  Members.find? name document.definitions

/-- The parameter that stands in a place, or to which a reference in it points. -/
def parameter? (document : Document) : Linked Parameter → Option Parameter
  | .inline parameter => some parameter
  | .link reference => do
    Members.find? (← Pointer.nameIn? "parameters" reference) document.parameters

/-- The response that stands in a place, or to which a reference in it points. -/
def response? (document : Document) : Linked Response → Option Response
  | .inline response => some response
  | .link reference => do
    Members.find? (← Pointer.nameIn? "responses" reference) document.responses

end Document

end RestConnector.Swagger
