import RestConnector.Connector.Types

/-!
Contract: connectors to REST interfaces.

Owns:
- `Callable`, an operation that can be called, with the request that it sends;
- `Settings`, the servers, the credentials and what they grant;
- `Connector`, all of these with the definitions of the types that they name.

Does not own: the JSON form, see `RestConnector.Connector.Encode` and
`RestConnector.Connector.Decode`.
-/

namespace RestConnector

/-! ## Requests -/

inductive Method where
  | get
  | post
  | put
  | patch
  | delete
deriving Repr, DecidableEq

namespace Method

def name : Method → String
  | .get => "get"
  | .post => "post"
  | .put => "put"
  | .patch => "patch"
  | .delete => "delete"

def choices : List (String × Method) :=
  [.get, .post, .put, .patch, .delete].map fun method => (method.name, method)

def ofName? (text : String) : Option Method := choices.lookup text

end Method

inductive ParameterPlace where
  | path
  | query
  | header
  | body
  | formData
deriving Repr, DecidableEq

namespace ParameterPlace

def name : ParameterPlace → String
  | .path => "path"
  | .query => "query"
  | .header => "header"
  | .body => "body"
  | .formData => "formData"

def choices : List (String × ParameterPlace) :=
  [.path, .query, .header, .body, .formData].map fun place => (place.name, place)

def ofName? (text : String) : Option ParameterPlace := choices.lookup text

end ParameterPlace

/-- A parameter that is sent outside the body. -/
structure RequestParameter where
  name : String
  place : ParameterPlace
  shape : ValueShape
deriving Repr

structure RequestBody where
  contentType : String
  shape : ValueShape
deriving Repr

def jsonType : String := "application/json"

def multipartType : String := "multipart/form-data"

def urlencodedType : String := "application/x-www-form-urlencoded"

/-- The names of credentials with the scopes that each must grant. -/
abbrev SecurityRule := NameMap (List String)

/-- The request that an operation sends. -/
structure Request where
  /-- The template of the path. -/
  url : String
  method : Method
  parameters : List RequestParameter
  body : Option RequestBody
  security : List SecurityRule
deriving Repr

structure Argument where
  description : Option String
  type : TypeTerm
deriving Repr, DecidableEq

structure Callable where
  name : String
  description : Option String
  arguments : NameMap Argument
  result : TypeTerm
  request : Request
deriving Repr

/-! ## Settings -/

inductive ApiKeyPlace where
  | header
  | query
  | cookie
deriving Repr, DecidableEq

namespace ApiKeyPlace

def name : ApiKeyPlace → String
  | .header => "header"
  | .query => "query"
  | .cookie => "cookie"

def choices : List (String × ApiKeyPlace) :=
  [.header, .query, .cookie].map fun place => (place.name, place)

def ofName? (text : String) : Option ApiKeyPlace := choices.lookup text

end ApiKeyPlace

structure OAuthFlow where
  authorizationUrl : Option String
  tokenUrl : Option String
  /-- The scopes with their descriptions. -/
  scopes : List (String × String)
deriving Repr, DecidableEq

structure OAuthFlows where
  authorizationCode : Option OAuthFlow
  implicit : Option OAuthFlow
  password : Option OAuthFlow
  clientCredentials : Option OAuthFlow
deriving Repr, DecidableEq

namespace OAuthFlows

def none : OAuthFlows := ⟨.none, .none, .none, .none⟩

end OAuthFlows

/-- How a caller proves who it is.  A value is the text of a placeholder, never a secret. -/
inductive Credential where
  | apiKey (place : ApiKeyPlace) (name value : String)
  | http (scheme header value : String)
  | oauth2 (flows : OAuthFlows)
deriving Repr, DecidableEq

structure Server where
  /-- The text of a placeholder for the base address. -/
  url : String
deriving Repr, DecidableEq

structure Settings where
  servers : List Server
  version : Option String
  credentials : NameMap Credential
  security : List SecurityRule
deriving Repr

/-! ## Connectors -/

/-- A connector: operations that only read are functions, all others are procedures. -/
structure Connector where
  settings : Settings
  functions : List Callable
  procedures : List Callable
  objects : NameMap ObjectDefinition
  scalars : NameMap ScalarDefinition
deriving Repr

namespace Connector

/-- The first function with a name. -/
def function? (connector : Connector) (name : String) : Option Callable :=
  connector.functions.find? fun callable => callable.name == name

/-- The first procedure with a name. -/
def procedure? (connector : Connector) (name : String) : Option Callable :=
  connector.procedures.find? fun callable => callable.name == name

end Connector

end RestConnector
