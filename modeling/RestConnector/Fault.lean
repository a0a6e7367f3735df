/-!
Contract: what can go wrong in a conversion, and where.

Owns:
- `Cause`, the reasons, and `Fault`, a reason with the places it is reported for;
- the texts of both.

Does not own: which input gives rise to which cause.

The first field path that is given to a fault stays, and so does the first API path.  A fault with
an API path takes no field path any more.
-/

namespace RestConnector

inductive TextFormat where
  | json
  | yaml
deriving Repr, DecidableEq

namespace TextFormat

/-- The name of a format in capitals. -/
def title : TextFormat → String
  | .json => "JSON"
  | .yaml => "YAML"

end TextFormat

/-- Why a conversion fails. -/
inductive Cause where
  /-- A schema says nothing about its type. -/
  | emptySchema
  /-- An array does not say what its items are. -/
  | missingItems
  | unsupportedType (name : String)
  | unknownParameterPlace (name : String)
  | unsupportedCredential (name : String)
  | unknownKeyPlace (name : String)
  | missingKeyName
  | unsupportedFlow (name : String)
  | missingParameterName
  | danglingReference (reference : String)
  /-- The document has no path item. -/
  | nothingToConvert
  /-- The parser of a format refuses a text, and says why. -/
  | unreadable (format : TextFormat) (complaint : String)
deriving Repr, DecidableEq

namespace Cause

def message : Cause → String
  | .emptySchema => "schema is empty"
  | .missingItems => "array item is empty"
  | .unsupportedType name => "unsupported schema type " ++ name
  | .unknownParameterPlace name => "invalid parameter location " ++ name
  | .unsupportedCredential name => "invalid security scheme: " ++ name
  | .unknownKeyPlace name => "invalid api key location " ++ name
  | .missingKeyName => "api key name is empty"
  | .unsupportedFlow name => "unsupported oauth2 flow " ++ name
  | .missingParameterName => "parameter name is empty"
  | .danglingReference reference => "cannot resolve reference " ++ reference
  | .nothingToConvert => "there is no API to be converted"
  | .unreadable format complaint =>
    "failed to parse " ++ format.title ++ " document: " ++ complaint

end Cause

/-- A cause with the places that it is reported for. -/
inductive Fault where
  | bare (cause : Cause)
  | inField (fieldPath : String) (source : Fault)
  | inApi (apiPath : String) (source : Fault)
deriving Repr, DecidableEq

namespace Fault

/-- The segments of a field path in one text. -/
def dotted (segments : List String) : String := ".".intercalate segments

/-- Report a fault for a field, unless it is reported for a place already. -/
def atField (fault : Fault) (segments : List String) : Fault :=
  match fault with
  | .bare cause => if segments.isEmpty then .bare cause else .inField (dotted segments) (.bare cause)
  | placed => placed

/-- Report a fault for an API path, unless it is reported for one already. -/
def atApi (fault : Fault) (apiPath : String) : Fault :=
  match fault with
  | .inApi known source => .inApi known source
  | other => .inApi apiPath other

def root : Fault → Cause
  | .bare cause => cause
  | .inField _ source => source.root
  | .inApi _ source => source.root

def apiPath? : Fault → Option String
  | .inApi apiPath _ => some apiPath
  | _ => none

def fieldPath? : Fault → Option String
  | .bare _ => none
  | .inField fieldPath _ => some fieldPath
  | .inApi _ source => source.fieldPath?

/-- The text of a fault: the places from the outside, then the cause. -/
def message : Fault → String
  | .bare cause => cause.message
  | .inField fieldPath source => fieldPath ++ ": " ++ source.message
  | .inApi apiPath source => apiPath ++ ": " ++ source.message

/-- The text of what is behind a fault: of the fault that is reported for a place, or of a parser. -/
def sourceText? : Fault → Option String
  | .bare (.unreadable _ complaint) => some complaint
  | .bare _ => none
  | .inField _ source => some source.message
  | .inApi _ source => some source.message

end Fault

end RestConnector
