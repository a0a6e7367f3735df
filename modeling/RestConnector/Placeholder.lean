/-!
Contract: placeholders for values that the environment gives.

Owns:
- `Placeholder`, the name of a variable with the value it has when it is not set;
- `Placeholder.text`, its written form.

Does not own: which names variables have, see `RestConnector.Identifier`.
-/

namespace RestConnector

/-- A variable of the environment and the value that stands for it when it is not set. -/
structure Placeholder where
  name : String
  fallback : Option String
deriving Repr, DecidableEq

namespace Placeholder

/-- The name in double braces, followed by the fallback after `:-` if there is one. -/
def text (placeholder : Placeholder) : String :=
  match placeholder.fallback with
  | some fallback => "\x7b\x7b" ++ placeholder.name ++ ":-" ++ fallback ++ "\x7d\x7d"
  | none => "\x7b\x7b" ++ placeholder.name ++ "\x7d\x7d"

end Placeholder

end RestConnector
