import RestConnector.Connector.Types

/-!
Contract: the definitions that a conversion collects.

Owns:
- `Catalog`, object and scalar definitions by name;
- the three ways to write to it, of which each follows a rule of its own;
- `write`, a write together with what it replies.

Does not own: which names a schema gives rise to, see `RestConnector.Typing`.

The last object put under a name stays.  A scalar is offered, and taken only if its name has none,
or it is set, and then it replaces what was there.
-/

namespace RestConnector

structure Catalog where
  objects : NameMap ObjectDefinition
  scalars : NameMap ScalarDefinition
deriving Repr

namespace Catalog

def empty : Catalog := ⟨∅, ∅⟩

instance : EmptyCollection Catalog := ⟨empty⟩

def object? (catalog : Catalog) (name : String) : Option ObjectDefinition :=
  catalog.objects.find? name

def scalar? (catalog : Catalog) (name : String) : Option ScalarDefinition :=
  catalog.scalars.find? name

def putObject (catalog : Catalog) (name : String) (object : ObjectDefinition) : Catalog :=
  { catalog with objects := catalog.objects.insert name object }

def setScalar (catalog : Catalog) (name : String) (scalar : ScalarDefinition) : Catalog :=
  { catalog with scalars := catalog.scalars.insert name scalar }

/-- Offer a scalar for a name, which takes it if it has none. -/
def offerScalar (catalog : Catalog) (name : String) (scalar : ScalarDefinition) : Catalog :=
  if catalog.scalars.contains name then catalog else catalog.setScalar name scalar

/-! ## Writes and replies -/

inductive Write where
  | put (name : String) (object : ObjectDefinition)
  | offer (name : String) (scalar : ScalarDefinition)
  | set (name : String) (scalar : ScalarDefinition)
deriving Repr

/-- What a write tells of the catalog that it meets. -/
inductive Reply where
  /-- The object that is replaced. -/
  | previous (object : Option ObjectDefinition)
  /-- Whether an offer is taken. -/
  | taken (isNew : Bool)
  | nothing
deriving Repr

def write (catalog : Catalog) : Write → Reply × Catalog
  | .put name object => (.previous (catalog.object? name), catalog.putObject name object)
  | .offer name scalar => (.taken (!catalog.scalars.contains name), catalog.offerScalar name scalar)
  | .set name scalar => (.nothing, catalog.setScalar name scalar)

end Catalog

end RestConnector
