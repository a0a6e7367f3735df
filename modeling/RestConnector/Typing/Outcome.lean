import RestConnector.Catalog
import RestConnector.Fault
import RestConnector.Swagger.Document
import RestConnector.Preferences

/-!
Contract: what the typing of a schema comes to.

Owns:
- `Scope`, what a typing can see;
- `Event`, a write to the catalog, or the opening or closing of a definition;
- `Outcome`, a result or a fault together with all that happened before it;
- `State`, the catalog and the definitions in progress, and its change by events.

Does not own: any rule of typing.

A typing lists its writes instead of performing them.  What was written before a fault stays
written.  Typings that are handed a catalog and perform their writes on it are in
`RestConnector.Threaded`; that they come to the same is `RestConnector.Proofs.Threading`.
-/

namespace RestConnector.Typing

/-- What a typing can see: the document, the caller's choices about names, and the definitions
whose expansion it is part of, innermost first. -/
structure Scope where
  document : Swagger.Document
  preferences : Preferences
  expanding : List String

namespace Scope

/-- The scope in which no definition is being expanded. -/
def top (document : Swagger.Document) (preferences : Preferences) : Scope :=
  ⟨document, preferences, []⟩

/-- The scope of the expansion of a definition. -/
def entering (scope : Scope) (name : String) : Scope :=
  { scope with expanding := name :: scope.expanding }

end Scope

/-- A step of a typing that others can see. -/
inductive Event where
  | put (name : String) (object : ObjectDefinition)
  | offer (name : String) (scalar : ScalarDefinition)
  | set (name : String) (scalar : ScalarDefinition)
  /-- The expansion of a definition begins. -/
  | opened (name : String)
  /-- The expansion of a definition ends. -/
  | closed (name : String)
deriving Repr

/-- The result of a typing and its events in order. -/
structure Outcome (α : Type) where
  value : Except Fault α
  log : List Event

namespace Outcome

def ok {α : Type} (value : α) : Outcome α := ⟨.ok value, []⟩

def fail {α : Type} (fault : Fault) : Outcome α := ⟨.error fault, []⟩

def ofExcept {α : Type} (value : Except Fault α) : Outcome α := ⟨value, []⟩

def emit (event : Event) : Outcome Unit := ⟨.ok (), [event]⟩

/-- Go on with a result; after a fault nothing more happens. -/
def andThen {α β : Type} (first : Outcome α) (next : α → Outcome β) : Outcome β :=
  match first.value with
  | .ok value => ⟨(next value).value, first.log ++ (next value).log⟩
  | .error fault => ⟨.error fault, first.log⟩

/-- Report a fault in another way. -/
def mapFault {α : Type} (change : Fault → Fault) (outcome : Outcome α) : Outcome α :=
  match outcome.value with
  | .ok value => ⟨.ok value, outcome.log⟩
  | .error fault => ⟨.error (change fault), outcome.log⟩

/-- What happens while a definition is open. -/
def within {α : Type} (name : String) (outcome : Outcome α) : Outcome α :=
  ⟨outcome.value, .opened name :: outcome.log ++ [.closed name]⟩

/-- The outcomes of a function on the members of a list, up to the first fault. -/
def forEach {α β : Type} (step : α → Outcome β) : List α → Outcome (List β)
  | [] => ok []
  | member :: rest =>
    (step member).andThen fun value => (forEach step rest).andThen fun values =>
      ok (value :: values)

end Outcome

/-- The definitions collected so far and the names of those being expanded, innermost first. -/
structure State where
  catalog : Catalog
  expanding : List String

namespace State

/-- Nothing is collected and nothing is in progress. -/
def empty : State := ⟨∅, []⟩

def apply (state : State) : Event → State
  | .put name object => { state with catalog := state.catalog.putObject name object }
  | .offer name scalar => { state with catalog := state.catalog.offerScalar name scalar }
  | .set name scalar => { state with catalog := state.catalog.setScalar name scalar }
  | .opened name => { state with expanding := name :: state.expanding }
  | .closed name => { state with expanding := state.expanding.erase name }

def replay (state : State) (log : List Event) : State :=
  log.foldl apply state

@[simp]
theorem replay_nil (state : State) : state.replay [] = state := rfl

@[simp]
theorem replay_cons (state : State) (event : Event) (log : List Event) :
    state.replay (event :: log) = (state.apply event).replay log := rfl

@[simp]
theorem replay_append (state : State) (first second : List Event) :
    state.replay (first ++ second) = (state.replay first).replay second :=
  List.foldl_append

end State

structure Typed where
  term : TypeTerm
  shape : ValueShape

namespace Typed

/-- A type by its name, with a shape. -/
def named (name : String) (shape : ValueShape) : Typed := ⟨.named name, shape⟩

def asNullable (typed : Typed) : Typed :=
  ⟨typed.term.asNullable, { typed.shape with nullable := true }⟩

/-- The type made nullable if a condition holds. -/
def nullableIf (condition : Bool) (typed : Typed) : Typed :=
  if condition then typed.asNullable else typed

/-- The type of lists, with a shape for the list. -/
def listOf (item : Typed) (shape : ValueShape) : Typed :=
  ⟨.array item.term, { shape with items := some item.shape }⟩

end Typed

end RestConnector.Typing
