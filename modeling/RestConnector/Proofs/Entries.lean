import RestConnector.Proofs.Building
import RestConnector.Proofs.Registries

/-!
Contract: a conversion is made of the conversions of single entries.

Owns:
- `Conversion.Entry`, an operation, a definition or a security definition, and `entries`, those of a
  document in order;
- `Entry.convert`, the conversion of an entry in a state that others have used before;
- `Connector.converts_by_entries`: what a conversion comes to, read off its entries alone.

Does not own: documents whose entries come in another order, see `RestConnector.Proofs.Reordering`.

The entries share one state, in which each of them leaves its types.  None of them can tell: what an
entry comes to depends on the definitions in progress, and between two entries there are none.
-/

namespace RestConnector.Conversion

open Swagger (Document Linked Operation Parameter PathItem Schema SecurityDefinition)
open Typing (Callables Event Outcome Scope State)

/-! ## Entries -/

/-- A part of a document that is converted for itself. -/
inductive Entry where
  | operation (apiPath : String) (shared : List (Linked Parameter)) (method : Method)
      (operation : Operation)
  | definition (name : String) (schema : Schema)
  | credential (key : String) (definition : SecurityDefinition)

/-- The callable of an operation, among those of its kind. -/
def callablesOf (method : Method) (callable : Option Callable) : Callables :=
  if method = .get then ⟨callable.toList, []⟩ else ⟨[], callable.toList⟩

def noCallables : Callables := ⟨[], []⟩

namespace Entry

/-- Where the faults of an entry are reported. -/
def location : Entry → String
  | .operation apiPath _ _ _ => apiPath
  | .definition name _ => "definitions/" ++ name
  | .credential key _ => "securityDefinitions/" ++ key

def outcome (scope : Scope) : Entry → Outcome Callables
  | .operation apiPath shared method content =>
    (Typing.ofOperation scope apiPath method content shared).andThen fun callable =>
      .ok (callablesOf method callable)
  | .definition name schema =>
    (Typing.ofDefinition scope name schema).andThen fun _ => .ok noCallables
  | .credential key scheme =>
    (Outcome.ofExcept (Credential.ofDefinition key scheme scope.preferences)).andThen
      fun _ => .ok noCallables

/-- The conversion of an entry in a state that others may have used before. -/
def convert (document : Document) (preferences : Preferences) (state : State) (entry : Entry) :
    Except Fault Callables × State :=
  let outcome := entry.outcome ⟨document, preferences, state.expanding⟩
  (outcome.value, state.replay outcome.log)

/-- The conversion of an entry in a state of its own. -/
def alone (document : Document) (preferences : Preferences) (entry : Entry) :
    Except Fault Callables :=
  (entry.convert document preferences .empty).1

end Entry

/-- The state that entries leave, one after the other. -/
def stateAfter (document : Document) (preferences : Preferences) (earlier : List Entry) : State :=
  earlier.foldl (fun state entry => (entry.convert document preferences state).2) .empty

/-- The operations of a path in the order of their methods. -/
def operations (item : String × PathItem) : List Entry :=
  let entry (slot : Method × Option Operation) : Option Entry :=
    slot.2.map (.operation item.1 item.2.parameters slot.1)
  [(.get, item.2.get), (.post, item.2.post), (.put, item.2.put), (.patch, item.2.patch),
    (.delete, item.2.delete)].filterMap entry

/-- The entries of a document: operations path by path, definitions, security definitions. -/
def entries (document : Document) : List Entry :=
  document.pathItems.flatMap operations ++
    document.definitions.map (fun entry => .definition entry.1 entry.2) ++
    document.securityDefinitions.map fun entry => .credential entry.1 entry.2

/-! ## No entry sees those before it -/

theorem bare_of_credential {key : String} {scheme : SecurityDefinition} {preferences : Preferences}
    {fault : Fault} (failed : Credential.ofDefinition key scheme preferences = .error fault) :
    ∃ cause, fault = .bare cause := by
  unfold Credential.ofDefinition at failed
  split at failed
  · unfold Credential.ofApiKey at failed
    simp only at failed
    split at failed
    · exact ⟨_, (Except.error.inj failed).symm⟩
    · split at failed
      · exact ⟨_, (Except.error.inj failed).symm⟩
      · cases failed
  · split at failed
    · cases failed
    · split at failed
      · cases flow : Credential.flows scheme with
        | ok flows =>
          rw [flow] at failed
          cases failed
        | error other =>
          rw [flow] at failed
          cases failed
          unfold Credential.flows at flow
          grind
      · exact ⟨_, (Except.error.inj failed).symm⟩

theorem Entry.built (scope : Scope) (entry : Entry) :
    Outcome.Built scope.document scope.expanding (entry.outcome scope) := by
  cases entry with
  | operation apiPath shared method content =>
    unfold outcome
    exact (Typing.ofOperation_built method content shared).map
  | definition name schema =>
    unfold outcome
    exact (Typing.ofDefinition_built name schema).map
  | credential key scheme =>
    unfold outcome
    exact (Outcome.Built.ofExcept fun fault failed => bare_of_credential failed).map

/-- An entry leaves no definition in progress. -/
theorem expanding_stateAfter (document : Document) (preferences : Preferences)
    (earlier : List Entry) : (stateAfter document preferences earlier).expanding = [] := by
  have onward : ∀ state : State, state.expanding = [] →
      (earlier.foldl (fun state entry => (entry.convert document preferences state).2)
        state).expanding = [] := by
    induction earlier with
    | nil => exact fun state idle => idle
    | cons entry rest inductionHypothesis =>
      intro state idle
      refine inductionHypothesis _ ?_
      have built := entry.built ⟨document, preferences, state.expanding⟩
      exact (built.expanding_replay state).trans idle
  exact onward .empty rfl

/-! ## Walks that gather callables -/

def joined (first others : Callables) : Callables :=
  ⟨first.functions ++ others.functions, first.procedures ++ others.procedures⟩

def gathered (parts : List Callables) : Callables :=
  ⟨parts.flatMap (·.functions), parts.flatMap (·.procedures)⟩

/-- The callables of all members of a list, up to the first fault. -/
def gather {α : Type} (step : α → Outcome Callables) (members : List α) : Outcome Callables :=
  (Outcome.forEach step members).andThen fun parts => .ok (gathered parts)

section Gather

variable {α β : Type} {step : α → Outcome Callables}

theorem gather_cons (member : α) (rest : List α) :
    gather step (member :: rest) =
      (step member).andThen fun first =>
        (gather step rest).andThen fun others => .ok (joined first others) := by
  simp only [gather, Outcome.forEach, Outcome.andThen_assoc, Outcome.ok_andThen]
  rfl

theorem gather_append (front back : List α) :
    gather step (front ++ back) =
      (gather step front).andThen fun first =>
        (gather step back).andThen fun others => .ok (joined first others) := by
  simp only [gather, Outcome.forEach_append, Outcome.andThen_assoc, Outcome.ok_andThen, gathered,
    joined, List.flatMap_append]

theorem gather_flatMap (children : β → List α) (members : List β) :
    gather step (members.flatMap children) =
      gather (fun member => gather step (children member)) members := by
  induction members with
  | nil => rfl
  | cons member rest inductionHypothesis =>
    rw [List.flatMap_cons, gather_append, gather_cons, inductionHypothesis]

theorem gather_map (change : β → α) (members : List β) :
    gather step (members.map change) = gather (fun member => step (change member)) members := by
  unfold gather
  rw [Outcome.forEach_map]

/-- Members that are left out add nothing. -/
theorem gather_filterMap (choose : β → Option α) (members : List β) :
    gather step (members.filterMap choose) =
      gather (fun member => ((choose member).map step).getD (.ok noCallables)) members := by
  induction members with
  | nil => rfl
  | cons member rest inductionHypothesis =>
    rw [gather_cons, ← inductionHypothesis]
    cases chosen : choose member with
    | none =>
      rw [List.filterMap_cons_none chosen]
      exact (Outcome.andThen_pure _).symm
    | some other =>
      rw [List.filterMap_cons_some chosen, gather_cons]
      rfl

theorem gather_nothing (step : α → Outcome β) (members : List α) :
    gather (fun member => (step member).andThen fun _ => .ok noCallables) members =
      (Outcome.forEach step members).andThen fun _ => .ok noCallables := by
  induction members with
  | nil => rfl
  | cons member rest inductionHypothesis =>
    rw [gather_cons, inductionHypothesis]
    simp only [Outcome.forEach, Outcome.andThen_assoc, Outcome.ok_andThen]
    rfl

end Gather

/-! ## A walk goes through the entries -/

/-- An entry whose faults are reported for its place. -/
def Entry.located (scope : Scope) (entry : Entry) : Outcome Callables :=
  (entry.outcome scope).mapFault fun fault => fault.atApi entry.location

variable {scope : Scope}

/-- The operation of a method, if there is one, among the callables of its kind. -/
theorem gather_slots (apiPath : String) (shared : List (Linked Parameter))
    (slots : List (Method × Option Operation)) :
    gather (Entry.located scope)
        (slots.filterMap fun slot => slot.2.map (.operation apiPath shared slot.1)) =
      gather (fun slot => (Typing.ofSlot scope apiPath shared slot).andThen fun callable =>
        .ok (callablesOf slot.1 callable)) slots := by
  rw [gather_filterMap]
  congr 1
  funext slot
  obtain ⟨method, operation⟩ := slot
  cases operation with
  | none =>
    show Outcome.ok noCallables = .ok (callablesOf method none)
    cases method <;> rfl
  | some operation => exact Outcome.mapFault_map _ _ _

theorem gather_writing {step : Method × Option Operation → Outcome (Option Callable)}
    {slots : List (Method × Option Operation)} (writing : ∀ slot ∈ slots, slot.1 ≠ .get) :
    gather (fun slot => (step slot).andThen fun callable => .ok (callablesOf slot.1 callable))
        slots =
      (Outcome.forEach step slots).andThen fun others => .ok ⟨[], others.filterMap id⟩ := by
  induction slots with
  | nil => rfl
  | cons slot rest inductionHypothesis =>
    have notGet : slot.1 ≠ .get := writing slot List.mem_cons_self
    rw [gather_cons, inductionHypothesis fun other later =>
      writing other (List.mem_cons_of_mem slot later)]
    simp only [Outcome.forEach, Outcome.andThen_assoc, Outcome.ok_andThen, callablesOf, notGet,
      if_false]
    congr 1
    funext callable
    cases callable <;> rfl

theorem gather_operations (item : String × PathItem) :
    gather (Entry.located scope) (operations item) = Typing.ofPathItem scope item.1 item.2 := by
  unfold operations Typing.ofPathItem
  rw [gather_slots, gather_cons, gather_writing (by simp)]
  simp only [Outcome.andThen_assoc, Outcome.ok_andThen, callablesOf, if_true, joined,
    List.append_nil, List.nil_append]

theorem gather_entries (document : Document) (preferences : Preferences) :
    gather (Entry.located (.top document preferences)) (entries document) =
      (walk (.top document preferences)).andThen fun found =>
        (Outcome.forEach (fun entry => .ofExcept (credential preferences entry))
          document.securityDefinitions).andThen fun _ => .ok found := by
  let scope := Scope.top document preferences
  have paths : gather (Entry.located scope) (document.pathItems.flatMap operations) =
      callables scope document.pathItems := by
    rw [gather_flatMap]
    simp only [gather_operations]
    rfl
  have definitions : gather (Entry.located scope)
      (document.definitions.map fun entry => .definition entry.1 entry.2) =
        (Outcome.forEach (definition scope) document.definitions).andThen
          fun _ => .ok noCallables := by
    rw [gather_map, ← gather_nothing]
    congr 1
    funext entry
    exact Outcome.mapFault_map _ _ _
  have credentials : gather (Entry.located scope)
      (document.securityDefinitions.map fun entry => .credential entry.1 entry.2) =
        (Outcome.forEach (fun entry => .ofExcept (credential preferences entry))
          document.securityDefinitions).andThen fun _ => .ok noCallables := by
    rw [gather_map, ← gather_nothing]
    congr 1
    funext entry
    unfold Entry.located Entry.outcome credential
    rw [Outcome.mapFault_map]
    have same : scope.preferences = preferences := rfl
    rw [same]
    cases Credential.ofDefinition entry.1 entry.2 preferences <;> rfl
  have walked : walk scope = (callables scope document.pathItems).andThen fun found =>
      (Outcome.forEach (definition scope) document.definitions).andThen fun _ => .ok found := rfl
  unfold entries
  rw [gather_append, gather_append, paths, definitions, credentials, walked]
  simp only [Outcome.andThen_assoc, Outcome.ok_andThen, joined, noCallables, List.append_nil]

/-! ## Entries on their own -/

section Alone

variable {document : Document} {preferences : Preferences}

theorem Entry.convert_stateAfter (earlier : List Entry) (entry : Entry) :
    (entry.convert document preferences (stateAfter document preferences earlier)).1 =
      entry.alone document preferences := by
  unfold convert
  rw [expanding_stateAfter]
  rfl

theorem Entry.located_ok {entry : Entry} {found : Callables} :
    (entry.located (.top document preferences)).value = .ok found ↔
      entry.alone document preferences = .ok found := by
  have own : entry.alone document preferences = (entry.outcome (.top document preferences)).value :=
    rfl
  unfold located Outcome.mapFault
  rw [own]
  cases (entry.outcome (.top document preferences)).value <;> simp

/-- A fault gets the place of its entry, which is the only one of its kind. -/
theorem Entry.located_error {entry : Entry} {fault : Fault} :
    (entry.located (.top document preferences)).value = .error fault ↔
      ∃ own, entry.alone document preferences = .error own ∧ fault = .inApi entry.location own := by
  have own : entry.alone document preferences = (entry.outcome (.top document preferences)).value :=
    rfl
  unfold located Outcome.mapFault
  rw [own]
  cases result : (entry.outcome (.top document preferences)).value with
  | ok found => simp
  | error other =>
    have placed : other.atApi entry.location = .inApi entry.location other := by
      have free := (entry.built (.top document preferences)).apiPath?_of_error result
      cases other with
      | inApi apiPath source => cases free
      | bare cause => rfl
      | inField fieldPath source => rfl
    simp [placed, eq_comm]

theorem stateAfter_eq_replay (earlier : List Entry) :
    stateAfter document preferences earlier =
      State.empty.replay
        (earlier.flatMap fun entry => (entry.outcome (.top document preferences)).log) := by
  have onward : ∀ state : State, state.expanding = [] →
      earlier.foldl (fun state entry => (entry.convert document preferences state).2) state =
        state.replay
          (earlier.flatMap fun entry => (entry.outcome (.top document preferences)).log) := by
    induction earlier with
    | nil => exact fun state _ => rfl
    | cons entry rest inductionHypothesis =>
      intro state idle
      have next : (entry.convert document preferences state).2 =
          state.replay (entry.outcome (.top document preferences)).log := by
        unfold Entry.convert
        rw [idle]
        rfl
      have stillIdle : (state.replay (entry.outcome (.top document preferences)).log).expanding =
          [] := ((entry.built (.top document preferences)).expanding_replay state).trans idle
      rw [List.foldl_cons, next, inductionHypothesis _ stillIdle, List.flatMap_cons,
        State.replay_append]
  exact onward .empty rfl

end Alone

end RestConnector.Conversion

namespace RestConnector.Connector

open Conversion (Entry entries gather gathered stateAfter)
open Typing (Callables Outcome Scope State)

variable {document : Swagger.Document} {preferences : Preferences}

def callables (connector : Connector) : Callables :=
  ⟨connector.functions, connector.procedures⟩

/-- A conversion comes to the callables of its entries, or to the first fault among them. -/
theorem callables_ofDocument (hasItems : document.pathItems ≠ []) :
    (ofDocument document preferences).map callables =
      (gather (Entry.located (.top document preferences)) (entries document)).value := by
  have hasPaths : document.hasPaths = true := by
    simp [Swagger.Document.hasPaths, hasItems]
  have granted := Outcome.value_forEach
    (fun entry => .ofExcept (Conversion.credential preferences entry))
    document.securityDefinitions
  change _ = document.securityDefinitions.mapM (Conversion.credential preferences) at granted
  unfold ofDocument
  rw [if_pos hasPaths, Conversion.gather_entries]
  cases walked : (Conversion.walk (Scope.top document preferences)).value with
  | error fault =>
    rw [Outcome.andThen_of_error walked]
    simp only [walked]
    rfl
  | ok found =>
    rw [Outcome.andThen_of_ok walked]
    simp only [walked]
    cases credentials : document.securityDefinitions.mapM (Conversion.credential preferences) with
    | error fault =>
      rw [credentials] at granted
      rw [Outcome.andThen_of_error granted]
      rfl
    | ok given =>
      rw [credentials] at granted
      rw [Outcome.andThen_of_ok granted]
      rfl

theorem forEach_entries_error (hasItems : document.pathItems ≠ []) {fault : Fault} :
    ofDocument document preferences = .error fault ↔
      (Outcome.forEach (Entry.located (.top document preferences))
        (entries document)).value = .error fault := by
  have value : (ofDocument document preferences).map callables = _ := callables_ofDocument hasItems
  constructor
  · intro failed
    rw [failed] at value
    rcases Outcome.andThen_error value.symm with first | ⟨parts, -, impossible⟩
    · exact first
    · cases impossible
  · intro failed
    unfold gather at value
    rw [Outcome.andThen_of_error failed] at value
    cases converted : ofDocument document preferences with
    | error other =>
      rw [converted] at value
      cases value
      rfl
    | ok connector =>
      rw [converted] at value
      cases value

theorem nothingToConvert_iff :
    ofDocument document preferences = .error (.bare .nothingToConvert) ↔
      document.pathItems = [] := by
  constructor
  · intro failed
    refine Classical.byContradiction fun hasItems => ?_
    have walked := (forEach_entries_error hasItems).1 failed
    obtain ⟨before, entry, after, -, -, located⟩ := Outcome.forEach_error_iff.1 walked
    -- the fault of an entry has a place
    obtain ⟨own, -, placed⟩ := Entry.located_error.1 located
    cases placed
  · intro nothing
    have noPaths : document.hasPaths = false := by simp [Swagger.Document.hasPaths, nothing]
    unfold ofDocument
    rw [noPaths]
    rfl

theorem pathItems_ne_nil {connector : Connector}
    (converted : ofDocument document preferences = .ok connector) : document.pathItems ≠ [] := by
  intro nothing
  cases converted.symm.trans (nothingToConvert_iff.2 nothing)

/-- A success is one of the walk through the entries. -/
theorem forEach_entries_ok {connector : Connector}
    (converted : ofDocument document preferences = .ok connector) :
    ∃ found, (Outcome.forEach (Entry.located (.top document preferences))
        (entries document)).value = .ok found ∧ gathered found = connector.callables := by
  have value : (ofDocument document preferences).map callables = _ :=
    callables_ofDocument (pathItems_ne_nil converted)
  rw [converted] at value
  obtain ⟨found, walked, same, -⟩ := Outcome.andThen_ok value.symm
  exact ⟨found, walked, Except.ok.inj same⟩

/-- A conversion succeeds if all entries do so on their own. -/
theorem converts_iff :
    (∃ connector, ofDocument document preferences = .ok connector) ↔
      document.pathItems ≠ [] ∧
        ∀ entry ∈ entries document, ∃ found, entry.alone document preferences = .ok found := by
  constructor
  · rintro ⟨connector, converted⟩
    refine ⟨pathItems_ne_nil converted, ?_⟩
    intro entry inside
    obtain ⟨founds, walked, -⟩ := forEach_entries_ok converted
    obtain ⟨found, -, located⟩ := (Outcome.forEach_ok walked).1 entry inside
    exact ⟨found, Entry.located_ok.1 located⟩
  · rintro ⟨hasItems, succeed⟩
    have steps : ∀ entry ∈ entries document,
        ∃ found, (entry.located (.top document preferences)).value = .ok found := by
      intro entry inside
      obtain ⟨found, alone⟩ := succeed entry inside
      exact ⟨found, Entry.located_ok.2 alone⟩
    obtain ⟨founds, walked⟩ := Outcome.forEach_succeeds steps
    cases converted : ofDocument document preferences with
    | ok connector => exact ⟨connector, rfl⟩
    | error fault => cases walked.symm.trans ((forEach_entries_error hasItems).1 converted)

/-- After a success the events are those of the entries on their own. -/
theorem log_walk {connector : Connector}
    (converted : ofDocument document preferences = .ok connector) :
    (Conversion.walk (.top document preferences)).log =
      (entries document).flatMap fun entry => (entry.outcome (.top document preferences)).log := by
  obtain ⟨found, walked, -⟩ := ofDocument_ok converted
  obtain ⟨parts, steps, -⟩ := forEach_entries_ok converted
  have walkLog : (gather (Entry.located (.top document preferences)) (entries document)).log =
      (Conversion.walk (.top document preferences)).log := by
    rw [Conversion.gather_entries, Outcome.andThen_of_ok walked]
    simp [Outcome.log_andThen_ok, Outcome.log_forEach_ofExcept]
  rw [← walkLog]
  unfold gather
  rw [Outcome.log_andThen_ok, (Outcome.forEach_ok steps).2]
  simp only [Entry.located, Outcome.log_mapFault]

/-- The registries are those of the state that all entries leave. -/
theorem catalog_ofDocument {connector : Connector}
    (converted : ofDocument document preferences = .ok connector) :
    connector.catalog = (stateAfter document preferences (entries document)).catalog := by
  obtain ⟨found, walked, -, -, catalog⟩ := ofDocument_ok converted
  rw [catalog, Conversion.stateAfter_eq_replay, log_walk converted]

/-- The entries of a document decide what its conversion comes to, each of them for itself. -/
theorem converts_by_entries (document : Swagger.Document) (preferences : Preferences) :
    (ofDocument document preferences = .error (.bare .nothingToConvert) ↔
      document.pathItems = []) ∧
    (document.pathItems ≠ [] →
      ((∃ connector, ofDocument document preferences = .ok connector) ↔
        ∀ entry ∈ entries document, ∃ found, entry.alone document preferences = .ok found) ∧
      (∀ connector, ofDocument document preferences = .ok connector →
        ∃ found, (entries document).mapM (Entry.alone document preferences) = .ok found ∧
          connector.functions = found.flatMap (·.functions) ∧
          connector.procedures = found.flatMap (·.procedures) ∧
          connector.catalog = (stateAfter document preferences (entries document)).catalog) ∧
      ∀ fault, ofDocument document preferences = .error fault ↔
        ∃ before entry after own, entries document = before ++ entry :: after ∧
          (∀ earlier ∈ before, ∃ found, earlier.alone document preferences = .ok found) ∧
          entry.alone document preferences = .error own ∧ fault = .inApi entry.location own) ∧
    ∀ (earlier : List Entry) (entry : Entry), (entry.convert document preferences
        (stateAfter document preferences earlier)).1 = entry.alone document preferences := by
  refine ⟨nothingToConvert_iff, ?_, Entry.convert_stateAfter⟩
  intro hasItems
  refine ⟨?_, ?_, ?_⟩
  · rw [converts_iff]
    exact and_iff_right hasItems
  · intro connector converted
    obtain ⟨found, walked, same⟩ := forEach_entries_ok converted
    have alone : (Outcome.forEach (Entry.outcome (.top document preferences))
        (entries document)).value = .ok found :=
      Outcome.forEach_ok_of_steps (fun entry _ value => Entry.located_ok.1) walked
    rw [Outcome.value_forEach] at alone
    refine ⟨found, alone, ?_, ?_, catalog_ofDocument converted⟩
    · exact (congrArg Callables.functions same).symm
    · exact (congrArg Callables.procedures same).symm
  · intro fault
    rw [forEach_entries_error hasItems, Outcome.forEach_error_iff]
    simp only [Entry.located_ok, Entry.located_error]
    constructor
    · rintro ⟨before, entry, after, split, succeed, own, failed, placed⟩
      exact ⟨before, entry, after, own, split, succeed, failed, placed⟩
    · rintro ⟨before, entry, after, own, split, succeed, failed, placed⟩
      exact ⟨before, entry, after, split, succeed, own, failed, placed⟩

/-- A document of two paths, of which the second one answers with a schema that says nothing. -/
def mutePathDocument : Swagger.Document :=
  { Swagger.Document.empty with
    paths := some ⟨[("/pets", .answering (.ofType "string")), ("/owners", .answering .empty)], []⟩ }

private theorem ofDocument_mutePath :
    ofDocument mutePathDocument .empty =
      .error (.inApi "/owners" (.inField "listPets.Result" (.bare .emptySchema))) := by
  cbv

/-- The fault is that of the second path, after a success of the first. -/
theorem converts_by_entries_mute :
    mutePathDocument.pathItems ≠ [] ∧
      ∃ before entry after own, entries mutePathDocument = before ++ entry :: after ∧
        (∀ earlier ∈ before, ∃ found, earlier.alone mutePathDocument .empty = .ok found) ∧
        entry.alone mutePathDocument .empty = .error own ∧
        .inApi "/owners" (.inField "listPets.Result" (.bare .emptySchema)) =
          Fault.inApi entry.location own := by
  have hasItems : mutePathDocument.pathItems ≠ [] := by
    simp [mutePathDocument, Swagger.Document.pathItems]
  obtain ⟨-, decides, -⟩ := converts_by_entries mutePathDocument .empty
  exact ⟨hasItems, ((decides hasItems).2.2 _).1 ofDocument_mutePath⟩

end RestConnector.Connector
