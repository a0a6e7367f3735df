import RestConnector.Fault

/-!
Contract: faults that are reported for many places, one after the other.

Owns:
- `Report`, one report of a fault, with `firstApi?` and `firstField?`, the places that count among
  several reports;
- `Fault.placed`, a cause with at most one place of each kind;
- `reported_once`: whatever is reported, a fault keeps its cause and the places that count.

Does not own: which places a conversion reports, see `RestConnector.Proofs.Building`.

The two kinds of places are not alike.  An API path counts after any field path, but no field path
counts after an API path, and neither does one without segments.
-/

namespace RestConnector

/-- A report of a fault for the place where it was met. -/
inductive Report where
  | field (segments : List String)
  | api (apiPath : String)

namespace Report

def apiPath? : Report → Option String
  | .field _ => none
  | .api apiPath => some apiPath

/-- The field path of a report, unless it has no segments. -/
def fieldPath? : Report → Option String
  | .field segments => if segments = [] then none else some (Fault.dotted segments)
  | .api _ => none

/-- The first API path among some reports. -/
def firstApi? (reports : List Report) : Option String :=
  reports.findSome? apiPath?

/-- The first field path among the reports that come before any API path. -/
def firstField? (reports : List Report) : Option String :=
  (reports.takeWhile fun report => report.apiPath?.isNone).findSome? fieldPath?

theorem firstApi?_cons (report : Report) (rest : List Report) :
    firstApi? (report :: rest) = report.apiPath?.or (firstApi? rest) := by
  unfold firstApi?
  rw [List.findSome?_cons]
  cases report.apiPath? <;> rfl

theorem firstField?_field (segments : List String) (rest : List Report) :
    firstField? (.field segments :: rest) =
      (fieldPath? (.field segments)).or (firstField? rest) := by
  unfold firstField?
  rw [List.takeWhile_cons_of_pos rfl, List.findSome?_cons]
  cases fieldPath? (.field segments) <;> rfl

theorem firstField?_api (apiPath : String) (rest : List Report) :
    firstField? (.api apiPath :: rest) = none := by
  unfold firstField?
  rw [List.takeWhile_cons_of_neg Bool.false_ne_true]
  rfl

end Report

namespace Fault

open Report (firstApi? firstField?)

/-- Report a fault once more. -/
def reported (fault : Fault) : Report → Fault
  | .field segments => fault.atField segments
  | .api apiPath => fault.atApi apiPath

/-- A cause with the places that are known of it, the API path outside. -/
def placed (cause : Cause) : Option String → Option String → Fault
  | none, none => .bare cause
  | none, some fieldPath => .inField fieldPath (.bare cause)
  | some apiPath, none => .inApi apiPath (.bare cause)
  | some apiPath, some fieldPath => .inApi apiPath (.inField fieldPath (.bare cause))

section Placed

variable {cause : Cause} {api? field? : Option String}

@[simp]
theorem root_placed : (placed cause api? field?).root = cause := by
  cases api? <;> cases field? <;> rfl

@[simp]
theorem apiPath?_placed : (placed cause api? field?).apiPath? = api? := by
  cases api? <;> cases field? <;> rfl

@[simp]
theorem fieldPath?_placed : (placed cause api? field?).fieldPath? = field? := by
  cases api? <;> cases field? <;> rfl

theorem message_placed : (placed cause api? field?).message =
    ": ".intercalate (api?.toList ++ field?.toList ++ [cause.message]) := by
  cases api? <;> cases field? <;> simp [placed, message, String.intercalate_cons_cons]

/-! ## One report -/

/-- A field path is taken as long as nothing is known of a place. -/
theorem atField_placed (segments : List String) :
    (placed cause api? field?).atField segments =
      placed cause api? (if api?.isSome then field?
        else field?.or (Report.fieldPath? (.field segments))) := by
  cases api? <;> cases field? <;> cases segments <;> rfl

theorem atApi_placed (apiPath : String) :
    (placed cause api? field?).atApi apiPath = placed cause (api?.or (some apiPath)) field? := by
  cases api? <;> cases field? <;> rfl

/-! ## Many reports -/

/-- What a fault has already stays, and reports add what it has not: an API path, and until then a
field path. -/
theorem foldl_reported (reports : List Report) :
    reports.foldl reported (placed cause api? field?) =
      placed cause (api?.or (firstApi? reports))
        (if api?.isSome then field? else field?.or (firstField? reports)) := by
  -- Each report may add a place, so the places that are known vary in the induction.
  induction reports generalizing api? field? with
  | nil => cases api? <;> cases field? <;> rfl
  | cons report rest inductionHypothesis =>
    rw [List.foldl_cons, Report.firstApi?_cons]
    cases report with
    | field segments =>
      rw [reported, atField_placed, inductionHypothesis, Report.firstField?_field]
      cases api? with
      | none => simp [Report.apiPath?, Option.or_assoc]
      | some apiPath => rfl
    | api apiPath =>
      rw [reported, atApi_placed, inductionHypothesis, Report.firstField?_api]
      cases api? with
      | none => simp [Report.apiPath?]
      | some known => rfl

end Placed

/-- However often and for whatever places a cause is reported, the fault is the cause with the first
API path and with the first field path that comes before it.  Its root, its two places and its text
are told by these. -/
theorem reported_once (cause : Cause) (reports : List Report) :
    let fault := reports.foldl reported (.bare cause)
    fault = placed cause (firstApi? reports) (firstField? reports) ∧
      fault.root = cause ∧
      fault.apiPath? = firstApi? reports ∧
      fault.fieldPath? = firstField? reports ∧
      fault.message = ": ".intercalate
        ((firstApi? reports).toList ++ (firstField? reports).toList ++ [cause.message]) := by
  intro fault
  have isPlaced : fault = placed cause (firstApi? reports) (firstField? reports) :=
    @foldl_reported cause none none reports
  refine ⟨isPlaced, ?_⟩
  rw [isPlaced]
  exact ⟨root_placed, apiPath?_placed, fieldPath?_placed, message_placed⟩

/-- The report without segments does not count, and neither do the last two. -/
example : ([.field [], .field ["Pet", "tags"], .api "/pets", .field ["Pet"], .api "/owners"].foldl
    reported (.bare .missingItems)).message = "/pets: Pet.tags: array item is empty" := by
  decide +kernel

end Fault

end RestConnector
