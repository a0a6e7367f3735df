import RestConnector.Typing.Outcome

/-!
Contract: how results and events come together when typings follow one another.

Owns:
- for each way to combine outcomes, what a success of the whole says about its parts.

Does not own: what events do to a catalog, see `RestConnector.Proofs.Registration`.

A success leaves the events of all its parts in their order, so nothing has to be said about faults
in the middle of it.
-/

namespace RestConnector.Typing.Outcome

variable {α β γ : Type}

theorem andThen_of_ok {first : Outcome α} {value : α} (succeeded : first.value = .ok value)
    (next : α → Outcome β) :
    first.andThen next = ⟨(next value).value, first.log ++ (next value).log⟩ := by
  unfold andThen
  rw [succeeded]

theorem andThen_of_error {first : Outcome α} {fault : Fault} (failed : first.value = .error fault)
    (next : α → Outcome β) : first.andThen next = ⟨.error fault, first.log⟩ := by
  unfold andThen
  rw [failed]

/-- The grouping of a sequence does not matter. -/
theorem andThen_assoc (first : Outcome α) (second : α → Outcome β) (third : β → Outcome γ) :
    (first.andThen second).andThen third =
      first.andThen fun value => (second value).andThen third := by
  cases firstResult : first.value with
  | error fault => rw [andThen_of_error firstResult, andThen_of_error firstResult]; rfl
  | ok value =>
    rw [andThen_of_ok firstResult, andThen_of_ok firstResult]
    cases secondResult : (second value).value with
    | error fault => rw [andThen_of_error secondResult, andThen_of_error rfl]
    | ok between =>
      rw [andThen_of_ok secondResult, andThen_of_ok rfl, List.append_assoc]

@[simp]
theorem ok_andThen (value : α) (next : α → Outcome β) : (ok value).andThen next = next value := rfl

theorem andThen_pure (first : Outcome α) : first.andThen ok = first := by
  obtain ⟨value, log⟩ := first
  cases value with
  | error fault => rfl
  | ok value =>
    show (⟨.ok value, log ++ []⟩ : Outcome α) = ⟨.ok value, log⟩
    rw [List.append_nil]

/-- A sequence succeeds only through a success of its first part, whose events come first. -/
theorem andThen_ok {first : Outcome α} {next : α → Outcome β} {value : β}
    (succeeded : (first.andThen next).value = .ok value) :
    ∃ between, first.value = .ok between ∧ (next between).value = .ok value ∧
      (first.andThen next).log = first.log ++ (next between).log := by
  cases result : first.value with
  | error fault =>
    rw [andThen_of_error result] at succeeded
    cases succeeded
  | ok between =>
    rw [andThen_of_ok result] at succeeded ⊢
    exact ⟨between, rfl, succeeded, rfl⟩

/-- A change of the result changes nothing about success. -/
theorem map_ok_iff {first : Outcome α} {result : α → β} {value : β} :
    (first.andThen fun between => ok (result between)).value = .ok value ↔
      ∃ between, first.value = .ok between ∧ result between = value := by
  constructor
  · intro succeeded
    obtain ⟨between, found, last, -⟩ := andThen_ok succeeded
    cases last
    exact ⟨between, found, rfl⟩
  · rintro ⟨between, found, rfl⟩
    rw [andThen_of_ok found]
    rfl

theorem map_error_iff {first : Outcome α} {result : α → β} {fault : Fault} :
    (first.andThen fun between => ok (result between)).value = .error fault ↔
      first.value = .error fault := by
  cases given : first.value with
  | error other => rw [andThen_of_error given, Except.error.injEq, Except.error.injEq]
  | ok between =>
    rw [andThen_of_ok given]
    exact ⟨fun impossible => (nomatch impossible), fun impossible => (nomatch impossible)⟩

/-- Whatever comes of a sequence, the events of its first part come first. -/
theorem log_prefix_andThen (first : Outcome α) (next : α → Outcome β) :
    first.log <+: (first.andThen next).log := by
  unfold andThen
  cases first.value with
  | error fault => exact List.prefix_rfl
  | ok value => exact List.prefix_append first.log (next value).log

/-- A sequence whose second part is a plain result has the events of its first part. -/
theorem log_andThen_ok (first : Outcome α) (result : α → β) :
    (first.andThen fun value => ok (result value)).log = first.log := by
  unfold andThen
  cases first.value with
  | error fault => rfl
  | ok value => exact List.append_nil first.log

@[simp]
theorem log_mapFault (change : Fault → Fault) (outcome : Outcome α) :
    (outcome.mapFault change).log = outcome.log := by
  unfold mapFault
  cases outcome.value <;> rfl

theorem mapFault_ok {change : Fault → Fault} {outcome : Outcome α} {value : α}
    (succeeded : (outcome.mapFault change).value = .ok value) : outcome.value = .ok value := by
  unfold mapFault at succeeded
  cases result : outcome.value with
  | error fault =>
    rw [result] at succeeded
    cases succeeded
  | ok other =>
    rw [result] at succeeded
    exact succeeded

theorem mapFault_map (change : Fault → Fault) (outcome : Outcome α) (result : α → β) :
    (outcome.andThen fun value => ok (result value)).mapFault change =
      (outcome.mapFault change).andThen fun value => ok (result value) := by
  obtain ⟨value, log⟩ := outcome
  cases value <;> rfl

/-- A walk over a list succeeds only through a success at every member. -/
theorem forEach_ok {step : α → Outcome β} {members : List α} {values : List β}
    (succeeded : (forEach step members).value = .ok values) :
    (∀ member ∈ members, ∃ value ∈ values, (step member).value = .ok value) ∧
      (forEach step members).log = members.flatMap fun member => (step member).log := by
  induction members generalizing values with
  | nil =>
    refine ⟨?_, rfl⟩
    intro member inside
    cases inside
  | cons member rest inductionHypothesis =>
    unfold forEach at succeeded ⊢
    obtain ⟨value, stepped, succeeded, log⟩ := andThen_ok succeeded
    obtain ⟨others, walked, rfl⟩ := map_ok_iff.1 succeeded
    obtain ⟨restStepped, restLog⟩ := inductionHypothesis walked
    refine ⟨?_, ?_⟩
    · intro other inside
      rcases List.mem_cons.1 inside with rfl | later
      · exact ⟨value, List.mem_cons_self, stepped⟩
      · obtain ⟨otherValue, among, otherStepped⟩ := restStepped other later
        exact ⟨otherValue, List.mem_cons_of_mem value among, otherStepped⟩
    · rw [log, log_andThen_ok, restLog]
      rfl

/-- A sequence fails in its first part, or in its second one after a success of the first. -/
theorem andThen_error {first : Outcome α} {next : α → Outcome β} {fault : Fault}
    (failed : (first.andThen next).value = .error fault) :
    first.value = .error fault ∨
      ∃ between, first.value = .ok between ∧ (next between).value = .error fault := by
  cases result : first.value with
  | error other =>
    rw [andThen_of_error result] at failed
    cases failed
    exact Or.inl rfl
  | ok between =>
    rw [andThen_of_ok result] at failed
    exact Or.inr ⟨between, rfl, failed⟩

/-! ## Walks over lists -/

/-- A walk depends on its steps at its own members alone. -/
theorem forEach_congr {one other : α → Outcome β} {members : List α}
    (same : ∀ member ∈ members, one member = other member) :
    forEach one members = forEach other members := by
  induction members with
  | nil => rfl
  | cons member rest inductionHypothesis =>
    have others := inductionHypothesis fun later inside => same later (List.mem_cons_of_mem _ inside)
    simp only [forEach, same member List.mem_cons_self, others]

theorem forEach_append (step : α → Outcome β) (front back : List α) :
    forEach step (front ++ back) =
      (forEach step front).andThen fun early =>
        (forEach step back).andThen fun late => ok (early ++ late) := by
  induction front with
  | nil =>
    exact (andThen_pure (forEach step back)).symm
  | cons member rest inductionHypothesis =>
    simp only [List.cons_append, forEach, inductionHypothesis, andThen_assoc, ok_andThen]

/-- The events of a member follow those of the members in front of it. -/
theorem log_prefix_forEach {step : α → Outcome β} {front back : List α} {member : α}
    {values : List β} (walked : (forEach step front).value = .ok values) :
    (forEach step front).log ++ (step member).log <+:
      (forEach step (front ++ member :: back)).log := by
  rw [forEach_append, andThen_of_ok walked, List.prefix_append_right_inj, log_andThen_ok, forEach]
  exact log_prefix_andThen (step member) _

theorem forEach_map (step : β → Outcome γ) (change : α → β) (members : List α) :
    forEach step (members.map change) = forEach (fun member => step (change member)) members := by
  induction members with
  | nil => rfl
  | cons member rest inductionHypothesis =>
    simp only [List.map_cons, forEach, inductionHypothesis]

/-- A walk succeeds if every member does. -/
theorem forEach_succeeds {step : α → Outcome β} {members : List α}
    (succeed : ∀ member ∈ members, ∃ value, (step member).value = .ok value) :
    ∃ values, (forEach step members).value = .ok values := by
  induction members with
  | nil => exact ⟨[], rfl⟩
  | cons member rest inductionHypothesis =>
    obtain ⟨value, stepped⟩ := succeed member List.mem_cons_self
    obtain ⟨values, walked⟩ := inductionHypothesis fun other inside =>
      succeed other (List.mem_cons_of_mem member inside)
    refine ⟨value :: values, ?_⟩
    rw [forEach, andThen_of_ok stepped, andThen_of_ok walked]
    rfl

/-- A walk fails with the fault of the first member that fails. -/
theorem forEach_error_iff {step : α → Outcome β} {members : List α} {fault : Fault} :
    (forEach step members).value = .error fault ↔
      ∃ before member after, members = before ++ member :: after ∧
        (∀ earlier ∈ before, ∃ value, (step earlier).value = .ok value) ∧
        (step member).value = .error fault := by
  constructor
  · intro failed
    induction members with
    | nil => cases failed
    | cons member rest inductionHypothesis =>
      unfold forEach at failed
      rcases andThen_error failed with here | ⟨value, stepped, later⟩
      · exact ⟨[], member, rest, rfl, by simp, here⟩
      · rcases andThen_error later with walked | ⟨values, -, impossible⟩
        · obtain ⟨before, first, after, rfl, succeed, first_failed⟩ := inductionHypothesis walked
          refine ⟨member :: before, first, after, rfl, ?_, first_failed⟩
          intro earlier inside
          rcases List.mem_cons.1 inside with rfl | among
          · exact ⟨value, stepped⟩
          · exact succeed earlier among
        · cases impossible
  · rintro ⟨before, member, after, rfl, succeed, failed⟩
    obtain ⟨values, walked⟩ := forEach_succeeds succeed
    have stopped : (forEach step (member :: after)).value = .error fault := by
      rw [forEach, andThen_of_error failed]
    rw [forEach_append, andThen_of_ok walked, andThen_of_error stopped]

/-- A walk that succeeds comes to what its members come to, one by one. -/
theorem forEach_ok_filterMap {step : α → Outcome β} {members : List α} {values : List β}
    (walked : (forEach step members).value = .ok values) :
    values = members.filterMap fun member => (step member).value.toOption := by
  induction members generalizing values with
  | nil =>
    cases walked
    rfl
  | cons member rest inductionHypothesis =>
    unfold forEach at walked
    obtain ⟨value, stepped, walked, -⟩ := andThen_ok walked
    obtain ⟨others, restWalked, rfl⟩ := map_ok_iff.1 walked
    rw [inductionHypothesis restWalked, List.filterMap_cons, stepped]
    rfl

/-- Whatever a walk comes to is what one of its steps comes to. -/
theorem exists_step_of_mem {step : α → Outcome β} {members : List α} {values : List β}
    (walked : (forEach step members).value = .ok values) {value : β} (inside : value ∈ values) :
    ∃ member ∈ members, (step member).value = .ok value := by
  rw [forEach_ok_filterMap walked] at inside
  obtain ⟨member, among, stepped⟩ := List.mem_filterMap.1 inside
  refine ⟨member, among, ?_⟩
  cases result : (step member).value with
  | error fault =>
    rw [result] at stepped
    cases stepped
  | ok other =>
    rw [result] at stepped
    cases stepped
    rfl

/-- Steps with the same successes make up walks with the same successes. -/
theorem forEach_ok_of_steps {one other : α → Outcome β} {members : List α} {values : List β}
    (same : ∀ member ∈ members, ∀ value,
      (one member).value = .ok value → (other member).value = .ok value)
    (walked : (forEach one members).value = .ok values) :
    (forEach other members).value = .ok values := by
  induction members generalizing values with
  | nil => exact walked
  | cons member rest inductionHypothesis =>
    unfold forEach at walked ⊢
    obtain ⟨value, stepped, walked, -⟩ := andThen_ok walked
    obtain ⟨others, restWalked, last, -⟩ := andThen_ok walked
    have otherWalked := inductionHypothesis
      (fun later inside => same later (List.mem_cons_of_mem member inside)) restWalked
    rw [andThen_of_ok (same member List.mem_cons_self value stepped), andThen_of_ok otherWalked]
    exact last

/-- What a walk comes to is what its steps come to, whatever their events are. -/
theorem value_forEach (step : α → Outcome β) (members : List α) :
    (forEach step members).value = members.mapM fun member => (step member).value := by
  induction members with
  | nil => rfl
  | cons member rest inductionHypothesis =>
    rw [List.mapM_cons, ← inductionHypothesis, forEach]
    cases result : (step member).value with
    | error fault => rw [andThen_of_error result]; rfl
    | ok value =>
      rw [andThen_of_ok result]
      cases others : (forEach step rest).value with
      | error fault => rw [andThen_of_error others]; rfl
      | ok values => rw [andThen_of_ok others]; rfl

theorem log_forEach_ofExcept (step : α → Except Fault β) (members : List α) :
    (forEach (fun member => ofExcept (step member)) members).log = [] := by
  induction members with
  | nil => rfl
  | cons member rest inductionHypothesis =>
    rw [forEach]
    cases result : step member with
    | error fault => rfl
    | ok value =>
      have succeeded : (ofExcept (Except.ok value : Except Fault β)).value = .ok value := rfl
      rw [andThen_of_ok succeeded, log_andThen_ok, inductionHypothesis]
      rfl

/-- A traversal fails with the fault of the first member that fails. -/
theorem mapM_error_iff {step : α → Except Fault β} {members : List α} {fault : Fault} :
    members.mapM step = .error fault ↔
      ∃ before member after, members = before ++ member :: after ∧
        (∀ earlier ∈ before, ∃ value, step earlier = .ok value) ∧ step member = .error fault := by
  have walk : (forEach (fun member => ofExcept (step member)) members).value =
      members.mapM step := value_forEach _ members
  rw [← walk]
  exact forEach_error_iff

theorem mapM_error {step : α → Except Fault β} {members : List α} {fault : Fault}
    (failed : members.mapM step = .error fault) : ∃ member ∈ members, step member = .error fault := by
  obtain ⟨before, member, after, rfl, -, result⟩ := mapM_error_iff.1 failed
  exact ⟨member, by simp, result⟩

end RestConnector.Typing.Outcome
