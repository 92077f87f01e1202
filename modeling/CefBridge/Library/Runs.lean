import Mathlib.Data.List.Induction

/-!
# Runs of a system that takes events one after another

A run is the list of its events. A statement about runs can speak of every state
that a run goes through, or of every event together with the state it finds.

`eachState_iff_eachStep` is the rule for a system that keeps a promise only
while its events behave: the promise holds in all states of a run exactly when
every event of the run is allowed where it comes. It asks for an invariant that
allowed events keep, and that the promise breaks right after any other event.
-/

namespace Library.Runs

universe u v
variable {State : Type u} {Event : Type v} (step : State → Event → State) (start : State)

/-- The state after the events of a run. -/
def run (events : List Event) : State := events.foldl step start

/-- Something holds of every state that a run goes through. -/
def EachState (holds : State → Prop) (events : List Event) : Prop :=
  ∀ before after, events = before ++ after → holds (run step start before)

/-- Something holds of every event of a run and the state that the event finds. -/
def EachStep (holds : State → Event → Prop) (events : List Event) : Prop :=
  ∀ before event after, events = before ++ event :: after → holds (run step start before) event

@[simp] theorem run_nil : run step start [] = start := rfl

theorem run_cons (event : Event) (events : List Event) :
    run step start (event :: events) = run step (step start event) events := rfl

@[simp] theorem run_concat (events : List Event) (event : Event) :
    run step start (events ++ [event]) = step (run step start events) event := by
  simp [run]

section Induction

variable {step start}

/-- What holds at the start and is kept by every event holds after every run. -/
theorem run_invariant {inv : State → Prop} (first : inv start)
    (kept : ∀ state event, inv state → inv (step state event)) (events : List Event) :
    inv (run step start events) := by
  induction events using List.reverseRecOn with
  | nil => exact first
  | append_singleton events event ih =>
    rw [run_concat]
    exact kept _ event ih

theorem EachState.last {holds : State → Prop} {events : List Event}
    (each : EachState step start holds events) : holds (run step start events) :=
  each events [] (List.append_nil events).symm

theorem EachState.init {holds : State → Prop} {events : List Event} {event : Event}
    (each : EachState step start holds (events ++ [event])) : EachState step start holds events := by
  rintro before after rfl
  exact each before (after ++ [event]) (List.append_assoc ..)

theorem EachStep.init {holds : State → Event → Prop} {events : List Event} {event : Event}
    (each : EachStep step start holds (events ++ [event])) : EachStep step start holds events := by
  rintro before other after rfl
  exact each before other (after ++ [event]) (by simp)

theorem EachStep.last {holds : State → Event → Prop} {events : List Event} {event : Event}
    (each : EachStep step start holds (events ++ [event])) : holds (run step start events) event :=
  each events event [] rfl

theorem eachStep_nil {holds : State → Event → Prop} : EachStep step start holds [] := by
  intro before event after split
  simp at split

/-- Something holds of every event of a run if it holds of the first one and of the others. -/
theorem EachStep.cons {holds : State → Event → Prop} {event : Event} {events : List Event}
    (first : holds start event) (others : EachStep step (step start event) holds events) :
    EachStep step start holds (event :: events) := by
  intro before other after split
  cases before with
  | nil =>
    cases split
    exact first
  | cons head before =>
    cases split
    exact others before other after rfl

/-- An event of a longer run is the last one or an event of the shorter run. -/
theorem split_concat {events before after : List Event} {event other : Event}
    (split : events ++ [event] = before ++ other :: after) :
    (before = events ∧ other = event ∧ after = []) ∨
      ∃ rest, events = before ++ other :: rest ∧ after = rest ++ [event] := by
  cases List.eq_nil_or_concat after with
  | inl none =>
    subst none
    obtain ⟨rfl, same⟩ := List.append_inj' split rfl
    cases same
    exact .inl ⟨rfl, rfl, rfl⟩
  | inr some =>
    obtain ⟨rest, final, rfl⟩ := some
    have regrouped : events ++ [event] = (before ++ other :: rest) ++ [final] := by simpa using split
    obtain ⟨rfl, same⟩ := List.append_inj' regrouped rfl
    cases same
    exact .inr ⟨rest, rfl, List.concat_eq_append⟩

/-- What some event of a longer run does, an event of the shorter one does or the last. -/
theorem exists_concat {events : List Event} {event : Event} (holds : List Event → Event → Prop) :
    (∃ before other after, events ++ [event] = before ++ other :: after ∧ holds before other) ↔
      (∃ before other after, events = before ++ other :: after ∧ holds before other) ∨
        holds events event := by
  constructor
  · rintro ⟨before, other, after, split, held⟩
    rcases split_concat split with ⟨rfl, rfl, -⟩ | ⟨rest, shorter, -⟩
    · exact .inr held
    · exact .inl ⟨before, other, rest, shorter, held⟩
  · rintro (⟨before, other, after, rfl, held⟩ | held)
    · exact ⟨before, other, after ++ [event], by simp, held⟩
    · exact ⟨events, event, [], rfl, held⟩

/-- The events of a longer run are those of the shorter one and the last. -/
theorem EachStep.concat {holds : State → Event → Prop} {events : List Event} {event : Event}
    (each : EachStep step start holds events) (last : holds (run step start events) event) :
    EachStep step start holds (events ++ [event]) := by
  intro before other after split
  rcases split_concat split with ⟨rfl, rfl, -⟩ | ⟨rest, shorter, -⟩
  · exact last
  · exact each before other rest shorter

/-- An invariant that allowed events keep holds after a run of allowed events. -/
theorem invariant_of_eachStep {inv : State → Prop} {allowed : State → Event → Prop}
    (first : inv start) (kept : ∀ state event, inv state → allowed state event → inv (step state event))
    (events : List Event) (each : EachStep step start allowed events) :
    inv (run step start events) := by
  induction events using List.reverseRecOn with
  | nil => exact first
  | append_singleton events event ih =>
    rw [run_concat]
    exact kept _ event (ih each.init) each.last

/-- A promise holds in all states of a run exactly when all its events are
allowed, if allowed events keep an invariant that implies the promise, and the
promise is broken after any other event. -/
theorem eachState_iff_eachStep {holds inv : State → Prop} {allowed : State → Event → Prop}
    (first : inv start) (enough : ∀ state, inv state → holds state)
    (kept : ∀ state event, inv state → allowed state event → inv (step state event))
    (lost : ∀ state event, inv state → ¬ allowed state event → ¬ holds (step state event))
    (events : List Event) :
    EachState step start holds events ↔ EachStep step start allowed events := by
  constructor
  · intro each
    induction events using List.reverseRecOn with
    | nil =>
      intro before event after split
      simp at split
    | append_singleton events event ih =>
      have earlier := ih each.init
      have reached := invariant_of_eachStep first kept events earlier
      have whole := each.last
      rw [run_concat] at whole
      have last : allowed (run step start events) event := by
        by_contra refused
        exact lost _ event reached refused whole
      exact earlier.concat last
  · rintro each before after rfl
    apply enough
    apply invariant_of_eachStep first kept before
    rintro front event back rfl
    exact each front event (back ++ after) (by simp)

/-- What is never regained holds after every event of a run exactly when it holds at
the end. -/
theorem eachStep_iff_run {holds : State → Prop} (first : holds start)
    (earlier : ∀ state event, holds (step state event) → holds state) (events : List Event) :
    EachStep step start (fun state event => holds (step state event)) events ↔
      holds (run step start events) := by
  constructor
  · intro each
    cases List.eq_nil_or_concat events with
    | inl none =>
      subst none
      exact first
    | inr some =>
      obtain ⟨front, event, same⟩ := some
      rw [List.concat_eq_append] at same
      subst same
      rw [run_concat]
      exact each.last
  · intro last
    induction events using List.reverseRecOn with
    | nil =>
      intro before event after split
      simp at split
    | append_singleton events event ih =>
      rw [run_concat] at last
      exact (ih (earlier _ event last)).concat last

end Induction

section Partial

variable {step : State → Event → Option State} {start after : State} {events : List Event}

/-- What every possible step keeps holds after a run. -/
theorem foldlM_invariant {inv : State → Prop}
    (kept : ∀ state event next, inv state → step state event = some next → inv next) (first : inv start)
    (ran : events.foldlM step start = some after) : inv after := by
  induction events generalizing start with
  | nil =>
    cases ran
    exact first
  | cons event events ih =>
    rw [List.foldlM_cons] at ran
    obtain ⟨next, stepped, others⟩ := Option.bind_eq_some_iff.mp ran
    exact ih (kept start event next first stepped) others

/-- What every possible step adds to bounds the length of a run. -/
theorem foldlM_measure {measure : State → Nat}
    (grows : ∀ state event next, step state event = some next → measure state < measure next)
    (ran : events.foldlM step start = some after) : measure start + events.length ≤ measure after := by
  induction events generalizing start with
  | nil =>
    cases ran
    exact Nat.le_refl _
  | cons event events ih =>
    rw [List.foldlM_cons] at ran
    obtain ⟨next, stepped, others⟩ := Option.bind_eq_some_iff.mp ran
    have grown := grows start event next stepped
    have longer := ih others
    rw [List.length_cons]
    omega

end Partial

end Library.Runs
