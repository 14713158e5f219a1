import Mathlib.Data.List.Basic

/-! Runs of a deterministic labelled step function, guards along a run, and the rules that
carry one-step facts to whole runs.
-/

namespace CtxRemote.Library

universe u v

variable {State : Type u} {Label : Type v} (step : State → Label → Option State)

-----------------------------------------------------------------------------------------
-- Runs and predicates along them
-----------------------------------------------------------------------------------------

/-- The state after performing `labels` in order; `none` once a label is not enabled. -/
def run : State → List Label → Option State
  | state, [] => some state
  | state, label :: rest => (step state label).bind fun next => run next rest

/-- Every step that the run of `labels` takes meets `guard` in the state before it. -/
def AllSteps (guard : State → Label → Prop) : State → List Label → Prop
  | _, [] => True
  | state, label :: rest =>
      ∀ next, step state label = some next → guard state label ∧ AllSteps guard next rest

/-- Every state that the run of `labels` visits, first and last included, satisfies `good`. -/
def AllStates (good : State → Prop) : State → List Label → Prop
  | state, [] => good state
  | state, label :: rest =>
      good state ∧ ∀ next, step state label = some next → AllStates good next rest

variable {step}

/-- A run over joined label lists is the run of the second part after the first, by
induction on the first part.
-/
theorem run_append {state : State} {first second : List Label}
    : run step state (first ++ second)
      = (run step state first).bind fun middle => run step middle second := by
  induction first generalizing state with
  | nil => rfl
  | cons label rest ih =>
      cases h : step state label with
      | none => simp [run, h]
      | some next => simpa [run, h] using ih

/-- The first visited state is the starting one. -/
theorem AllStates.start {good : State → Prop} {state : State} {labels : List Label}
    (h : AllStates step good state labels)
    : good state := by
  cases labels with
  | nil => exact h
  | cons _ _ => exact h.1

/-- A predicate that holds along a run holds in the state the run ends in. -/
theorem AllStates.last {good : State → Prop} {state final : State} {labels : List Label}
    (h : AllStates step good state labels) (ends : run step state labels = some final)
    : good final := by
  induction labels generalizing state with
  | nil =>
      obtain rfl : state = final := by simpa [run] using ends
      exact h
  | cons label rest ih =>
      obtain ⟨next, taken, ends⟩ := Option.bind_eq_some_iff.mp ends
      exact ih (h.2 next taken) ends

/-- What follows from a predicate holds wherever the predicate does. -/
theorem AllStates.imp {good better : State → Prop} (follows : ∀ state, good state → better state)
    {state : State} {labels : List Label} (h : AllStates step good state labels)
    : AllStates step better state labels := by
  induction labels generalizing state with
  | nil => exact follows state h
  | cons label rest ih => exact ⟨follows state h.1, fun next taken => ih (h.2 next taken)⟩

/-- A step that meets the guard, before a run that meets it. -/
theorem AllSteps.cons {guard : State → Label → Prop} {state next : State} {label : Label}
    {rest : List Label} (taken : step state label = some next) (meets : guard state label)
    (later : AllSteps step guard next rest)
    : AllSteps step guard state (label :: rest) := by
  intro other takenToo
  obtain rfl : next = other := Option.some.inj (taken.symm.trans takenToo)
  exact ⟨meets, later⟩

/-- A run is checked step by step. -/
instance AllSteps.decidable {guard : State → Label → Prop}
    [∀ state label, Decidable (guard state label)]
    : ∀ state labels, Decidable (AllSteps step guard state labels)
  | _, [] => isTrue trivial
  | state, label :: rest =>
      match taken : step state label with
      | none => isTrue fun next takenToo => by simp [taken] at takenToo
      | some next =>
          have : Decidable (AllSteps step guard next rest) := AllSteps.decidable next rest
          decidable_of_iff (guard state label ∧ AllSteps step guard next rest)
            ⟨fun ⟨meets, later⟩ => .cons taken meets later, fun all => all next taken⟩

/-- A guard that some labels meet in every state is met by every run of such labels. -/
theorem AllSteps.of_labels {guard : State → Label → Prop} {labels : List Label}
    (always : ∀ label ∈ labels, ∀ state, guard state label) (state : State)
    : AllSteps step guard state labels := by
  induction labels generalizing state with
  | nil => trivial
  | cons label rest ih =>
      intro next _
      exact ⟨always label List.mem_cons_self state,
        ih (fun later member => always later (List.mem_cons_of_mem _ member)) next⟩

/-- What all steps of a run meet, the step after its first part meets in the state between. -/
theorem AllSteps.after {guard : State → Label → Prop} {state middle next : State}
    {first : List Label} {label : Label} {rest : List Label}
    (all : AllSteps step guard state (first ++ label :: rest))
    (ran : run step state first = some middle) (taken : step middle label = some next)
    : guard middle label := by
  induction first generalizing state with
  | nil =>
      obtain rfl : state = middle := by simpa [run] using ran
      exact (all next taken).1
  | cons head tail ih =>
      obtain ⟨between, here, later⟩ := Option.bind_eq_some_iff.mp ran
      exact ih (all between here).2 later

-----------------------------------------------------------------------------------------
-- Run rules
-----------------------------------------------------------------------------------------

/-- Guarded invariant rule. A predicate preserved by each guarded step holds in every state
of a run whose steps all meet the guard.
-/
theorem allStates_of_guarded (good : State → Prop) {guard : State → Label → Prop}
    (preserved
      : ∀ state label next,
          good state → guard state label → step state label = some next → good next)
    {state : State} {labels : List Label}
    (initial : good state) (guarded : AllSteps step guard state labels)
    : AllStates step good state labels := by
  induction labels generalizing state with
  | nil => exact initial
  | cons label rest ih =>
      refine ⟨initial, fun next taken => ?_⟩
      obtain ⟨meets, later⟩ := guarded next taken
      exact ih (preserved state label next initial meets taken) later

/-- Guarded step rule. Where each guarded step from a good state keeps the state good and has a
property, the steps of a run that all meet the guard have it.
-/
theorem allSteps_of_guarded (good : State → Prop) {guard property : State → Label → Prop}
    (preserved
      : ∀ state label next,
          good state
          → guard state label
          → step state label = some next
          → good next ∧ property state label)
    {state : State} {labels : List Label}
    (initial : good state) (guarded : AllSteps step guard state labels)
    : AllSteps step property state labels := by
  induction labels generalizing state with
  | nil => trivial
  | cons label rest ih =>
      intro next taken
      obtain ⟨meets, later⟩ := guarded next taken
      obtain ⟨kept, has⟩ := preserved state label next initial meets taken
      exact ⟨has, ih kept later⟩

/-- Invariant rule. A predicate preserved by every step holds in every state of every run. -/
theorem allStates_of_invariant (good : State → Prop)
    (preserved : ∀ state label next, good state → step state label = some next → good next)
    {state : State} (labels : List Label) (initial : good state)
    : AllStates step good state labels := by
  induction labels generalizing state with
  | nil => exact initial
  | cons label rest ih =>
      exact ⟨initial, fun next taken => ih (preserved state label next initial taken)⟩

/-- Invariant step rule. What every step from a state with an invariant has, the steps of a run have. -/
theorem allSteps_of_invariant (good : State → Prop) {property : State → Label → Prop}
    (preserved : ∀ state label next, good state → step state label = some next → good next)
    (has : ∀ state label, good state → property state label)
    {state : State} (labels : List Label) (initial : good state)
    : AllSteps step property state labels := by
  induction labels generalizing state with
  | nil => trivial
  | cons label rest ih =>
      exact fun next taken => ⟨has state label initial, ih (preserved state label next initial taken)⟩

/-- The guarded invariant rule at the end of a run. -/
theorem run_guarded (good : State → Prop) {guard : State → Label → Prop}
    (preserved
      : ∀ state label next,
          good state → guard state label → step state label = some next → good next)
    {state final : State} {labels : List Label}
    (initial : good state) (guarded : AllSteps step guard state labels)
    (ends : run step state labels = some final)
    : good final :=
  (allStates_of_guarded good preserved initial guarded).last ends

/-- The invariant rule at the end of a run. -/
theorem run_invariant (good : State → Prop)
    (preserved : ∀ state label next, good state → step state label = some next → good next)
    {state final : State} {labels : List Label}
    (initial : good state) (ends : run step state labels = some final)
    : good final :=
  (allStates_of_invariant good preserved labels initial).last ends

/-- Exact guard rule. Where, under an invariant, a step keeps `good` exactly when it meets
`guard`, a run stays in `good` exactly when all its steps meet `guard`. Witness: induction on
the labels, carrying the invariant.
-/
theorem allStates_iff_allSteps (invariant : State → Prop) {good : State → Prop}
    {guard : State → Label → Prop}
    (preserved
      : ∀ state label next, invariant state → step state label = some next → invariant next)
    (exactly
      : ∀ state label next,
          invariant state
          → good state
          → step state label = some next
          → (good next ↔ guard state label))
    {state : State} {labels : List Label}
    (kept : invariant state) (initial : good state)
    : AllStates step good state labels ↔ AllSteps step guard state labels := by
  induction labels generalizing state with
  | nil => exact ⟨fun _ => trivial, fun _ => initial⟩
  | cons label rest ih =>
      constructor
      · intro visited next taken
        have goodNext := (visited.2 next taken).start
        have keptNext := preserved state label next kept taken
        exact ⟨(exactly state label next kept initial taken).mp goodNext,
          (ih keptNext goodNext).mp (visited.2 next taken)⟩
      · intro guarded
        refine ⟨initial, fun next taken => ?_⟩
        obtain ⟨meets, later⟩ := guarded next taken
        have goodNext := (exactly state label next kept initial taken).mpr meets
        exact (ih (preserved state label next kept taken) goodNext).mpr later

-----------------------------------------------------------------------------------------
-- Two runs
-----------------------------------------------------------------------------------------

/-- Simulation rule. Where each guarded step can be answered from a related state, with a label that
is alike, so that the states stay related, a guarded run is answered by every run of labels alike.
Witness: induction on the labels.
-/
theorem run_simulated (related : State → State → Prop) (alike : Label → Label → Prop)
    {guard : State → Label → Prop}
    (answers
      : ∀ state other label answer next,
          related state other
          → alike label answer
          → guard state label
          → step state label = some next
          → ∃ reply, step other answer = some reply ∧ related next reply)
    {state other final : State} {labels others : List Label}
    (start : related state other) (sameLabels : List.Forall₂ alike labels others)
    (guarded : AllSteps step guard state labels) (ends : run step state labels = some final)
    : ∃ last, run step other others = some last ∧ related final last := by
  induction sameLabels generalizing state other with
  | nil =>
      obtain rfl : state = final := by simpa [run] using ends
      exact ⟨other, rfl, start⟩
  | cons same _ ih =>
      obtain ⟨next, taken, ends⟩ := Option.bind_eq_some_iff.mp ends
      obtain ⟨meets, later⟩ := guarded next taken
      obtain ⟨reply, answered, still⟩ := answers _ _ _ _ _ start same meets taken
      obtain ⟨last, ran, related⟩ := ih still later ends
      exact ⟨last, by simp [run, answered, ran], related⟩

end CtxRemote.Library
