import CtxRemote.Library.Loops

/-! Pre- and postconditions of programs with a state that may stop at an error: rules for sequences
and loops, and for what a program leaves as it was.
-/

namespace CtxRemote.Library

variable {ε σ α β γ : Type}

-----------------------------------------------------------------------------------------
-- Outcomes
-----------------------------------------------------------------------------------------

/-- A program that starts in the state returns as `returns` says, or stops as `raises` says. -/
def Ends (program : ExceptT ε (StateM σ) α) (state : σ) (returns : α → σ → Prop)
    (raises : ε → σ → Prop)
    : Prop :=
  match perform program state with
  | (.ok value, last) => returns value last
  | (.error error, last) => raises error last

namespace Ends

variable {program : ExceptT ε (StateM σ) α} {next : α → ExceptT ε (StateM σ) β} {state : σ}
  {returns other : α → σ → Prop} {then' : β → σ → Prop} {raises stops : ε → σ → Prop}

theorem of_ok {value : α} {last : σ} (ends : Ends program state returns raises)
    (ran : perform program state = (.ok value, last))
    : returns value last := by
  unfold Ends at ends
  rwa [ran] at ends

theorem of_error {error : ε} {last : σ} (ends : Ends program state returns raises)
    (stopped : perform program state = (.error error, last))
    : raises error last := by
  unfold Ends at ends
  rwa [stopped] at ends

/-- The rule of consequence. -/
theorem mono (ends : Ends program state returns raises)
    (weaker : ∀ value last, returns value last → other value last)
    (allowed : ∀ error last, raises error last → stops error last)
    : Ends program state other stops := by
  unfold Ends at *
  match ran : perform program state with
  | (.ok value, last) =>
      rw [ran] at ends
      exact weaker value last ends
  | (.error error, last) =>
      rw [ran] at ends
      exact allowed error last ends

theorem pure {value : α} (holds : returns value state)
    : Ends (Pure.pure value : ExceptT ε (StateM σ) α) state returns raises :=
  holds

theorem throw {error : ε} (holds : raises error state)
    : Ends (throw error : ExceptT ε (StateM σ) α) state returns raises :=
  holds

/-- The rule for sequences. -/
theorem bind (first : Ends program state returns raises)
    (rest : ∀ value middle, returns value middle → Ends (next value) middle then' raises)
    : Ends (program >>= next) state then' raises := by
  unfold Ends at first ⊢
  rw [perform_bind]
  match ran : perform program state with
  | (.ok value, middle) =>
      rw [ran] at first
      exact rest value middle first
  | (.error error, middle) =>
      rw [ran] at first
      exact first

/-- Reading the state. -/
theorem get_bind {next : σ → ExceptT ε (StateM σ) β} (rest : Ends (next state) state then' raises)
    : Ends (get >>= next) state then' raises := by
  unfold Ends at rest ⊢
  rwa [perform_bind, perform_get]

/-- Changing the state. -/
theorem modify_bind {f : σ → σ} {next : Unit → ExceptT ε (StateM σ) β}
    (rest : Ends (next ()) (f state) then' raises)
    : Ends (MonadState.modifyGet (fun s => ((), f s)) >>= next) state then' raises := by
  unfold Ends at rest ⊢
  rw [perform_bind]
  exact rest

/-- The rule for loops: an invariant of the elements that the loop has passed. -/
theorem forM {act : α → ExceptT ε (StateM σ) Unit} {xs : List α} {guard : σ → α → Prop}
    (invariant : List α → σ → Prop) (reached : AllReached act guard xs state)
    (initial : invariant [] state)
    (step
      : ∀ before x, x ∈ xs → ∀ state, invariant before state → guard state x →
        Ends (act x) state (fun _ last => invariant (before ++ [x]) last) raises)
    : Ends (xs.forM act) state (fun _ last => invariant xs last) raises := by
  suffices loop
      : ∀ (before after : List α) (state : σ), xs = before ++ after → invariant before state →
        AllReached act guard after state →
        Ends (after.forM act) state (fun _ last => invariant xs last) raises from
    loop [] xs state rfl initial reached
  intro before after
  induction after generalizing before with
  | nil =>
      intro state split kept _
      rw [List.append_nil] at split
      subst split
      exact pure kept
  | cons x rest ih =>
      intro state split kept reached
      obtain ⟨meets, later⟩ := reached
      rw [forM_cons]
      have here := step before x (by simp [split]) state kept meets
      unfold Ends at here ⊢
      rw [perform_bind]
      match ran : perform (act x) state with
      | (.error error, middle) =>
          rw [ran] at here
          exact here
      | (.ok (), middle) =>
          rw [ran] at here
          exact ih (before ++ [x]) middle (by simp [split]) here (later middle ran)

end Ends

/-- Every element is reached where nothing is asked of it. -/
theorem allReached_true {act : α → ExceptT ε (StateM σ) Unit} (xs : List α) (state : σ)
    : AllReached act (fun _ _ => True) xs state := by
  induction xs generalizing state with
  | nil => trivial
  | cons x rest ih => exact ⟨trivial, fun next _ => ih next⟩

-----------------------------------------------------------------------------------------
-- What a program leaves
-----------------------------------------------------------------------------------------

/-- A program leaves what `view` shows of the state, whether it returns or stops. -/
def Leaves (view : σ → γ) (program : ExceptT ε (StateM σ) α) : Prop :=
  ∀ state, view (perform program state).2 = view state

namespace Leaves

variable {view : σ → γ} {program : ExceptT ε (StateM σ) α}

theorem pure (value : α) : Leaves view (Pure.pure value : ExceptT ε (StateM σ) α) :=
  fun _ => rfl

theorem throw (error : ε) : Leaves view (throw error : ExceptT ε (StateM σ) α) :=
  fun _ => rfl

theorem get : Leaves view (get : ExceptT ε (StateM σ) σ) :=
  fun _ => rfl

theorem modify {f : σ → σ} (same : ∀ state, view (f state) = view state)
    : Leaves view (modify f : ExceptT ε (StateM σ) Unit) :=
  same

theorem liftExcept (result : Except ε α)
    : Leaves view (liftExcept result : ExceptT ε (StateM σ) α) :=
  fun state => by rw [perform_liftExcept]

theorem bind {next : α → ExceptT ε (StateM σ) β} (first : Leaves view program)
    (rest : ∀ value, Leaves view (next value))
    : Leaves view (program >>= next) := by
  intro state
  have here := first state
  rw [perform_bind]
  match ran : perform program state with
  | (.ok value, middle) =>
      rw [ran] at here
      exact (rest value middle).trans here
  | (.error error, middle) =>
      rw [ran] at here
      exact here

theorem ite {p : Prop} [Decidable p] {other : ExceptT ε (StateM σ) α}
    (yes : Leaves view program) (no : Leaves view other)
    : Leaves view (if p then program else other) := by
  split <;> assumption

/-- What a view shows of a view is left with it. -/
theorem coarser {δ : Type} (leaves : Leaves view program) (other : γ → δ)
    : Leaves (fun state => other (view state)) program :=
  fun state => congrArg other (leaves state)

/-- What a program leaves is as before where it ends. -/
theorem ends (leaves : Leaves view program) (state : σ)
    : Ends program state (fun _ last => view last = view state)
        fun _ last => view last = view state := by
  have here := leaves state
  unfold Ends
  match ran : perform program state with
  | (.ok value, last) => rwa [ran] at here
  | (.error error, last) => rwa [ran] at here

end Leaves

end CtxRemote.Library
