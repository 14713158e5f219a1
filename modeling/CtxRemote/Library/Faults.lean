import CtxRemote.Library.Interruptible
import CtxRemote.Library.Outcomes

/-! A program with a state that may stop at an error, and the same program with operations that may
fail: what nothing fails in is one of its runs, and a run that returns is what nothing failed in.
-/

namespace CtxRemote.Library

variable {σ τ ε ε' α β : Type}

/-- The ending of a program in which nothing failed. -/
def Ending.ofExcept : Except ε α → Ending ε α
  | .ok value => .done value
  | .error error => .failed error

namespace Interruptible

-----------------------------------------------------------------------------------------
-- Runs in which nothing fails
-----------------------------------------------------------------------------------------

/-- What the plain program does is a run. -/
def Follows (program : Interruptible σ ε α) (plain : ExceptT ε (StateM σ) α) : Prop :=
  ∀ state, (Ending.ofExcept (perform plain state).1, (perform plain state).2) ∈ program state

namespace Follows

variable {program : Interruptible σ ε α} {plain : ExceptT ε (StateM σ) α}
  {next : α → Interruptible σ ε β} {plainNext : α → ExceptT ε (StateM σ) β}

theorem failed (follows : Follows program plain) {state final : σ} {error : ε}
    (stopped : perform plain state = (.error error, final))
    : (.failed error, final) ∈ program state := by
  have here := follows state
  rwa [stopped] at here

protected theorem pure (value : α)
    : Follows (pure value : Interruptible σ ε α) (pure value) :=
  fun _ => List.mem_singleton_self _

protected theorem get : Follows (read : Interruptible σ ε σ) get :=
  fun _ => List.mem_singleton_self _

protected theorem modify (f : σ → σ) : Follows (note f : Interruptible σ ε Unit) (modify f) :=
  fun _ => List.mem_singleton_self _

protected theorem bind (first : Follows program plain)
    (rest : ∀ value, Follows (next value) (plainNext value))
    : Follows (program >>= next) (plain >>= plainNext) := by
  intro state
  have here := first state
  rw [perform_bind]
  match ran : perform plain state with
  | (.ok value, middle) =>
      rw [ran] at here
      exact List.mem_flatMap.mpr ⟨_, here, rest value middle⟩
  | (.error error, middle) =>
      rw [ran] at here
      exact List.mem_flatMap.mpr ⟨_, here, List.mem_singleton_self _⟩

protected theorem ite {p : Prop} [Decidable p] {other : Interruptible σ ε α}
    {plainOther : ExceptT ε (StateM σ) α} (yes : Follows program plain)
    (no : Follows other plainOther)
    : Follows (if p then program else other) (if p then plain else plainOther) := by
  split <;> assumption

/-- Loops, by induction on the elements. -/
protected theorem forM {act : α → Interruptible σ ε Unit} {plainAct : α → ExceptT ε (StateM σ) Unit}
    {xs : List α} (steps : ∀ x ∈ xs, Follows (act x) (plainAct x))
    : Follows (xs.forM act) (xs.forM plainAct) := by
  induction xs with
  | nil => exact .pure ()
  | cons x xs ih =>
      obtain ⟨here, later⟩ := List.forall_mem_cons.mp steps
      exact here.bind fun _ => ih later

end Follows

/-- A run of the second part follows a first part that returns. -/
theorem Returns.then {program : Interruptible σ ε α} {next : α → Interruptible σ ε β} {state middle : σ}
    {value : α} (returns : Returns program state value middle) {run : Ending ε β × σ}
    (later : run ∈ next value middle)
    : run ∈ (program >>= next) state := by
  rcases run with ⟨_ | _ | _, _⟩ <;> exact List.mem_flatMap.mpr ⟨_, returns, later⟩

/-- The result of a run in which nothing failed is attempted. -/
theorem returns_attempt {program : Interruptible σ ε α} {state final : σ} {result : Except ε α}
    (ran : (Ending.ofExcept result, final) ∈ program state)
    : Returns (attempt program) state result final := by
  cases result <;> exact List.mem_map.mpr ⟨_, ran, rfl⟩

/-- An operation may fail, whatever follows it. -/
theorem failed_operation (error : ε) (f : σ → Option σ) (next : Unit → Interruptible σ ε β) (state : σ)
    : (.failed error, state) ∈ (operation error f >>= next) state :=
  List.mem_flatMap.mpr ⟨(.failed error, state), by simp [operation], List.mem_singleton_self _⟩

/-- An error of the first part ends the sequence. -/
theorem failed_bind {program : Interruptible σ ε α} {next : α → Interruptible σ ε β} {state final : σ}
    {error : ε} (ran : (.failed error, final) ∈ program state)
    : (.failed error, final) ∈ (program >>= next) state :=
  List.mem_flatMap.mpr ⟨_, ran, List.mem_singleton_self _⟩

-----------------------------------------------------------------------------------------
-- Runs that return
-----------------------------------------------------------------------------------------

/-- A run that returns does what the plain program does, and every other one satisfies `cut`. -/
def Tracks (program : Interruptible σ ε α) (plain : ExceptT ε (StateM σ) α) (state : σ)
    (cut : σ → Prop)
    : Prop :=
  Ensures program state (fun value final => perform plain state = (.ok value, final)) fun _ => cut

namespace Tracks

variable {program : Interruptible σ ε α} {plain : ExceptT ε (StateM σ) α}
  {next : α → Interruptible σ ε β} {plainNext : α → ExceptT ε (StateM σ) β} {state : σ}
  {cut : σ → Prop}

protected theorem pure (value : α)
    : Tracks (pure value : Interruptible σ ε α) (pure value) state cut :=
  ensures_pure.mpr rfl

protected theorem get_bind {next : σ → Interruptible σ ε β} {plainNext : σ → ExceptT ε (StateM σ) β}
    (rest : Tracks (next state) (plainNext state) state cut)
    : Tracks (read >>= next) (get >>= plainNext) state cut := by
  unfold Tracks
  rw [ensures_bind, ensures_read, perform_bind, perform_get]
  exact rest

protected theorem modify_bind {f : σ → σ} {next : Unit → Interruptible σ ε β}
    {plainNext : Unit → ExceptT ε (StateM σ) β}
    (rest : Tracks (next ()) (plainNext ()) (f state) cut)
    : Tracks (note f >>= next) (modify f >>= plainNext) state cut := by
  unfold Tracks
  rw [ensures_bind, ensures_note, perform_bind, perform_modify]
  exact rest

/-- A sequence, whose second part starts where the first one leaves it. -/
protected theorem bind (first : Tracks program plain state cut)
    (rest
      : ∀ value middle, perform plain state = (.ok value, middle)
        → Tracks (next value) (plainNext value) middle cut)
    : Tracks (program >>= next) (plain >>= plainNext) state cut := by
  unfold Tracks
  rw [ensures_bind]
  refine Ensures.mono first (fun value middle ran => ?_) (fun _ _ stopped => stopped)
  refine Ensures.mono (rest value middle ran) (fun last final later => ?_) (fun _ _ stopped => stopped)
  rw [perform_bind, ran]
  exact later

/-- What nothing fails in ends as the runs that return do, or as the other ones. -/
theorem ends (tracks : Tracks program plain state cut) (follows : Follows program plain)
    {returns : α → σ → Prop}
    (after : ∀ value final, perform plain state = (.ok value, final) → returns value final)
    : Ends plain state returns fun _ => cut := by
  unfold Ends
  split
  next value final ran => exact after value final ran
  next error final stopped => exact tracks _ (follows.failed stopped)

/-- A loop whose steps keep an invariant, by induction on the elements. -/
protected theorem forM {act : α → Interruptible σ ε Unit} {plainAct : α → ExceptT ε (StateM σ) Unit}
    {kept : σ → Prop} {xs : List α}
    (steps : ∀ x ∈ xs, ∀ state, kept state → Tracks (act x) (plainAct x) state cut)
    (keeps
      : ∀ x ∈ xs, ∀ state, kept state → ∀ next, perform (plainAct x) state = (.ok (), next) → kept next)
    (initial : kept state)
    : Tracks (xs.forM act) (xs.forM plainAct) state cut := by
  induction xs generalizing state with
  | nil => exact .pure ()
  | cons x xs ih =>
      obtain ⟨here, later⟩ := List.forall_mem_cons.mp steps
      obtain ⟨keepsHere, keepsLater⟩ := List.forall_mem_cons.mp keeps
      exact (here state initial).bind fun _ middle ran =>
        ih later keepsLater (keepsHere state initial middle ran)

end Tracks

-----------------------------------------------------------------------------------------
-- Errors
-----------------------------------------------------------------------------------------

/-- A program whose errors are shown as others. -/
def mapError (f : ε → ε') (program : Interruptible σ ε α) : Interruptible σ ε' α :=
  fun state =>
    (program state).map fun
      | (.died, final) => (.died, final)
      | (.failed error, final) => (.failed (f error), final)
      | (.done value, final) => (.done value, final)

@[simp]
theorem ensures_mapError {f : ε → ε'} {program : Interruptible σ ε α} {state : σ}
    {done : α → σ → Prop} {cut : Option ε' → σ → Prop}
    : Ensures (mapError f program) state done cut
      ↔ Ensures program state done fun ending => cut (ending.map f) := by
  simp only [Ensures, mapError, List.forall_mem_map]
  refine forall₂_congr fun run _ => ?_
  rcases run with ⟨_ | _ | _, _⟩ <;> rfl

theorem Returns.mapError {f : ε → ε'} {program : Interruptible σ ε α} {state final : σ} {value : α}
    (returns : Returns program state value final)
    : Returns (mapError f program) state value final :=
  List.mem_map.mpr ⟨_, returns, rfl⟩

theorem failed_mapError {f : ε → ε'} {program : Interruptible σ ε α} {state final : σ} {error : ε}
    (ran : (.failed error, final) ∈ program state)
    : (.failed (f error), final) ∈ mapError f program state :=
  List.mem_map.mpr ⟨_, ran, rfl⟩

end Interruptible

end CtxRemote.Library
