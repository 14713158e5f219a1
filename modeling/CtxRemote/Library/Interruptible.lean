import Mathlib.Logic.Function.Basic
import Mathlib.Data.List.Nodup

/-! Programs that work on a state that outlives them. Every operation may fail, and the process may die
before any of them. A program is the list of all its runs, each with its ending and the state it
leaves, and `Ensures` is what holds after every run.
-/

namespace CtxRemote.Library

/-- How a run ends: the process died, or it returned an error or a value. -/
inductive Ending (ε α : Type) where
  | died
  | failed (error : ε)
  | done (value : α)
deriving DecidableEq

/-- All runs from a state. -/
def Interruptible (σ ε α : Type) := σ → List (Ending ε α × σ)

namespace Interruptible

variable {σ τ ε α β κ : Type}

-----------------------------------------------------------------------------------------
-- Programs
-----------------------------------------------------------------------------------------

instance : Monad (Interruptible σ ε) where
  pure value state := [(.done value, state)]
  bind program next state :=
    (program state).flatMap fun
      | (.died, middle) => [(.died, middle)]
      | (.failed error, middle) => [(.failed error, middle)]
      | (.done value, middle) => next value middle

/-- The state. -/
def read : Interruptible σ ε σ := fun state => [(.done state, state)]

/-- What the program remembers; no operation, so that nothing can fail. -/
def note (f : σ → σ) : Interruptible σ ε Unit := fun state => [(.done (), f state)]

def fail (error : ε) : Interruptible σ ε α := fun state => [(.failed error, state)]

/-- The result of a program as a value. A process that died does not return. -/
def attempt (program : Interruptible σ ε α) : Interruptible σ ε (Except ε α) :=
  fun state =>
    (program state).map fun
      | (.died, final) => (.died, final)
      | (.failed error, final) => (.done (.error error), final)
      | (.done value, final) => (.done (.ok value), final)

/-- An operation that happens whole or not at all; `f` is `none` where it cannot succeed. -/
def operation (error : ε) (f : σ → Option σ) : Interruptible σ ε Unit :=
  fun state =>
    [(.died, state), (.failed error, state)]
      ++ match f state with
        | some final => [(.done (), final)]
        | none => []

/-- An operation that leaves `partly` where it is cut short. -/
def lengthy (error : ε) (partly : σ → σ) (f : σ → Option σ) : Interruptible σ ε Unit :=
  fun state =>
    [(.died, state), (.died, partly state), (.failed error, state), (.failed error, partly state)]
      ++ match f state with
        | some final => [(.done (), final)]
        | none => []

/-- A program on a part of a larger state. -/
def zoom (view : σ → τ) (replace : σ → τ → σ) (program : Interruptible τ ε α)
    : Interruptible σ ε α :=
  fun state => (program (view state)).map fun run => (run.1, replace state run.2)

/-- A program on one member of a family. -/
def member [DecidableEq κ] (key : κ) (program : Interruptible τ ε α)
    : Interruptible (κ → τ) ε α :=
  zoom (fun family => family key) (fun family => Function.update family key) program

/-- Programs on some members, one after the other, up to the first error. -/
def members [DecidableEq κ] (program : κ → Interruptible τ ε Unit)
    : List κ → Interruptible (κ → τ) ε Unit
  | [] => pure ()
  | key :: keys => do
      member key (program key)
      members program keys

/-- The errors of programs on some members that all run, one after the other. -/
def failures [DecidableEq κ] (program : κ → Interruptible τ ε Unit)
    : List κ → Interruptible (κ → τ) ε (List ε)
  | [] => pure []
  | key :: keys => do
      let result ← attempt (member key (program key))
      let others ← failures program keys
      match result with
      | .error error => pure (error :: others)
      | .ok _ => pure others

-----------------------------------------------------------------------------------------
-- What holds after every run
-----------------------------------------------------------------------------------------

/-- Every run that returns a value satisfies `done`, and every other one `cut`: with its error, or with
`none` where the process died.
-/
def Ensures (program : Interruptible σ ε α) (state : σ) (done : α → σ → Prop)
    (cut : Option ε → σ → Prop)
    : Prop :=
  ∀ run ∈ program state,
    match run with
    | (.died, final) => cut none final
    | (.failed error, final) => cut (some error) final
    | (.done value, final) => done value final

section Rules

variable {state : σ} {done : α → σ → Prop} {cut : Option ε → σ → Prop}

@[simp]
theorem ensures_pure {value : α}
    : Ensures (pure value : Interruptible σ ε α) state done cut ↔ done value state := by
  simp [Ensures, pure]

@[simp]
theorem ensures_bind {program : Interruptible σ ε β} {next : β → Interruptible σ ε α}
    : Ensures (program >>= next) state done cut
      ↔ Ensures program state (fun value middle => Ensures (next value) middle done cut) cut := by
  simp only [Ensures, bind, List.mem_flatMap]
  constructor
  · intro all run ran
    rcases run with ⟨_ | error | value, middle⟩
    · exact all (.died, middle) ⟨_, ran, List.mem_singleton_self _⟩
    · exact all (.failed error, middle) ⟨_, ran, List.mem_singleton_self _⟩
    · exact fun final later => all final ⟨_, ran, later⟩
  · rintro all final ⟨⟨_ | error | value, middle⟩, ran, later⟩
    · obtain rfl := List.mem_singleton.mp later
      exact all _ ran
    · obtain rfl := List.mem_singleton.mp later
      exact all _ ran
    · exact all _ ran final later

@[simp]
theorem ensures_read {done : σ → σ → Prop}
    : Ensures (read : Interruptible σ ε σ) state done cut ↔ done state state := by
  simp [Ensures, read]

@[simp]
theorem ensures_note {f : σ → σ} {done : Unit → σ → Prop}
    : Ensures (note f : Interruptible σ ε Unit) state done cut ↔ done () (f state) := by
  simp [Ensures, note]

@[simp]
theorem ensures_fail {error : ε}
    : Ensures (fail error : Interruptible σ ε α) state done cut ↔ cut (some error) state := by
  simp [Ensures, fail]

@[simp]
theorem ensures_ite {condition : Prop} [Decidable condition] {program other : Interruptible σ ε α}
    : Ensures (if condition then program else other) state done cut
      ↔ (condition → Ensures program state done cut) ∧ (¬condition → Ensures other state done cut) := by
  split <;> simp_all

@[simp]
theorem ensures_attempt {program : Interruptible σ ε α} {done : Except ε α → σ → Prop}
    : Ensures (attempt program) state done cut
      ↔ Ensures program state (fun value => done (.ok value))
          (fun ending final =>
            match ending with
            | none => cut none final
            | some error => done (.error error) final) := by
  simp only [Ensures, attempt, List.forall_mem_map]
  refine forall₂_congr fun run _ => ?_
  rcases run with ⟨_ | _ | _, _⟩ <;> rfl

@[simp]
theorem ensures_operation {error : ε} {f : σ → Option σ} {done : Unit → σ → Prop}
    : Ensures (operation error f) state done cut
      ↔ cut none state ∧ cut (some error) state ∧ ∀ final, f state = some final → done () final := by
  cases result : f state <;> simp [Ensures, operation, result]

@[simp]
theorem ensures_lengthy {error : ε} {partly : σ → σ} {f : σ → Option σ} {done : Unit → σ → Prop}
    : Ensures (lengthy error partly f) state done cut
      ↔ cut none state ∧ cut none (partly state) ∧ cut (some error) state
        ∧ cut (some error) (partly state) ∧ ∀ final, f state = some final → done () final := by
  cases result : f state <;> simp [Ensures, lengthy, result]

@[simp]
theorem ensures_zoom {view : σ → τ} {replace : σ → τ → σ} {program : Interruptible τ ε α}
    : Ensures (zoom view replace program) state done cut
      ↔ Ensures program (view state) (fun value part => done value (replace state part))
          (fun ending part => cut ending (replace state part)) := by
  simp only [Ensures, zoom, List.forall_mem_map]
  refine forall₂_congr fun run _ => ?_
  rcases run with ⟨_ | _ | _, _⟩ <;> rfl

theorem Ensures.mono {program : Interruptible σ ε α} {done' : α → σ → Prop}
    {cut' : Option ε → σ → Prop}
    (ensured : Ensures program state done cut)
    (finished : ∀ value final, done value final → done' value final)
    (stopped : ∀ ending final, cut ending final → cut' ending final)
    : Ensures program state done' cut' := by
  intro run ran
  have holds := ensured run ran
  rcases run with ⟨_ | _ | _, _⟩
  · exact stopped _ _ holds
  · exact stopped _ _ holds
  · exact finished _ _ holds

/-- What holds after every run holds after a run that returned. -/
theorem Ensures.of_done {program : Interruptible σ ε α} {value : α} {final : σ}
    (ensured : Ensures program state done cut) (ran : (.done value, final) ∈ program state)
    : done value final :=
  ensured _ ran

/-- A property of the state alone, after every run. -/
theorem Ensures.final {program : Interruptible σ ε α} {kept : σ → Prop}
    {run : Ending ε α × σ}
    (ensured : Ensures program state (fun _ => kept) (fun _ => kept)) (ran : run ∈ program state)
    : kept run.2 := by
  have holds := ensured run ran
  rcases run with ⟨_ | _ | _, _⟩ <;> exact holds

end Rules

-----------------------------------------------------------------------------------------
-- What some run does
-----------------------------------------------------------------------------------------

section Some

/-- Some run returns the value and leaves the state. -/
def Returns (program : Interruptible σ ε α) (state : σ) (value : α) (final : σ) : Prop :=
  (.done value, final) ∈ program state

variable {state final : σ} {value : α}

@[simp]
theorem returns_pure {other : α}
    : Returns (pure other : Interruptible σ ε α) state value final ↔ value = other ∧ final = state := by
  simp [Returns, pure]

@[simp]
theorem returns_bind {program : Interruptible σ ε β} {next : β → Interruptible σ ε α}
    : Returns (program >>= next) state value final
      ↔ ∃ middle other, Returns program state other middle ∧ Returns (next other) middle value final := by
  simp only [Returns, bind, List.mem_flatMap]
  constructor
  · rintro ⟨⟨_ | error | other, middle⟩, ran, later⟩
    · simp at later
    · simp at later
    · exact ⟨middle, other, ran, later⟩
  · exact fun ⟨middle, other, ran, later⟩ => ⟨(.done other, middle), ran, later⟩

@[simp]
theorem returns_read {value : σ}
    : Returns (read : Interruptible σ ε σ) state value final ↔ value = state ∧ final = state := by
  simp [Returns, read]

@[simp]
theorem returns_operation {error : ε} {f : σ → Option σ} {value : Unit}
    : Returns (operation error f) state value final ↔ f state = some final := by
  cases result : f state <;> simp [Returns, operation, result, eq_comm]

/-- A program may die in its second part. -/
theorem Returns.died {program : Interruptible σ ε β} {next : β → Interruptible σ ε α} {other : β}
    {middle : σ} (returns : Returns program state other middle)
    (died : (.died, final) ∈ next other middle)
    : (.died, final) ∈ (program >>= next) state :=
  List.mem_flatMap.mpr ⟨_, returns, died⟩

/-- The error of an operation can be attempted. -/
theorem returns_attempt_operation (error : ε) (f : σ → Option σ) (state : σ)
    : Returns (attempt (operation error f)) state (.error error) state :=
  List.mem_map.mpr ⟨(.failed error, state), by simp [operation], rfl⟩

end Some

-----------------------------------------------------------------------------------------
-- Families
-----------------------------------------------------------------------------------------

section Families

/-- From `pre` the program keeps `rest`, and reaches `done` where it returns. -/
def Handles (pre done rest : τ → Prop) (program : Interruptible τ ε Unit) : Prop :=
  ∀ part, pre part
    → rest part ∧ Ensures program part (fun _ final => done final ∧ rest final) (fun _ => rest)

/-- A family after programs on some of its members: `rest` of these, and the others as they were. -/
def Within (keys : List κ) (rest : κ → τ → Prop) (family final : κ → τ) : Prop :=
  (∀ key ∈ keys, rest key (final key)) ∧ ∀ key ∉ keys, final key = family key

section Within

variable {keys : List κ} {rest rest' : κ → τ → Prop} {family middle final : κ → τ}

theorem Within.trans (first : Within keys rest family middle) (second : Within keys rest' middle final)
    : Within keys rest' family final :=
  ⟨second.1, fun key absent => (second.2 key absent).trans (first.2 key absent)⟩

theorem Within.imp (within : Within keys rest family final)
    (implies : ∀ key ∈ keys, rest key (final key) → rest' key (final key))
    : Within keys rest' family final :=
  ⟨fun key member => implies key member (within.1 key member), within.2⟩

theorem Within.congr {keys' : List κ} (within : Within keys rest family final)
    (same : ∀ key, key ∈ keys ↔ key ∈ keys')
    : Within keys' rest family final :=
  ⟨fun key member => within.1 key ((same key).mpr member),
    fun key absent => within.2 key fun member => absent ((same key).mp member)⟩

end Within

variable [DecidableEq κ] {family : κ → τ} {key : κ} {keys : List κ}

/-- What one member's step adds to what holds of the members after it. -/
private theorem Within.cons {rest : κ → τ → Prop} {part : τ} {final : κ → τ}
    (fresh : key ∉ keys) (kept : rest key part)
    (others : Within keys rest (Function.update family key part) final)
    : Within (key :: keys) rest family final ∧ final key = part := by
  have same : final key = part := by rw [others.2 key fresh, Function.update_self]
  refine ⟨⟨?_, ?_⟩, same⟩
  · intro other member
    rcases List.mem_cons.mp member with rfl | later
    · exact same ▸ kept
    · exact others.1 other later
  · intro other absent
    obtain ⟨different, later⟩ := not_or.mp (fun either => absent (List.mem_cons.mpr either))
    rw [others.2 other later, Function.update_of_ne different]

section Loops

variable {pre done rest : κ → τ → Prop} {program : κ → Interruptible τ ε Unit}

private theorem untouched (fresh : key ∉ keys) (start : ∀ other ∈ keys, pre other (family other))
    (part : τ)
    : ∀ other ∈ keys, pre other (Function.update family key part other) := by
  intro other later
  rw [Function.update_of_ne (ne_of_mem_of_not_mem later fresh)]
  exact start other later

/-- A family whose first member stopped, before any of the others began. -/
private theorem within_of_first (fresh : key ∉ keys)
    (handles : ∀ other ∈ keys, Handles (pre other) (done other) (rest other) (program other))
    (start : ∀ other ∈ keys, pre other (family other)) {part : τ} (kept : rest key part)
    : Within (key :: keys) rest family (Function.update family key part) := by
  have waiting
      : Within keys rest (Function.update family key part) (Function.update family key part) :=
    ⟨fun other later => (handles other later _ (untouched fresh start part other later)).1,
      fun _ _ => rfl⟩
  exact (waiting.cons fresh kept).1

/-- A loop over members. Witness: by induction on the members, the ones after the first are as they were
when its program returns.
-/
theorem ensures_members (unique : keys.Nodup)
    (handles : ∀ key ∈ keys, Handles (pre key) (done key) (rest key) (program key))
    (start : ∀ key ∈ keys, pre key (family key))
    : Ensures (members program keys) family
        (fun _ final => Within keys rest family final ∧ ∀ key ∈ keys, done key (final key))
        (fun _ final => Within keys rest family final) := by
  induction keys generalizing family with
  | nil => simp [members, Within]
  | cons key keys ih =>
      obtain ⟨fresh, unique⟩ := List.nodup_cons.mp unique
      obtain ⟨startsHere, starts⟩ := List.forall_mem_cons.mp start
      obtain ⟨handlesHere, handles⟩ := List.forall_mem_cons.mp handles
      rw [members, ensures_bind, member, ensures_zoom]
      refine ((handlesHere _ startsHere).2).mono ?_ ?_
      · rintro - part ⟨finished, kept⟩
        refine (ih unique handles (untouched fresh starts part)).mono ?_ ?_
        · rintro - final ⟨within, all⟩
          obtain ⟨wider, same⟩ := within.cons fresh kept
          exact ⟨wider, List.forall_mem_cons.mpr ⟨same ▸ finished, all⟩⟩
        · exact fun _ final within => (within.cons fresh kept).1
      · exact fun _ part kept => within_of_first fresh handles starts kept

/-- Programs that all run. Witness: as for the loop, where an error of the first is among the results. -/
theorem ensures_failures (unique : keys.Nodup)
    (handles : ∀ key ∈ keys, Handles (pre key) (done key) (rest key) (program key))
    (start : ∀ key ∈ keys, pre key (family key))
    : Ensures (failures program keys) family
        (fun errors final =>
          Within keys rest family final ∧ (errors = [] → ∀ key ∈ keys, done key (final key)))
        (fun _ final => Within keys rest family final) := by
  induction keys generalizing family with
  | nil => simp [failures, Within]
  | cons key keys ih =>
      obtain ⟨fresh, unique⟩ := List.nodup_cons.mp unique
      obtain ⟨startsHere, starts⟩ := List.forall_mem_cons.mp start
      obtain ⟨handlesHere, handles⟩ := List.forall_mem_cons.mp handles
      simp only [failures, ensures_bind, ensures_attempt, member, ensures_zoom]
      refine ((handlesHere _ startsHere).2).mono ?_ ?_
      · rintro - part ⟨finished, kept⟩
        refine (ih unique handles (untouched fresh starts part)).mono ?_ ?_
        · rintro errors final ⟨within, all⟩
          obtain ⟨wider, same⟩ := within.cons fresh kept
          exact ensures_pure.mpr
            ⟨wider, fun none => List.forall_mem_cons.mpr ⟨same ▸ finished, all none⟩⟩
        · exact fun _ final within => (within.cons fresh kept).1
      · rintro (_ | error) part kept
        · exact within_of_first fresh handles starts kept
        · refine (ih unique handles (untouched fresh starts part)).mono ?_ ?_
          · rintro errors final ⟨within, -⟩
            exact ensures_pure.mpr
              ⟨(within.cons fresh kept).1, fun none => absurd none (List.cons_ne_nil _ _)⟩
          · exact fun _ final within => (within.cons fresh kept).1

end Loops

end Families

end Interruptible
end CtxRemote.Library
