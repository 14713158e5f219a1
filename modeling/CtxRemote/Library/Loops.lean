import Mathlib.Data.List.Forall2
import Mathlib.Data.List.Basic
import Mathlib.Data.List.Flatten

/-! Programs with a state that may stop at an error, and their loops. Over a log, `emitted` is
what a loop appends before it stops, and `emitted_eq_flatMap_iff` says when the error costs it
nothing.
-/

namespace CtxRemote.Library

-----------------------------------------------------------------------------------------
-- Running a program
-----------------------------------------------------------------------------------------

section Programs

variable {ε σ α β : Type}

/-- The result of a program and the state it leaves, also where it stops at an error. -/
def perform (program : ExceptT ε (StateM σ) α) (state : σ) : Except ε α × σ :=
  program.run.run state

@[simp]
theorem perform_pure (value : α) (state : σ)
    : perform (pure value : ExceptT ε (StateM σ) α) state = (.ok value, state) :=
  rfl

@[simp]
theorem perform_liftExcept (result : Except ε α) (state : σ)
    : perform (liftExcept result) state = (result, state) := by
  cases result <;> rfl

@[simp]
theorem perform_modify (f : σ → σ) (state : σ)
    : perform (modify f : ExceptT ε (StateM σ) Unit) state = (.ok (), f state) :=
  rfl

@[simp]
theorem perform_get (state : σ)
    : perform (get : ExceptT ε (StateM σ) σ) state = (.ok state, state) :=
  rfl

theorem perform_bind (program : ExceptT ε (StateM σ) α) (next : α → ExceptT ε (StateM σ) β)
    (state : σ)
    : perform (program >>= next) state
      = match perform program state with
        | (.ok value, middle) => perform (next value) middle
        | (.error error, middle) => (.error error, middle) := by
  unfold perform ExceptT.run StateT.run
  simp only [bind, ExceptT.bind, ExceptT.mk, StateT.bind, ExceptT.bindCont]
  cases program state with
  | mk result middle => cases result <;> rfl

@[simp]
theorem perform_map (f : α → β) (program : ExceptT ε (StateM σ) α) (state : σ)
    : perform (f <$> program) state
      = ((perform program state).1.map f, (perform program state).2) := by
  rw [map_eq_pure_bind, perform_bind]
  rcases perform program state with ⟨result, middle⟩
  cases result <;> rfl

@[simp]
theorem perform_throw (error : ε) (state : σ)
    : perform (throw error : ExceptT ε (StateM σ) α) state = (.error error, state) :=
  rfl

theorem perform_tryCatch (program : ExceptT ε (StateM σ) α)
    (handler : ε → ExceptT ε (StateM σ) α) (state : σ)
    : perform (tryCatch program handler) state
      = match perform program state with
        | (.ok value, middle) => (.ok value, middle)
        | (.error error, middle) => perform (handler error) middle := by
  unfold perform ExceptT.run StateT.run
  simp only [tryCatch, tryCatchThe, MonadExceptOf.tryCatch, ExceptT.tryCatch, ExceptT.mk,
    bind, StateT.bind]
  cases program state with
  | mk result middle => cases result <;> rfl

/-- A sequence that returns ran both of its parts. -/
theorem perform_bind_eq_ok {program : ExceptT ε (StateM σ) α}
    {next : α → ExceptT ε (StateM σ) β} {state last : σ} {value : β}
    (ran : perform (program >>= next) state = (.ok value, last))
    : ∃ first middle,
        perform program state = (.ok first, middle)
        ∧ perform (next first) middle = (.ok value, last) := by
  rw [perform_bind] at ran
  match first : perform program state with
  | (.ok value, middle) => exact ⟨value, middle, rfl, by rwa [first] at ran⟩
  | (.error error, middle) => simp [first] at ran

theorem forM_cons (act : α → ExceptT ε (StateM σ) Unit) (x : α) (xs : List α)
    : (x :: xs).forM act = act x >>= fun _ => xs.forM act :=
  rfl

/-- Every element that a loop gets to meets `guard` in the state that it is reached in. -/
def AllReached (act : α → ExceptT ε (StateM σ) Unit) (guard : σ → α → Prop) : List α → σ → Prop
  | [], _ => True
  | x :: rest, state =>
      guard state x ∧ ∀ next, perform (act x) state = (.ok (), next) → AllReached act guard rest next

/-- What follows from a guard is met wherever the guard is, by induction on the elements. -/
theorem AllReached.imp {act : α → ExceptT ε (StateM σ) Unit} {guard other : σ → α → Prop}
    (follows : ∀ state x, guard state x → other state x) {xs : List α} {state : σ}
    (reached : AllReached act guard xs state)
    : AllReached act other xs state := by
  induction xs generalizing state with
  | nil => trivial
  | cons x rest ih => exact ⟨follows state x reached.1, fun next went => ih (reached.2 next went)⟩

/-- A loop is checked element by element. -/
instance AllReached.decidable {act : α → ExceptT ε (StateM σ) Unit} {guard : σ → α → Prop}
    [∀ state x, Decidable (guard state x)]
    : ∀ xs state, Decidable (AllReached act guard xs state)
  | [], _ => isTrue trivial
  | x :: rest, state =>
      match ran : perform (act x) state with
      | (.ok (), middle) =>
          have : Decidable (AllReached act guard rest middle) := AllReached.decidable rest middle
          decidable_of_iff (guard state x ∧ AllReached act guard rest middle)
            ⟨fun ⟨here, later⟩ => ⟨here, fun next went => by
                rw [ran] at went
                cases went
                exact later⟩,
              fun ⟨here, later⟩ => ⟨here, later middle ran⟩⟩
      | (.error _, _) =>
          decidable_of_iff (guard state x)
            ⟨fun here => ⟨here, fun next went => by
                rw [ran] at went
                cases went⟩,
              And.left⟩

/-- Loops whose steps do the same at every element that one of them gets to do the same. -/
theorem perform_forM_congr {act other : α → ExceptT ε (StateM σ) Unit} {guard : σ → α → Prop}
    {xs : List α} {state : σ}
    (same : ∀ x ∈ xs, ∀ state, guard state x → perform (act x) state = perform (other x) state)
    (reached : AllReached act guard xs state)
    : perform (xs.forM act) state = perform (xs.forM other) state := by
  induction xs generalizing state with
  | nil => rfl
  | cons x rest ih =>
      obtain ⟨meets, later⟩ := reached
      have here := same x List.mem_cons_self state meets
      rw [forM_cons, forM_cons, perform_bind, perform_bind, ← here]
      match first : perform (act x) state with
      | (.error error, middle) => rfl
      | (.ok (), middle) =>
          exact ih (fun y member => same y (List.mem_cons_of_mem _ member)) (later middle first)

/-- The elements that `test` keeps, tested in order. -/
def selectM (test : α → ExceptT ε (StateM σ) Bool) (xs : List α)
    : ExceptT ε (StateM σ) (List α) := do
  let tested ← xs.mapM fun x => do return if ← test x then some x else none
  return tested.filterMap id

/-- A loop of steps that succeed folds what they do to the state. -/
theorem perform_mapM {act : α → ExceptT ε (StateM σ) β} {update : σ → α → σ} (xs : List α)
    (steps
      : ∀ x ∈ xs, ∀ state, ∃ value, perform (act x) state = (.ok value, update state x))
    (state : σ)
    : ∃ values, perform (xs.mapM act) state = (.ok values, xs.foldl update state) := by
  induction xs generalizing state with
  | nil => exact ⟨[], rfl⟩
  | cons x rest ih =>
      obtain ⟨value, first⟩ := steps x (by simp) state
      obtain ⟨values, later⟩ := ih (fun y member => steps y (by simp [member])) (update state x)
      exact ⟨value :: values, by
        simp only [List.mapM_cons, perform_bind, first, later, perform_pure, List.foldl_cons]⟩

/-- A selection whose tests only read the state. -/
theorem perform_selectM {test : α → ExceptT ε (StateM σ) Bool} {keep : α → Bool} {state : σ}
    (xs : List α) (reads : ∀ x ∈ xs, perform (test x) state = (.ok (keep x), state))
    : perform (selectM test xs) state = (.ok (xs.filter keep), state) := by
  have tested
      : perform (xs.mapM fun x => do return if ← test x then some x else none) state
        = (.ok (xs.map fun x => if keep x then some x else none), state) := by
    induction xs with
    | nil => rfl
    | cons x rest ih =>
        have later := ih fun y member => reads y (by simp [member])
        simp only [List.mapM_cons, perform_bind, reads x (by simp), perform_pure, later,
          List.map_cons]
  have kept : (xs.filterMap fun x => if keep x then some x else none) = xs.filter keep :=
    congrFun List.filterMap_eq_filter xs
  rw [selectM, perform_bind, tested]
  simp [kept]

/-- The selection from a single element, whose test may change the state. -/
theorem perform_selectM_singleton {test : α → ExceptT ε (StateM σ) Bool} {x : α}
    {state next : σ} {kept : Bool} (tested : perform (test x) state = (.ok kept, next))
    : perform (selectM test [x]) state = (.ok (if kept then [x] else []), next) := by
  simp only [selectM, List.mapM_cons, List.mapM_nil, perform_bind, tested, perform_pure]
  cases kept <;> rfl

theorem perform_mapM_singleton {act : α → ExceptT ε (StateM σ) β} {x : α} {state next : σ}
    {value : β} (acted : perform (act x) state = (.ok value, next))
    : perform ([x].mapM act) state = (.ok [value], next) := by
  simp only [List.mapM_cons, List.mapM_nil, perform_bind, acted, perform_pure]

end Programs

-----------------------------------------------------------------------------------------
-- Programs that append to a log
-----------------------------------------------------------------------------------------

section Logs

variable {ε ω α β : Type}

/-- The program appends `out` to every log and returns `value`. -/
def Returns (program : ExceptT ε (StateM (List ω)) α) (out : List ω) (value : α) : Prop :=
  ∀ log, perform program log = (.ok value, log ++ out)

/-- The program appends `out` to every log and raises an error. -/
def Raises (program : ExceptT ε (StateM (List ω)) α) (out : List ω) : Prop :=
  ∀ log, ∃ error, perform program log = (.error error, log ++ out)

/-- The program appends `out` to every log, and raises an error just if `raises` holds. -/
def Emits (program : ExceptT ε (StateM (List ω)) α) (out : List ω) (raises : Prop) : Prop :=
  raises ∧ Raises program out ∨ ¬raises ∧ ∃ value, Returns program out value

theorem Returns.pure (value : α)
    : Returns (pure value : ExceptT ε (StateM (List ω)) α) [] value := by
  intro log
  rw [perform_pure, List.append_nil]

theorem Returns.bind {program : ExceptT ε (StateM (List ω)) α}
    {next : α → ExceptT ε (StateM (List ω)) β} {out rest : List ω} {value : α} {last : β}
    (first : Returns program out value) (second : Returns (next value) rest last)
    : Returns (program >>= next) (out ++ rest) last := by
  intro log
  simp only [perform_bind, first log, second (log ++ out), List.append_assoc]

theorem Returns.bind_raises {program : ExceptT ε (StateM (List ω)) α}
    {next : α → ExceptT ε (StateM (List ω)) β} {out rest : List ω} {value : α}
    (first : Returns program out value) (second : Raises (next value) rest)
    : Raises (program >>= next) (out ++ rest) := by
  intro log
  obtain ⟨error, stopped⟩ := second (log ++ out)
  exact ⟨error, by simp only [perform_bind, first log, stopped, List.append_assoc]⟩

theorem Raises.bind {program : ExceptT ε (StateM (List ω)) α}
    {next : α → ExceptT ε (StateM (List ω)) β} {out : List ω}
    (first : Raises program out)
    : Raises (program >>= next) out := by
  intro log
  obtain ⟨error, stopped⟩ := first log
  exact ⟨error, by simp only [perform_bind, stopped]⟩

/-- A program followed by one that emits. -/
theorem Returns.bind_emits {program : ExceptT ε (StateM (List ω)) α}
    {next : α → ExceptT ε (StateM (List ω)) β} {out rest : List ω} {value : α} {raises : Prop}
    (first : Returns program out value) (second : Emits (next value) rest raises)
    : Emits (program >>= next) (out ++ rest) raises := by
  rcases second with ⟨raised, stopped⟩ | ⟨quiet, last, returned⟩
  · exact .inl ⟨raised, first.bind_raises stopped⟩
  · exact .inr ⟨quiet, last, first.bind returned⟩

/-- The emission of an error. -/
theorem Raises.emits {program : ExceptT ε (StateM (List ω)) α} {out : List ω} {raises : Prop}
    (stopped : Raises program out) (raised : raises)
    : Emits program out raises :=
  .inl ⟨raised, stopped⟩

theorem Returns.emits {program : ExceptT ε (StateM (List ω)) α} {out : List ω} {value : α}
    {raises : Prop} (returned : Returns program out value) (quiet : ¬raises)
    : Emits program out raises :=
  .inr ⟨quiet, value, returned⟩

theorem Returns.liftExcept (value : α)
    : Returns (liftExcept (.ok value : Except ε α) : ExceptT ε (StateM (List ω)) α) [] value := by
  intro log
  rw [perform_liftExcept, List.append_nil]

theorem Raises.liftExcept (error : ε)
    : Raises (liftExcept (.error error : Except ε α) : ExceptT ε (StateM (List ω)) α) [] := by
  intro log
  exact ⟨error, by rw [perform_liftExcept, List.append_nil]⟩

/-- What is done with the value of a program emits nothing. -/
theorem Emits.bind_pure {program : ExceptT ε (StateM (List ω)) α} {out : List ω}
    {raises : Prop} (emits : Emits program out raises) (result : α → β)
    : Emits (program >>= fun value => pure (result value)) out raises := by
  rcases emits with ⟨raised, stopped⟩ | ⟨quiet, value, returned⟩
  · exact stopped.bind.emits raised
  · have ended
        : Returns (program >>= fun value => pure (result value)) (out ++ []) (result value) :=
      returned.bind (Returns.pure _)
    rw [List.append_nil] at ended
    exact ended.emits quiet

/-- A program behind one that emits, unless that one raises. -/
theorem Emits.bind_unit {program : ExceptT ε (StateM (List ω)) α}
    {next : α → ExceptT ε (StateM (List ω)) β} {out rest : List ω} {raises raises' : Prop}
    [Decidable raises] (first : Emits program out raises)
    (second : ∀ value, Emits (next value) rest raises')
    : Emits (program >>= next) (out ++ if raises then [] else rest) (raises ∨ raises') := by
  rcases first with ⟨raised, stopped⟩ | ⟨quiet, value, returned⟩
  · rw [if_pos raised, List.append_nil]
    exact stopped.bind.emits (.inl raised)
  · rw [if_neg quiet]
    rcases second value with ⟨raised, stopped⟩ | ⟨quiet', last, went⟩
    · exact (returned.bind_raises stopped).emits (.inr raised)
    · exact (returned.bind went).emits (by rintro (raised | raised) <;> contradiction)

theorem Emits.congr {program : ExceptT ε (StateM (List ω)) α} {out out' : List ω}
    {raises raises' : Prop} (emits : Emits program out raises) (same : out = out')
    (equivalent : raises ↔ raises')
    : Emits program out' raises' := by
  subst same
  unfold Emits
  rw [← equivalent]
  exact emits

/-- A run that starts at the empty log leaves what the program emits. -/
theorem Emits.log {program : ExceptT ε (StateM (List ω)) α} {out : List ω} {raises : Prop}
    (emits : Emits program out raises)
    : (perform program []).2 = out := by
  rcases emits with ⟨_, stopped⟩ | ⟨_, value, returned⟩
  · obtain ⟨error, ran⟩ := stopped []
    simp [ran]
  · simp [returned []]

end Logs

-----------------------------------------------------------------------------------------
-- Loops
-----------------------------------------------------------------------------------------

section Loops

variable {ε ω α β : Type}

/-- What a loop over `xs` appends that stops after the first element that raises. -/
def emitted (entries : α → List ω) (raises : α → Prop) [DecidablePred raises]
    : List α → List ω
  | [] => []
  | x :: rest => if raises x then entries x else entries x ++ emitted entries raises rest

/-- A loop emits what its steps emit up to the first error. -/
theorem Emits.mapM {act : α → ExceptT ε (StateM (List ω)) β} {entries : α → List ω}
    {raises : α → Prop} [DecidablePred raises] (xs : List α)
    (steps : ∀ x ∈ xs, Emits (act x) (entries x) (raises x))
    : Emits (xs.mapM act) (emitted entries raises xs) (∃ x ∈ xs, raises x) := by
  induction xs with
  | nil => exact .inr ⟨by simp, [], Returns.pure []⟩
  | cons x rest ih =>
      rw [List.mapM_cons]
      rcases steps x (by simp) with ⟨raised, stopped⟩ | ⟨quiet, value, returned⟩
      · simp only [emitted, if_pos raised]
        exact stopped.bind.emits ⟨x, by simp, raised⟩
      · simp only [emitted, if_neg quiet]
        rcases ih fun y member => steps y (by simp [member]) with
          ⟨⟨y, member, raised⟩, stopped⟩ | ⟨none, values, went⟩
        · exact (returned.bind_raises stopped.bind).emits ⟨y, by simp [member], raised⟩
        · have ended
              : Returns (rest.mapM act >>= fun values => pure (value :: values))
                  (emitted entries raises rest ++ []) (value :: values) :=
            went.bind (Returns.pure _)
          rw [List.append_nil] at ended
          refine (returned.bind ended).emits ?_
          rintro ⟨y, member, raised⟩
          rcases List.mem_cons.mp member with rfl | member
          · exact quiet raised
          · exact none ⟨y, member, raised⟩

theorem selectM_returns {test : α → Except ε Bool} {keep : α → Bool} {xs : List α}
    (decided : ∀ x ∈ xs, test x = .ok (keep x))
    : Returns (selectM (fun x => (liftExcept (test x) : ExceptT ε (StateM (List ω)) Bool)) xs)
        [] (xs.filter keep) := by
  intro log
  rw [List.append_nil]
  exact perform_selectM xs fun x member => by rw [perform_liftExcept, decided x member]

theorem selectM_raises {test : α → Except ε Bool} {xs : List α} {x : α} (member : x ∈ xs)
    (undecided : (test x).isOk = false)
    : Raises (selectM (fun x => (liftExcept (test x) : ExceptT ε (StateM (List ω)) Bool)) xs)
        [] := by
  have steps
      : ∀ y ∈ xs,
          Emits (do return if ← liftExcept (test y) then some y else none
            : ExceptT ε (StateM (List ω)) (Option α)) [] ((test y).isOk = false) := by
    intro y _
    cases found : test y with
    | ok kept =>
        exact .inr
          ⟨by simp [Except.isOk, Except.toBool], if kept then some y else none,
            fun log => by simp [Except.map]⟩
    | error error => exact .inl ⟨rfl, fun log => ⟨error, by simp [Except.map]⟩⟩
  have silent : emitted (fun _ => []) (fun y => (test y).isOk = false) xs = ([] : List ω) := by
    clear steps member
    induction xs with
    | nil => rfl
    | cons y rest ih => simp [emitted, ih]
  rcases Emits.mapM xs steps with ⟨_, stopped⟩ | ⟨none, _⟩
  · rw [silent] at stopped
    exact stopped.bind
  · exact absurd ⟨x, member, undecided⟩ none

/-- A loop of computations that all succeed. -/
theorem mapM_ok {f : α → Except ε β} {xs : List α} (succeed : ∀ x ∈ xs, (f x).isOk)
    : xs.mapM f = .ok (xs.filterMap fun x => (f x).toOption) := by
  induction xs with
  | nil => rfl
  | cons x rest ih =>
      have first := succeed x (by simp)
      rw [List.mapM_cons, ih fun y member => succeed y (by simp [member])]
      cases found : f x with
      | error _ => simp [found, Except.isOk, Except.toBool] at first
      | ok value => simp [found, Except.toOption]; rfl

/-- A loop of computations of which one fails. -/
theorem mapM_error {f : α → Except ε β} {xs : List α} {x : α} (member : x ∈ xs)
    (fails : (f x).isOk = false)
    : (xs.mapM f).isOk = false := by
  induction xs with
  | nil => simp at member
  | cons y rest ih =>
      rw [List.mapM_cons]
      cases first : f y with
      | error error => rfl
      | ok value =>
          rcases List.mem_cons.mp member with rfl | member
          · rw [first] at fails
            exact absurd fails (by simp [Except.isOk, Except.toBool])
          · have later := ih member
            cases went : rest.mapM f with
            | error error => rfl
            | ok values =>
                rw [went] at later
                exact absurd later (by simp [Except.isOk, Except.toBool])

/-- The elements of a loop may be named by what its steps read of them. -/
theorem emitted_map {entries : β → List ω} {raises : β → Prop} [DecidablePred raises]
    (name : α → β) (xs : List α)
    : emitted (fun x => entries (name x)) (fun x => raises (name x)) xs
      = emitted entries raises (xs.map name) := by
  induction xs with
  | nil => rfl
  | cons x rest ih => simp only [emitted, List.map_cons, ih]

/-- What a loop emits up to its first error is part of what was expected of all its elements. -/
theorem emitted_sublist {entries expected : α → List ω} {raises : α → Prop}
    [DecidablePred raises] {xs : List α}
    (part : ∀ x ∈ xs, (entries x).Sublist (expected x))
    : (emitted entries raises xs).Sublist (xs.flatMap expected) := by
  induction xs with
  | nil => exact List.Sublist.refl _
  | cons x rest ih =>
      rw [emitted, List.flatMap_cons]
      split
      · exact (part x (by simp)).trans (List.sublist_append_left _ _)
      · exact (part x (by simp)).append (ih fun y member => part y (by simp [member]))

/-- A loop emits all that was expected of its elements just if every element that raises has
emitted its share, and nothing is expected of the elements behind it.
-/
theorem emitted_eq_flatMap_iff {entries expected : α → List ω} {raises : α → Prop}
    [DecidablePred raises] {xs : List α}
    (part : ∀ x ∈ xs, (entries x).Sublist (expected x))
    (whole : ∀ x ∈ xs, ¬raises x → entries x = expected x)
    : emitted entries raises xs = xs.flatMap expected
      ↔ ∀ before x after,
          xs = before ++ x :: after
          → raises x
          → entries x = expected x ∧ ∀ y ∈ after, expected y = [] := by
  induction xs with
  | nil => simp [emitted]
  | cons x rest ih =>
      have ih := ih (fun y member => part y (by simp [member]))
        fun y member => whole y (by simp [member])
      rw [emitted, List.flatMap_cons]
      by_cases raised : raises x
      · rw [if_pos raised]
        constructor
        · intro same
          have short := (part x (by simp)).length_le
          have length := congrArg List.length same
          rw [List.length_append] at length
          have nothing : rest.flatMap expected = [] := List.length_eq_zero_iff.mp (by omega)
          have own : entries x = expected x := by rw [same, nothing, List.append_nil]
          have silent : ∀ y ∈ rest, expected y = [] := List.flatMap_eq_nil_iff.mp nothing
          intro before y after split _
          rcases List.cons_eq_append_iff.mp split with ⟨_, split⟩ | ⟨front, _, split⟩
          · obtain ⟨rfl, rfl⟩ := List.cons.inj split
            exact ⟨own, silent⟩
          · have inside : y ∈ rest := split ▸ by simp
            have quiet : entries y = [] :=
              List.sublist_nil.mp (silent y inside ▸ part y (by simp [inside]))
            refine ⟨quiet.trans (silent y inside).symm, fun z member => silent z ?_⟩
            rw [split]
            simp [member]
        · intro kept
          obtain ⟨own, silent⟩ := kept [] x rest rfl raised
          rw [own, List.flatMap_eq_nil_iff.mpr silent, List.append_nil]
      · rw [if_neg raised, whole x (by simp) raised, List.append_cancel_left_eq, ih]
        constructor
        · intro kept before y after split raisedAt
          rcases List.cons_eq_append_iff.mp split with ⟨_, split⟩ | ⟨front, _, split⟩
          · exact absurd ((List.cons.inj split).1 ▸ raisedAt) raised
          · exact kept front y after split raisedAt
        · intro kept before y after split raisedAt
          exact kept (x :: before) y after (by rw [split]; rfl) raisedAt

end Loops

-----------------------------------------------------------------------------------------
-- Chunks
-----------------------------------------------------------------------------------------

section Chunks

variable {α : Type}

/-- The chunks of a list behind the elements `current` of an open chunk. -/
def chunksFrom (size : Nat) : List α → List α → List (List α)
  | current, [] => if current = [] then [] else [current]
  | current, x :: rest =>
      if size ≤ current.length + 1
      then (current ++ [x]) :: chunksFrom size [] rest
      else chunksFrom size (current ++ [x]) rest

/-- `slice::chunks`. -/
def chunks (size : Nat) (xs : List α) : List (List α) :=
  chunksFrom size [] xs

theorem chunksFrom_flatten (size : Nat) (current xs : List α)
    : (chunksFrom size current xs).flatten = current ++ xs := by
  induction xs generalizing current with
  | nil =>
      rw [chunksFrom]
      split <;> simp [*]
  | cons x rest ih =>
      rw [chunksFrom]
      split
      · rw [List.flatten_cons, ih []]
        simp
      · rw [ih (current ++ [x])]
        simp

@[simp]
theorem chunks_flatten (size : Nat) (xs : List α) : (chunks size xs).flatten = xs :=
  chunksFrom_flatten size [] xs

theorem chunksFrom_one (xs : List α) : chunksFrom 1 [] xs = xs.map fun x => [x] := by
  induction xs with
  | nil => rfl
  | cons x rest ih => simp [chunksFrom, ih]

/-- Chunks of one element. -/
theorem chunks_one (xs : List α) : chunks 1 xs = xs.map fun x => [x] :=
  chunksFrom_one xs

theorem sublist_of_mem_chunks {size : Nat} {xs chunk : List α} (member : chunk ∈ chunks size xs)
    : chunk.Sublist xs := by
  conv => rhs; rw [← chunks_flatten size xs]
  exact List.sublist_flatten_of_mem member

/-- Every element is in a chunk. -/
theorem exists_mem_chunks (size : Nat) {xs : List α} {x : α} (member : x ∈ xs)
    : ∃ chunk ∈ chunks size xs, x ∈ chunk := by
  rw [← chunks_flatten size xs] at member
  exact List.mem_flatten.mp member

end Chunks

section Results

variable {ε α β : Type}

/-- A sequence succeeds when both of its parts do. -/
theorem bind_eq_ok {x : Except ε α} {f : α → Except ε β} {b : β}
    : x >>= f = .ok b ↔ ∃ a, x = .ok a ∧ f a = .ok b := by
  cases x with
  | error _ => exact ⟨nofun, fun ⟨_, impossible, _⟩ => nomatch impossible⟩
  | ok a => exact ⟨fun same => ⟨a, rfl, same⟩, fun ⟨_, rfl, same⟩ => same⟩

/-- A loop without results succeeds when it succeeds at every element. -/
theorem forM_eq_ok {f : α → Except ε Unit} {xs : List α}
    : xs.forM f = .ok () ↔ ∀ x ∈ xs, f x = .ok () := by
  induction xs with
  | nil => exact ⟨fun _ => nofun, fun _ => rfl⟩
  | cons x xs ih =>
      have unfolded : (x :: xs).forM f = (f x >>= fun _ => xs.forM f) := rfl
      rw [unfolded, bind_eq_ok, List.forall_mem_cons, ← ih]
      exact ⟨fun ⟨_, first, rest⟩ => ⟨first, rest⟩, fun ⟨first, rest⟩ => ⟨(), first, rest⟩⟩

/-- A loop with results succeeds when it succeeds at every element, with these results. -/
theorem mapM_eq_ok {f : α → Except ε β} {xs : List α} {ys : List β}
    : xs.mapM f = .ok ys ↔ List.Forall₂ (fun x y => f x = .ok y) xs ys := by
  induction xs generalizing ys with
  | nil =>
      rw [List.mapM_nil, List.forall₂_nil_left_iff]
      exact ⟨fun same => (Except.ok.inj same).symm, fun same => same ▸ rfl⟩
  | cons x xs ih =>
      rw [List.mapM_cons, bind_eq_ok, List.forall₂_cons_left_iff]
      constructor
      · rintro ⟨y, here, rest⟩
        obtain ⟨later, there, same⟩ := bind_eq_ok.mp rest
        exact ⟨y, later, here, ih.mp there, (Except.ok.inj same).symm⟩
      · rintro ⟨y, later, here, there, rfl⟩
        exact ⟨y, here, bind_eq_ok.mpr ⟨later, ih.mpr there, rfl⟩⟩

/-- A loop whose steps may give nothing succeeds when each of them gives its result. -/
theorem mapM_eq_some {f : α → Option β} {xs : List α} {ys : List β}
    : xs.mapM f = some ys ↔ xs.map f = ys.map some := by
  induction xs generalizing ys with
  | nil => cases ys <;> simp
  | cons x xs ih =>
      rw [List.mapM_cons]
      cases here : f x with
      | none => cases ys <;> simp [here]
      | some y => cases ys <;> simp [here, Option.bind_eq_some_iff, ih, and_comm]

/-- Each element of the first list has a partner in the second. -/
theorem exists_partner {related : α → β → Prop} {xs : List α} {ys : List β}
    (partners : List.Forall₂ related xs ys) {x : α} (member : x ∈ xs)
    : ∃ y ∈ ys, related x y := by
  induction partners with
  | nil => cases member
  | @cons first other _ _ here _ ih =>
      rcases List.mem_cons.mp member with rfl | later
      · exact ⟨other, List.mem_cons_self, here⟩
      · obtain ⟨y, inside, there⟩ := ih later
        exact ⟨y, List.mem_cons_of_mem _ inside, there⟩

/-- The pairs of partners are partners of the first list. -/
theorem forall₂_zip_right {related : α → β → Prop} {xs : List α} {ys : List β}
    (partners : List.Forall₂ related xs ys)
    : List.Forall₂ (fun x pair => pair.1 = x ∧ related x pair.2) xs (xs.zip ys) := by
  induction partners with
  | nil => exact .nil
  | cons here _ ih => exact .cons ⟨rfl, here⟩ ih

/-- A loop without results that fails does so with the error of one of its elements. -/
theorem forM_eq_error {f : α → Except ε Unit} {xs : List α} {error : ε}
    (failed : xs.forM f = .error error)
    : ∃ x ∈ xs, f x = .error error := by
  induction xs with
  | nil => cases failed
  | cons x xs ih =>
      have unfolded : (x :: xs).forM f = (f x >>= fun _ => xs.forM f) := rfl
      rw [unfolded] at failed
      cases first : f x with
      | error _ =>
          rw [first] at failed
          cases failed
          exact ⟨x, List.mem_cons_self, first⟩
      | ok _ =>
          rw [first] at failed
          obtain ⟨later, member, same⟩ := ih failed
          exact ⟨later, List.mem_cons_of_mem _ member, same⟩

/-- A loop that fails does so with the error of one of its steps. -/
theorem foldlM_eq_error {f : β → α → Except ε β} {xs : List α} {start : β} {error : ε}
    (failed : xs.foldlM f start = .error error)
    : ∃ x ∈ xs, ∃ state, f state x = .error error := by
  induction xs generalizing start with
  | nil => cases failed
  | cons x xs ih =>
      rw [List.foldlM_cons] at failed
      cases first : f start x with
      | error _ =>
          rw [first] at failed
          cases failed
          exact ⟨x, List.mem_cons_self, start, first⟩
      | ok next =>
          rw [first] at failed
          obtain ⟨later, member, state, same⟩ := ih failed
          exact ⟨later, List.mem_cons_of_mem _ member, state, same⟩

/-- The rule for loops in a monad some of whose programs return: a property that every step that
returns keeps holds after a loop that returns. By induction on the elements.
-/
theorem foldlM_keeps {m : Type → Type} [Monad m] {returns : m β → β → Prop}
    (pure' : ∀ {value last}, returns (pure value) last → value = last)
    (bind' : ∀ {first : m β} {next : β → m β} {last}, returns (first >>= next) last →
      ∃ middle, returns first middle ∧ returns (next middle) last)
    {f : β → α → m β} (good : β → Prop) {xs : List α} {start last : β}
    (done : returns (xs.foldlM f start) last) (initial : good start)
    (preserved : ∀ x ∈ xs, ∀ state next, good state → returns (f state x) next → good next)
    : good last := by
  induction xs generalizing start with
  | nil => exact pure' done ▸ initial
  | cons x xs ih =>
      rw [List.foldlM_cons] at done
      obtain ⟨next, here, later⟩ := bind' done
      exact ih later (preserved x List.mem_cons_self start next initial here)
        fun y member => preserved y (List.mem_cons_of_mem _ member)

/-- A property that every successful step keeps holds after a loop that succeeds. -/
theorem foldlM_invariant {f : β → α → Except ε β} (good : β → Prop) {xs : List α} {start last : β}
    (done : xs.foldlM f start = .ok last) (initial : good start)
    (preserved
      : ∀ x ∈ xs, ∀ state next, good state → f state x = .ok next → good next)
    : good last :=
  @foldlM_keeps _ _ _ _ (fun program last => program = Except.ok last) Except.ok.inj bind_eq_ok.mp _ good
    _ _ _ done initial preserved

/-- The rule for loops whose steps may give nothing. -/
theorem foldlM_invariant_some {f : β → α → Option β} (good : β → Prop) {xs : List α}
    {start last : β} (done : xs.foldlM f start = some last) (initial : good start)
    (preserved
      : ∀ x ∈ xs, ∀ state next, good state → f state x = some next → good next)
    : good last :=
  @foldlM_keeps _ _ _ _ (fun program last => program = some last) Option.some.inj
    Option.bind_eq_some_iff.mp _ good _ _ _ done initial preserved

/-- The same for a property of the elements that the loop has passed. -/
theorem foldlM_passed {f : β → α → Except ε β} (good : List α → β → Prop) {xs : List α}
    {start last : β} (done : xs.foldlM f start = .ok last) (initial : good [] start)
    (preserved
      : ∀ before x after, xs = before ++ x :: after → ∀ state next,
          good before state → f state x = .ok next → good (before ++ [x]) next)
    : good xs last := by
  suffices rest : ∀ before after state, xs = before ++ after → good before state →
      after.foldlM f state = .ok last → good xs last from rest [] xs start rfl initial done
  intro before after
  induction after generalizing before with
  | nil =>
      intro state split kept finished
      cases finished
      rw [split, List.append_nil]
      exact kept
  | cons x after ih =>
      intro state split kept continues
      rw [List.foldlM_cons] at continues
      obtain ⟨next, here, later⟩ := bind_eq_ok.mp continues
      exact ih (before ++ [x]) next (by rw [split, List.append_assoc, List.singleton_append])
        (preserved before x after split state next kept here) later

end Results

/-- A loop that appends what each element gives, or stops, gives all of it or nothing. -/
theorem foldlM_append_eq_some_iff {α β : Type} {f : α → Option (List β)} {xs : List α}
    {before out : List β}
    : xs.foldlM (fun acc x => do
          let more ← f x
          return acc ++ more) before = some out
      ↔ (∀ x ∈ xs, (f x).isSome) ∧ out = before ++ xs.flatMap fun x => (f x).getD [] := by
  induction xs generalizing before with
  | nil =>
      rw [List.foldlM_nil]
      simp only [Option.pure_def, Option.some.injEq, List.flatMap_nil, List.append_nil]
      exact ⟨fun same => ⟨nofun, same.symm⟩, fun same => same.2.symm⟩
  | cons x xs ih =>
      rw [List.foldlM_cons]
      cases here : f x with
      | none => simp [here]
      | some more =>
          refine (@ih (before ++ more)).trans ?_
          simp [here, List.append_assoc]

end CtxRemote.Library
