import Mathlib.Data.List.Basic

/-!
Processes side by side. A run of several is an interleaving of one run of each, in any order, so
what is seen of one and what it answers say nothing of the others.
-/
namespace BroadcastQuery

/-- What goes on in steps, each seen as an event, until there is an answer. -/
structure Process (σ ε α : Type) where
  Step : σ → ε → σ → Prop
  answer? : σ → Option α

namespace Process

variable {σ ε α β τ : Type}

inductive Run (Step : σ → ε → σ → Prop) : σ → List ε → σ → Prop where
  | stay (state : σ) : Run Step state [] state
  | step {state next stop : σ} {event : ε} {trace : List ε} :
    Step state event next → Run Step next trace stop → Run Step state (event :: trace) stop

/-- The process runs from a state to its answer. -/
def Completes (process : Process σ ε α) (start : σ) (trace : List ε) (answer : α) : Prop :=
  ∃ stop, Run process.Step start trace stop ∧ process.answer? stop = some answer

/-- However far the process has come, it can go on to an answer. -/
def Live (process : Process σ ε α) (start : σ) : Prop :=
  ∀ trace state, Run process.Step start trace state →
    ∃ rest answer, process.Completes state rest answer

def map (f : α → β) (process : Process σ ε α) : Process σ ε β where
  Step := process.Step
  answer? state := (process.answer? state).map f

/-- Processes of one kind side by side. Any one of them takes the next step, and its place is seen
with the event; all are waited for, and each answer is kept at the place of its process. -/
def parallel (process : Process σ ε α) : Process (List σ) (Nat × ε) (List α) where
  Step states event next := ∃ state state', states[event.1]? = some state ∧
    process.Step state event.2 state' ∧ next = states.set event.1 state'
  answer? states := states.mapM process.answer?

def eventsAt (place : Nat) (trace : List (Nat × ε)) : List ε :=
  trace.filterMap fun event => if event.1 = place then some event.2 else none

/-- What is seen at a place, with what is there before and after: nothing where there is nothing. -/
inductive AtPlace (R : σ → List ε → τ → Prop) : Option σ → List ε → Option τ → Prop where
  | vacant : AtPlace R none [] none
  | occupied {before : σ} {trace : List ε} {after : τ} :
    R before trace after → AtPlace R (some before) trace (some after)

section AtPlace

variable {R : σ → List ε → τ → Prop} {trace : List ε}

@[simp] theorem atPlace_none_iff {after : Option τ} :
    AtPlace R none trace after ↔ trace = [] ∧ after = none := by
  constructor
  · rintro ⟨⟩
    exact ⟨rfl, rfl⟩
  · rintro ⟨rfl, rfl⟩
    exact .vacant

@[simp] theorem atPlace_some_iff {before : σ} {after : Option τ} :
    AtPlace R (some before) trace after ↔ ∃ stop, after = some stop ∧ R before trace stop := by
  constructor
  · rintro (_ | ⟨run⟩)
    exact ⟨_, rfl, run⟩
  · rintro ⟨_, rfl, run⟩
    exact .occupied run

theorem AtPlace.isSome_eq {before : Option σ} {after : Option τ}
    (there : AtPlace R before trace after) : before.isSome = after.isSome := by
  cases there <;> rfl

/-- What there is after at each place makes a list. -/
theorem forall_exists_atPlace_iff {before : List σ} {seen : Nat → List ε}
    {P : Nat → Option τ → Prop} :
    (∀ place, ∃ after, AtPlace R before[place]? (seen place) after ∧ P place after) ↔
      ∃ after : List τ, ∀ place,
        AtPlace R before[place]? (seen place) after[place]? ∧ P place after[place]? := by
  constructor
  · intro each
    choose after there kept using each
    have inside (place : Fin before.length) : (after place).isSome := by
      rw [← (there place).isSome_eq, List.getElem?_eq_getElem place.2, Option.isSome_some]
    have same (place : Nat) :
        (List.ofFn fun place => (after place).get (inside place))[place]? = after place := by
      rw [List.getElem?_ofFn]
      split
      next => exact Option.some_get _
      next out =>
        have nothing := there place
        rw [List.getElem?_eq_none (by omega), atPlace_none_iff] at nothing
        exact nothing.2.symm
    exact ⟨_, fun place => by rw [same]; exact ⟨there place, kept place⟩⟩
  · rintro ⟨after, there⟩ place
    exact ⟨_, there place⟩

end AtPlace

section Events

variable {place : Nat} {event : Nat × ε} {trace : List (Nat × ε)}

theorem eventsAt_cons_self {seen : ε} :
    eventsAt place ((place, seen) :: trace) = seen :: eventsAt place trace := by
  simp [eventsAt]

theorem eventsAt_cons_of_ne (other : event.1 ≠ place) :
    eventsAt place (event :: trace) = eventsAt place trace := by
  simp [eventsAt, other]

@[simp] theorem eventsAt_append {trace' : List (Nat × ε)} :
    eventsAt place (trace ++ trace') = eventsAt place trace ++ eventsAt place trace' := by
  simp [eventsAt]

theorem eventsAt_map {moved : Nat} {events : List ε} :
    eventsAt place (events.map (moved, ·)) = if moved = place then events else [] := by
  by_cases here : moved = place <;> simp [eventsAt, here]

theorem mem_eventsAt {seen : ε} : seen ∈ eventsAt place trace ↔ (place, seen) ∈ trace := by
  simp only [eventsAt, List.mem_filterMap, Option.ite_none_right_eq_some, Option.some.injEq]
  constructor
  · rintro ⟨⟨_, _⟩, member, rfl, rfl⟩
    exact member
  · exact fun member => ⟨_, member, rfl, rfl⟩

theorem eventsAt_eq_nil_iff : (∀ place, eventsAt place trace = []) ↔ trace = [] := by
  constructor
  · intro quiet
    refine List.eq_nil_iff_forall_not_mem.2 fun event member => ?_
    exact List.not_mem_nil (quiet event.1 ▸ mem_eventsAt.2 member)
  · rintro rfl _
    rfl

end Events

section Runs

variable {process : Process σ ε α} {start state stop : σ} {event : ε} {trace rest : List ε}
variable {Step : σ → ε → σ → Prop}

theorem run_nil_iff : Run Step start [] stop ↔ start = stop := by
  constructor
  · rintro ⟨⟩
    rfl
  · rintro rfl
    exact .stay _

theorem run_cons_iff :
    Run Step start (event :: trace) stop ↔
      ∃ next, Step start event next ∧ Run Step next trace stop := by
  constructor
  · rintro (_ | ⟨step, run⟩)
    exact ⟨_, step, run⟩
  · rintro ⟨_, step, run⟩
    exact .step step run

theorem Run.append (run : Run Step start trace state) (run' : Run Step state rest stop) :
    Run Step start (trace ++ rest) stop := by
  induction run with
  | stay => exact run'
  | step step _ ih => exact .step step (ih run')

theorem map_completes_iff {f : α → β} {answer : β} :
    (process.map f).Completes start trace answer ↔
      ∃ found, process.Completes start trace found ∧ f found = answer := by
  simp only [Completes, map, Option.map_eq_some_iff]
  constructor
  · rintro ⟨stop, run, found, answered, rfl⟩
    exact ⟨found, ⟨stop, run, answered⟩, rfl⟩
  · rintro ⟨found, ⟨stop, run, answered⟩, rfl⟩
    exact ⟨stop, run, found, answered, rfl⟩

theorem atPlace_completes_iff {start : Option σ} {answer : Option α} :
    AtPlace process.Completes start trace answer ↔
      ∃ stop, AtPlace (Run process.Step) start trace stop ∧
        stop.map process.answer? = answer.map some := by
  cases start with
  | none =>
    simp only [atPlace_none_iff]
    constructor
    · rintro ⟨quiet, rfl⟩
      exact ⟨none, ⟨quiet, rfl⟩, rfl⟩
    · rintro ⟨_, ⟨quiet, rfl⟩, same⟩
      exact ⟨quiet, Option.map_eq_none_iff.1 same.symm⟩
  | some start =>
    simp only [atPlace_some_iff]
    constructor
    · rintro ⟨answer, rfl, stop, run, answered⟩
      exact ⟨_, ⟨stop, rfl, run⟩, congrArg some answered⟩
    · rintro ⟨_, ⟨stop, rfl, run⟩, same⟩
      obtain ⟨answer, rfl, answered⟩ := Option.map_eq_some_iff.1 same.symm
      exact ⟨answer, rfl, stop, run, answered.symm⟩

theorem Live.map {f : α → β} (live : process.Live start) : (process.map f).Live start := by
  intro trace state run
  obtain ⟨rest, found, completes⟩ := live trace state run
  exact ⟨rest, f found, map_completes_iff.2 ⟨found, completes, rfl⟩⟩

end Runs

section Parallel

variable {process : Process σ ε α} {states stops : List σ} {trace : List (Nat × ε)}

theorem atPlace_of_run (run : Run process.parallel.Step states trace stops) (place : Nat) :
    AtPlace (Run process.Step) states[place]? (eventsAt place trace) stops[place]? := by
  induction run with
  | stay states =>
    cases states[place]? with
    | none => exact .vacant
    | some state => exact .occupied (.stay state)
  | @step states _ _ event _ step _ ih =>
    obtain ⟨state, state', found, step, rfl⟩ := step
    obtain ⟨moved, seen⟩ := event
    by_cases here : moved = place
    · subst here
      have inside : moved < states.length := (List.getElem?_eq_some_iff.1 found).1
      rw [List.getElem?_set_self inside, atPlace_some_iff] at ih
      obtain ⟨stop, ended, run⟩ := ih
      rw [eventsAt_cons_self, found, ended]
      exact .occupied (.step step run)
    · rw [List.getElem?_set_ne here] at ih
      rwa [eventsAt_cons_of_ne here]

theorem run_of_atPlace (runs : ∀ place,
      AtPlace (Run process.Step) states[place]? (eventsAt place trace) stops[place]?) :
    Run process.parallel.Step states trace stops := by
  induction trace generalizing states with
  | nil =>
    have same : states = stops := List.ext_getElem? fun place => by
      have run := runs place
      generalize states[place]? = start, stops[place]? = stop at run
      cases run with
      | vacant => rfl
      | occupied run => rw [run_nil_iff.1 run]
    exact run_nil_iff.2 same
  | cons event trace ih =>
    obtain ⟨moved, seen⟩ := event
    have here := runs moved
    rw [eventsAt_cons_self] at here
    cases found : states[moved]? with
    | none => simp [found] at here
    | some state =>
    rw [found, atPlace_some_iff] at here
    obtain ⟨stop, ended, run⟩ := here
    obtain ⟨next, step, run⟩ := run_cons_iff.1 run
    refine .step ⟨state, next, found, step, rfl⟩ (ih fun place => ?_)
    by_cases same : moved = place
    · subst same
      rw [List.getElem?_set_self (List.getElem?_eq_some_iff.1 found).1, ended]
      exact .occupied run
    · have there := runs place
      rw [eventsAt_cons_of_ne same] at there
      rwa [List.getElem?_set_ne same]

theorem mapM_eq_some_iff {f : α → Option β} {asked : List α} {answers : List β} :
    asked.mapM f = some answers ↔ asked.map f = answers.map some := by
  induction asked generalizing answers with
  | nil => cases answers <;> simp
  | cons a asked ih =>
    simp only [List.mapM_cons, Option.bind_eq_bind, Option.bind_eq_some_iff, Option.pure_def,
      Option.some.injEq, ih, List.map_cons]
    cases answers <;> simp [and_comm]

/-- All are answered just if that holds at each place. -/
theorem mapM_eq_some_iff_getElem? {f : α → Option β} {asked : List α} {answers : List β} :
    asked.mapM f = some answers ↔
      ∀ place : Nat, asked[place]?.map f = answers[place]?.map some := by
  rw [mapM_eq_some_iff]
  constructor
  · intro same place
    simpa only [List.getElem?_map] using congrArg (·[place]?) same
  · intro same
    exact List.ext_getElem? fun place => by simpa only [List.getElem?_map] using same place

theorem parallel_run_iff :
    Run process.parallel.Step states trace stops ↔ ∀ place,
      AtPlace (Run process.Step) states[place]? (eventsAt place trace) stops[place]? :=
  ⟨atPlace_of_run, run_of_atPlace⟩

/-- Side by side there are all answers just if there is one at each place, after what is seen of
that place alone. -/
theorem parallel_completes_iff {answers : List α} :
    process.parallel.Completes states trace answers ↔ ∀ place,
      AtPlace process.Completes states[place]? (eventsAt place trace) answers[place]? := by
  simp only [atPlace_completes_iff, forall_exists_atPlace_iff, forall_and]
  exact exists_congr fun stops => and_congr parallel_run_iff mapM_eq_some_iff_getElem?

/-- Any processes that can each come to an answer can do so side by side, one after the other. -/
theorem exists_parallel_completes
    (each : ∀ state ∈ states, ∃ trace answer, process.Completes state trace answer) :
    ∃ trace answers, process.parallel.Completes states trace answers := by
  induction states with
  | nil => exact ⟨[], [], [], .stay _, rfl⟩
  | cons state states ih =>
    obtain ⟨first, answer, completes⟩ := each state List.mem_cons_self
    obtain ⟨rest, answers, others⟩ := ih fun state member => each state (.tail _ member)
    refine ⟨first.map (0, ·) ++ rest.map fun event => (event.1 + 1, event.2), answer :: answers,
      parallel_completes_iff.2 fun place => ?_⟩
    cases place with
    | zero =>
      have seen : eventsAt 0 (first.map (0, ·) ++ rest.map fun event => (event.1 + 1, event.2)) =
          first := by
        simp [eventsAt]
      rw [seen]
      exact .occupied completes
    | succ place =>
      have seen : eventsAt (place + 1)
          (first.map (0, ·) ++ rest.map fun event => (event.1 + 1, event.2)) =
          eventsAt place rest := by
        simp [eventsAt]
      rw [seen]
      exact parallel_completes_iff.1 others place

theorem Live.parallel (live : ∀ state ∈ states, process.Live state) :
    process.parallel.Live states := by
  intro trace stops run
  refine exists_parallel_completes fun stop member => ?_
  obtain ⟨place, found⟩ := List.mem_iff_getElem?.1 member
  have there := parallel_run_iff.1 run place
  cases started : states[place]? with
  | none => simp [started, found] at there
  | some start =>
    rw [started, found, atPlace_some_iff] at there
    obtain ⟨_, ⟨⟩, run⟩ := there
    exact live start (List.mem_of_getElem? started) _ _ run

end Parallel

end Process

end BroadcastQuery
