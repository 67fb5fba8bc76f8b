import BroadcastQuery.Dispatch
import BroadcastQuery.Proofs.Interleaving

/-!
Dispatch with all requests under way at the same time: those of one query side by side, and the
queries side by side. Requests may be sent and answered in any order and with any outcome. The
results are those of one request after the other.
-/
namespace BroadcastQuery

open Process

inductive Sending where
  | waiting (request : Request)
  | underWay (request : Request)
  | done (request : Request) (outcome : Outcome)

inductive Event where
  | sent (request : Request)
  | answered (outcome : Outcome)

def Event.isAnswer : Event → Bool
  | sent _ => false
  | answered _ => true

namespace Sending

/-- The outcome is up to the service. -/
inductive Step : Sending → Event → Sending → Prop where
  | send (request : Request) : Step (waiting request) (.sent request) (underWay request)
  | finish (request : Request) (outcome : Outcome) :
    Step (underWay request) (.answered outcome) (done request outcome)

def answer? : Sending → Option (Purpose × Outcome)
  | done request outcome => some (request.purpose, outcome)
  | _ => none

def process : Process Sending Event (Purpose × Outcome) := ⟨Step, answer?⟩

/-- All that is seen at a place for a request, if there is one, that ends with an outcome. -/
def course (request : Option Request) (outcome : Outcome) : List Event :=
  match request with
  | none => []
  | some request => [.sent request, .answered outcome]

theorem completes_iff {request : Request} {trace : List Event} {answer : Purpose × Outcome} :
    process.Completes (waiting request) trace answer ↔
      ∃ outcome, trace = [.sent request, .answered outcome] ∧
        answer = (request.purpose, outcome) := by
  constructor
  · rintro ⟨stop, run, answered⟩
    -- a request that is not sent, or not answered, has no answer yet
    obtain _ | ⟨⟨⟩, _ | ⟨⟨⟩, _ | ⟨⟨⟩, _⟩⟩⟩ := run <;> cases answered
    exact ⟨_, rfl, rfl⟩
  · rintro ⟨outcome, rfl, rfl⟩
    exact ⟨_, .step (.send request) (.step (.finish request outcome) (.stay _)), rfl⟩

theorem atPlace_waiting_iff {request : Option Request} {trace : List Event}
    {answer : Option (Purpose × Outcome)} :
    AtPlace process.Completes (request.map waiting) trace answer ↔
      ∃ outcome, trace = course request outcome ∧
        answer = request.map fun request => (request.purpose, outcome) := by
  cases request with
  | none =>
    rw [Option.map_none, atPlace_none_iff]
    exact ⟨fun quiet => ⟨.error "", quiet⟩, fun ⟨_, quiet⟩ => quiet⟩
  | some request =>
    simp only [Option.map_some, atPlace_some_iff, completes_iff]
    constructor
    · rintro ⟨_, rfl, outcome, rfl, rfl⟩
      exact ⟨outcome, rfl, rfl⟩
    · rintro ⟨outcome, rfl, rfl⟩
      exact ⟨_, rfl, outcome, rfl, rfl⟩

theorem live (start : Sending) : process.Live start := by
  intro _ state _
  cases state with
  | waiting request =>
    exact ⟨_, _, completes_iff.2 ⟨.error "", rfl, rfl⟩⟩
  | underWay request =>
    exact ⟨_, _, _, .step (.finish request (.error "")) (.stay _), rfl⟩
  | done request outcome => exact ⟨_, _, _, .stay _, rfl⟩

end Sending

namespace Query

variable (range : DateRange) (aggregation : Aggregation)

/-- A query with its requests side by side. Their outcomes are put together when all are there. -/
def executing : Process (List Sending) (Nat × Event) (Except DispatchError SearchResult) :=
  Sending.process.parallel.map SearchResult.ofOutcomes

def executingAll :
    Process (List (List Sending)) (Nat × Nat × Event) (List (Except DispatchError SearchResult)) :=
  executing.parallel

def pending (query : Query) : List Sending :=
  (query.requests range aggregation).map .waiting

/-- The queries run side by side, with these events, to these results. -/
def Dispatched (queries : List Query) (trace : List (Nat × Nat × Event))
    (results : List (Except DispatchError SearchResult)) : Prop :=
  executingAll.Completes (queries.map (pending range aggregation)) trace results

/-- The request at a place among those of a query at a place. -/
def requestAt (queries : List Query) (i j : Nat) : Option Request :=
  queries[i]?.bind fun query => (query.requests range aggregation)[j]?

/-- Every request is sent once and is answered once after that, with the outcome for its place.
Nothing else is seen. -/
def EachOnce (queries : List Query) (outcomes : Nat → Nat → Outcome)
    (trace : List (Nat × Nat × Event)) : Prop :=
  ∀ i j, eventsAt j (eventsAt i trace) =
    Sending.course (requestAt range aggregation queries i j) (outcomes i j)

/-- The places of the requests in the order in which they are answered. -/
def completions (trace : List (Nat × Nat × Event)) : List (Nat × Nat) :=
  (trace.filter (·.2.2.isAnswer)).map fun event => (event.1, event.2.1)

/-- Events of places, one place after the other. -/
def placeByPlace (seen : Nat × Nat → List Event) (order : List (Nat × Nat)) :
    List (Nat × Nat × Event) :=
  order.flatMap fun place => ((seen place).map (place.2, ·)).map (place.1, ·)

def resultOf (query : Query) (outcomes : Nat → Outcome) : Except DispatchError SearchResult :=
  SearchResult.ofOutcomes
    ((query.requests range aggregation).mapIdx fun j request => (request.purpose, outcomes j))

/-- The result of a query whose requests have these outcomes: the first that is bad is its error. -/
inductive Settled (query : Query) (outcomes : Nat → Outcome) :
    Except DispatchError SearchResult → Prop where
  | alone {details : Details} : query.secondary = none →
    outcomes 0 = .ok (.details details) →
    Settled query outcomes (.ok ⟨details, none, none⟩)
  | normalized {tree : Option Node} {details : Details} {totals : Totals} :
    query.secondary = some ⟨.normalize, tree⟩ →
    outcomes 0 = .ok (.details details) → outcomes 1 = .ok (.totals totals) →
    Settled query outcomes (.ok ⟨details, some totals, none⟩)
  | subtracted {tree : Option Node} {details : Details} {totals : Totals} :
    query.secondary = some ⟨.subtract, tree⟩ →
    outcomes 0 = .ok (.details details) → outcomes 1 = .ok (.totals totals) →
    Settled query outcomes (.ok ⟨details, none, some totals⟩)
  | mainFailed {reason : String} : outcomes 0 = .error reason →
    Settled query outcomes (.error (.failed .main reason))
  | mainUnexpected {totals : Totals} : outcomes 0 = .ok (.totals totals) →
    Settled query outcomes (.error (.unexpectedShape .main))
  | secondaryFailed {secondary : Secondary} {details : Details} {reason : String} :
    query.secondary = some secondary →
    outcomes 0 = .ok (.details details) → outcomes 1 = .error reason →
    Settled query outcomes (.error (.failed (.secondary secondary.modifier) reason))
  | secondaryUnexpected {secondary : Secondary} {details details' : Details} :
    query.secondary = some secondary →
    outcomes 0 = .ok (.details details) → outcomes 1 = .ok (.details details') →
    Settled query outcomes (.error (.unexpectedShape (.secondary secondary.modifier)))

section OneQuery

variable {range aggregation} {query : Query} {outcomes : Nat → Outcome}
variable {result : Except DispatchError SearchResult}

theorem resultOf_alone (alone : query.secondary = none) :
    query.resultOf range aggregation outcomes = SearchResult.empty.add .main (outcomes 0) := by
  simp only [resultOf, requests, alone, Option.map_none, Option.toList_none, List.mapIdx_cons,
    List.mapIdx_nil, SearchResult.ofOutcomes, List.foldlM_cons, List.foldlM_nil, bind_pure]

theorem resultOf_paired {secondary : Secondary} (paired : query.secondary = some secondary) :
    query.resultOf range aggregation outcomes = (do
      let found ← SearchResult.empty.add .main (outcomes 0)
      found.add (.secondary secondary.modifier) (outcomes 1)) := by
  simp only [resultOf, requests, paired, Option.map_some, Option.toList_some, List.mapIdx_cons,
    List.mapIdx_nil, SearchResult.ofOutcomes, List.foldlM_cons, List.foldlM_nil, bind_pure]

theorem resultOf_main_error {error : DispatchError}
    (bad : SearchResult.empty.add .main (outcomes 0) = .error error) :
    query.resultOf range aggregation outcomes = .error error := by
  cases paired : query.secondary with
  | none => rw [resultOf_alone paired, bad]
  | some secondary => rw [resultOf_paired paired, bad]; rfl

theorem Settled.eq_resultOf (settled : query.Settled outcomes result) :
    result = query.resultOf range aggregation outcomes := by
  cases settled with
  | alone alone main => rw [resultOf_alone alone, main]; rfl
  | normalized paired main other => rw [resultOf_paired paired, main, other]; rfl
  | subtracted paired main other => rw [resultOf_paired paired, main, other]; rfl
  | mainFailed main => exact (resultOf_main_error (by rw [main]; rfl)).symm
  | mainUnexpected main => exact (resultOf_main_error (by rw [main]; rfl)).symm
  | secondaryFailed paired main other => rw [resultOf_paired paired, main, other]; rfl
  | secondaryUnexpected paired main other => rw [resultOf_paired paired, main, other]; rfl

theorem exists_settled (query : Query) (outcomes : Nat → Outcome) :
    ∃ result, query.Settled outcomes result := by
  match main : outcomes 0, paired : query.secondary, other : outcomes 1 with
  | .error _, _, _ => exact ⟨_, .mainFailed main⟩
  | .ok (.totals _), _, _ => exact ⟨_, .mainUnexpected main⟩
  | .ok (.details _), none, _ => exact ⟨_, .alone paired main⟩
  | .ok (.details _), some _, .error _ => exact ⟨_, .secondaryFailed paired main other⟩
  | .ok (.details _), some _, .ok (.details _) =>
    exact ⟨_, .secondaryUnexpected paired main other⟩
  | .ok (.details _), some ⟨.normalize, _⟩, .ok (.totals _) =>
    exact ⟨_, .normalized paired main other⟩
  | .ok (.details _), some ⟨.subtract, _⟩, .ok (.totals _) =>
    exact ⟨_, .subtracted paired main other⟩

/-- A query's outcomes settle one result, and that is what they give when put together. -/
theorem settled_iff :
    query.Settled outcomes result ↔ result = query.resultOf range aggregation outcomes := by
  obtain ⟨result', settled⟩ := exists_settled query outcomes
  constructor
  · exact Settled.eq_resultOf
  · rintro rfl
    exact settled.eq_resultOf ▸ settled

theorem resultOf_service {service : Request → Outcome}
    (answered : ∀ j request, (query.requests range aggregation)[j]? = some request →
      outcomes j = service request) :
    query.resultOf range aggregation outcomes = query.execute service range aggregation := by
  refine congrArg SearchResult.ofOutcomes (List.ext_getElem? fun j => ?_)
  rw [List.getElem?_mapIdx, List.getElem?_map]
  exact Option.map_congr fun request found => by rw [answered j request found]

theorem executing_completes_iff {trace : List (Nat × Event)} :
    executing.Completes (query.pending range aggregation) trace result ↔
      ∃ outcomes : Nat → Outcome,
        (∀ j, eventsAt j trace =
          Sending.course (query.requests range aggregation)[j]? (outcomes j)) ∧
        result = query.resultOf range aggregation outcomes := by
  simp only [executing, map_completes_iff, parallel_completes_iff, pending, List.getElem?_map,
    Sending.atPlace_waiting_iff, Classical.skolem, forall_and]
  constructor
  · rintro ⟨answers, ⟨outcomes, seen, kept⟩, rfl⟩
    refine ⟨outcomes, seen, congrArg SearchResult.ofOutcomes (List.ext_getElem? fun j => ?_)⟩
    rw [kept, List.getElem?_mapIdx]
  · rintro ⟨outcomes, seen, rfl⟩
    exact ⟨_, ⟨outcomes, seen, fun j => List.getElem?_mapIdx ..⟩, rfl⟩

end OneQuery

section AllQueries

variable {range aggregation} {queries : List Query} {outcomes : Nat → Nat → Outcome}
variable {trace : List (Nat × Nat × Event)} {results : List (Except DispatchError SearchResult)}

theorem atPlace_executing_iff {query : Option Query} {trace : List (Nat × Event)}
    {result : Option (Except DispatchError SearchResult)} :
    AtPlace executing.Completes (query.map (pending range aggregation)) trace result ↔
      ∃ outcomes : Nat → Outcome,
        (∀ j, eventsAt j trace = Sending.course
          (query.bind fun query => (query.requests range aggregation)[j]?) (outcomes j)) ∧
        result = query.map fun query => query.resultOf range aggregation outcomes := by
  cases query with
  | none =>
    simp only [Option.map_none, atPlace_none_iff, Option.bind_none, Sending.course,
      eventsAt_eq_nil_iff, exists_const]
  | some query =>
    simp only [Option.map_some, atPlace_some_iff, executing_completes_iff, Option.bind_some]
    constructor
    · rintro ⟨_, rfl, outcomes, seen, rfl⟩
      exact ⟨outcomes, seen, rfl⟩
    · rintro ⟨outcomes, seen, rfl⟩
      exact ⟨_, rfl, outcomes, seen, rfl⟩

/-- The runs of all queries are the interleavings in which each request takes its course, and the
result of each query is put together from its own outcomes. -/
theorem dispatched_iff_mapIdx :
    Dispatched range aggregation queries trace results ↔ ∃ outcomes,
      EachOnce range aggregation queries outcomes trace ∧
      results = queries.mapIdx fun i query => query.resultOf range aggregation (outcomes i) := by
  simp only [Dispatched, executingAll, parallel_completes_iff, List.getElem?_map,
    atPlace_executing_iff, Classical.skolem, forall_and]
  refine exists_congr fun outcomes => and_congr Iff.rfl ?_
  simp only [List.ext_getElem?_iff, List.getElem?_mapIdx]

theorem eq_mapIdx_iff :
    results = (queries.mapIdx fun i query => query.resultOf range aggregation (outcomes i)) ↔
      results.length = queries.length ∧ ∀ (i : Nat) (query : Query), queries[i]? = some query →
        ∀ result, results[i]? = some result ↔ query.Settled (outcomes i) result := by
  constructor
  · rintro rfl
    refine ⟨List.length_mapIdx, fun i query found result => ?_⟩
    rw [List.getElem?_mapIdx, found, Option.map_some, Option.some.injEq]
    exact eq_comm.trans settled_iff.symm
  · rintro ⟨long, each⟩
    refine List.ext_getElem? fun i => ?_
    rw [List.getElem?_mapIdx]
    cases found : queries[i]? with
    | none =>
      rw [List.getElem?_eq_none_iff] at found
      exact List.getElem?_eq_none_iff.2 (long ▸ found)
    | some query => exact (each i query found _).2 (settled_iff.2 rfl)

theorem executeAll_of_dispatched {service : Request → Outcome}
    (answered : ∀ i j request outcome, requestAt range aggregation queries i j = some request →
      (i, j, .answered outcome) ∈ trace → outcome = service request)
    (dispatched : Dispatched range aggregation queries trace results) :
    results = executeAll service range aggregation queries := by
  obtain ⟨outcomes, once, rfl⟩ := dispatched_iff_mapIdx.1 dispatched
  refine List.ext_getElem? fun i => ?_
  rw [executeAll, List.getElem?_mapIdx, List.getElem?_map]
  refine Option.map_congr fun query found => resultOf_service fun j request asked => ?_
  have there : requestAt range aggregation queries i j = some request := by
    rw [requestAt, found, Option.bind_some, asked]
  have seen : .answered (outcomes i j) ∈ eventsAt j (eventsAt i trace) := by
    simp [once i j, there, Sending.course]
  exact answered i j request _ there (mem_eventsAt.1 (mem_eventsAt.1 seen))

/-- However far the queries have come, they can go on to their results. -/
theorem live_executingAll (starts : List (List Sending)) : executingAll.Live starts :=
  Live.parallel fun _ _ => Live.map (Live.parallel fun state _ => Sending.live state)

section Order

variable {seen : Nat × Nat → List Event} {order : List (Nat × Nat)}

/-- Of places that are all different, each is seen with its own events alone. -/
theorem eventsAt_placeByPlace (distinct : order.Nodup) (i j : Nat) :
    eventsAt j (eventsAt i (placeByPlace seen order)) =
      if (i, j) ∈ order then seen (i, j) else [] := by
  induction order with
  | nil => rfl
  | cons place order ih =>
    obtain ⟨fresh, distinct⟩ := List.nodup_cons.1 distinct
    rw [placeByPlace, List.flatMap_cons, eventsAt_append, eventsAt_append, ← placeByPlace,
      ih distinct, eventsAt_map]
    by_cases here : place = (i, j)
    · subst here
      simp [eventsAt_map, fresh]
    · have elsewhere : eventsAt j (if place.1 = i then (seen place).map (place.2, ·) else []) =
          [] := by
        split
        next same =>
          have other : place.2 ≠ j := fun same' => here (Prod.ext same same')
          rw [eventsAt_map, if_neg other]
        next => rfl
      simp only [elsewhere, List.nil_append, List.mem_cons, Ne.symm here, false_or]

theorem completions_placeByPlace : completions (placeByPlace seen order) =
    order.flatMap fun place => ((seen place).filter Event.isAnswer).map fun _ => place := by
  simp only [completions, placeByPlace, List.filter_flatMap, List.map_flatMap, List.filter_map,
    List.map_map]
  rfl

/-- Requests can be answered in any order, with any outcomes: all are sent first. -/
theorem exists_eachOnce (distinct : order.Nodup)
    (all : ∀ i j, (i, j) ∈ order ↔ (requestAt range aggregation queries i j).isSome) :
    ∃ trace, EachOnce range aggregation queries outcomes trace ∧ completions trace = order := by
  let sending (place : Nat × Nat) : List Event :=
    ((requestAt range aggregation queries place.1 place.2).map .sent).toList
  let answering (place : Nat × Nat) : List Event := [.answered (outcomes place.1 place.2)]
  refine ⟨placeByPlace sending order ++ placeByPlace answering order, fun i j => ?_, ?_⟩
  · rw [eventsAt_append, eventsAt_append, eventsAt_placeByPlace distinct,
      eventsAt_placeByPlace distinct]
    cases asked : requestAt range aggregation queries i j with
    | none =>
      have absent : (i, j) ∉ order := by simp [all, asked]
      rw [if_neg absent, if_neg absent]
      rfl
    | some request =>
      have present : (i, j) ∈ order := by simp [all, asked]
      rw [if_pos present, if_pos present]
      simp only [sending, answering, asked]
      rfl
  · have none_answered : completions (placeByPlace sending order) = [] := by
      rw [completions_placeByPlace, List.flatMap_eq_nil_iff]
      intro place _
      cases asked : requestAt range aggregation queries place.1 place.2 <;>
        simp [sending, asked, Event.isAnswer]
    have all_answered : completions (placeByPlace answering order) = order :=
      completions_placeByPlace.trans (List.flatMap_singleton' order)
    rw [completions, List.filter_append, List.map_append]
    exact (congrArg₂ _ none_answered all_answered).trans (List.nil_append order)

end Order

end AllQueries

/-- Dispatch is the same in any order. The runs of all queries are the interleavings in which each
request is sent once and answered once, whatever becomes of others, and the outcomes of a query
settle its result. Each order of answers, with any outcomes, is that of a run; no run is stuck; and
where a service gives the outcomes, the results are those of one request after the other. -/
theorem dispatched_any_order (queries : List Query) :
    (∀ trace results, Dispatched range aggregation queries trace results ↔ ∃ outcomes,
      EachOnce range aggregation queries outcomes trace ∧
      results.length = queries.length ∧ ∀ (i : Nat) (query : Query), queries[i]? = some query →
        ∀ result, results[i]? = some result ↔ query.Settled (outcomes i) result) ∧
    (∀ (outcomes : Nat → Nat → Outcome) (order : List (Nat × Nat)), order.Nodup →
      (∀ i j, (i, j) ∈ order ↔ (requestAt range aggregation queries i j).isSome) →
      ∃ trace results, EachOnce range aggregation queries outcomes trace ∧
        completions trace = order ∧ Dispatched range aggregation queries trace results) ∧
    (∀ trace states,
      Run executingAll.Step (queries.map (pending range aggregation)) trace states →
      ∃ rest results, Dispatched range aggregation queries (trace ++ rest) results) ∧
    ∀ (service : Request → Outcome) trace results,
      Dispatched range aggregation queries trace results →
      (∀ i j request outcome, requestAt range aggregation queries i j = some request →
        (i, j, .answered outcome) ∈ trace → outcome = service request) →
      results = executeAll service range aggregation queries := by
  refine ⟨fun trace results => ?_, fun outcomes order distinct all => ?_,
    fun trace states run => ?_, fun service trace results dispatched answered => ?_⟩
  · simp only [dispatched_iff_mapIdx, eq_mapIdx_iff]
  · obtain ⟨trace, once, ordered⟩ := exists_eachOnce distinct all
    exact ⟨trace, _, once, ordered, dispatched_iff_mapIdx.2 ⟨outcomes, once, rfl⟩⟩
  · obtain ⟨rest, results, stop, run', answered⟩ := live_executingAll _ trace states run
    exact ⟨rest, results, stop, run.append run', answered⟩
  · exact executeAll_of_dispatched answered dispatched

/-- The query without a secondary one is answered first, and the failure of the other's secondary
request before its main request. -/
theorem dispatched_any_order_failing :
    let day : Date := ⟨2020, 1, 1, by decide⟩
    let range : DateRange := ⟨day, day, by decide⟩
    let queries : List Query := [⟨none, none, some ⟨.normalize, none⟩, []⟩, matchAll []]
    ∃ trace results, Dispatched range .day queries trace results ∧
      completions trace = [(1, 0), (0, 1), (0, 0)] ∧
      results =
        [.error (.failed (.secondary .normalize) "down"), .ok ⟨[], none, none⟩] := by
  intro day range queries
  let service (request : Request) : Outcome :=
    if request.detailed then .ok (.details []) else .error "down"
  let outcomes (i j : Nat) : Outcome :=
    ((requestAt range .day queries i j).map service).getD (.error "")
  obtain ⟨_, anyOrder, _, sequential⟩ := dispatched_any_order range .day queries
  have places (i j : Nat) :
      (i, j) ∈ [(1, 0), (0, 1), (0, 0)] ↔ (requestAt range .day queries i j).isSome := by
    rcases i with _ | _ | i <;> rcases j with _ | _ | j <;>
      simp [requestAt, queries, requests, matchAll]
  obtain ⟨trace, results, once, ordered, dispatched⟩ :=
    anyOrder outcomes [(1, 0), (0, 1), (0, 0)] (by decide) places
  refine ⟨trace, results, dispatched, ordered, ?_⟩
  refine sequential service trace results dispatched fun i j request outcome asked member => ?_
  have seen := mem_eventsAt.2 (mem_eventsAt.2 member)
  rw [once i j, asked] at seen
  simpa [Sending.course, outcomes, asked] using seen

end Query
end BroadcastQuery
