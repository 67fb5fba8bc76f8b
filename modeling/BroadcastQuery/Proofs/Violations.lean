import BroadcastQuery.Console
import BroadcastQuery.Proofs.Chains

/-!
A source is built exactly if nothing is wrong with it. The check that stops visits a draft in the
order of the check that goes on, so it stops at the first of all violations; those of a source are
the problems of its pairs, from left to right.
-/
namespace BroadcastQuery

section Failure

variable {α β γ ε : Type} {answer : Except ε α} {e : ε}

def failure? : Except ε α → Option ε
  | .ok _ => none
  | .error e => some e

@[simp] theorem failure?_ok (a : α) : failure? (.ok a : Except ε α) = none := rfl

@[simp] theorem failure?_error (e : ε) : failure? (.error e : Except ε α) = some e := rfl

theorem failure?_eq_none_iff : failure? answer = none ↔ ∃ a, answer = .ok a := by
  cases answer <;> simp

theorem failure?_eq_some_iff : failure? answer = some e ↔ answer = .error e := by
  cases answer <;> simp

theorem failure?_then (answer : Except ε α) (make : α → β) :
    failure? (do return make (← answer)) = failure? answer := by
  cases answer <;> rfl

/-- Of two steps the earlier failure counts. -/
theorem failure?_both (first : Except ε α) (second : Except ε β) (make : α → β → γ) :
    failure? (do let a ← first; return make a (← second)) =
      (failure? first).or (failure? second) := by
  cases first with
  | error e => rfl
  | ok a => exact failure?_then second (make a)

end Failure

namespace Checker

variable {checker : Checker} {source : Text} {draft : Draft} {parsed : DraftQuery}
  {error : QueryError}

/-! The first violation. -/

mutual

theorem head?_violations (checker : Checker) (draft : Draft) :
    (checker.violations draft).head? = failure? (checker.validate draft) := by
  match draft with
  | .leaf key value span =>
    rw [violations, validate, failure?_then]
    cases checker.checkLeaf key value <;> rfl
  | .chain items =>
    rw [violations, validate]
    cases defect? items with
    | some defect => rfl
    | none =>
      exact (head?_violationsIn checker items).trans (failure?_then _ reduce).symm

theorem head?_violationsIn (checker : Checker) (items : List (Draft ⊕ Connective)) :
    (checker.violationsIn items).head? = failure? (checker.validateItems items) := by
  match items with
  | [] => rfl
  | .inl child :: rest =>
    rw [violationsIn, validateItems, failure?_both, List.head?_append, head?_violations,
      head?_violationsIn]
  | .inr connective :: rest =>
    rw [violationsIn, validateItems, failure?_then, head?_violationsIn]

end

theorem head?_compile (tree : Option Draft) :
    (tree.toList.flatMap checker.violations).head? = failure? (checker.compile tree) := by
  cases tree with
  | none => rfl
  | some draft =>
    rw [compile, failure?_then, ← head?_violations, Option.toList_some, List.flatMap_singleton]

theorem head?_trees (checker : Checker) (source : Text) (parsed : DraftQuery) :
    ((trees parsed).flatMap checker.violations).head? =
      failure? (checker.complete source parsed) := by
  obtain ⟨label, main, secondary⟩ := parsed
  rw [trees, List.flatMap_append, List.head?_append, head?_compile]
  cases secondary with
  | none =>
    rw [Option.bind_none, Option.toList_none, List.flatMap_nil, List.head?_nil, Option.or_none]
    exact (failure?_then (checker.compile main) fun main =>
      (⟨label, main, none, source⟩ : Query)).symm
  | some second =>
    obtain ⟨modifier, tree⟩ := second
    rw [Option.bind_some, head?_compile]
    -- Completing binds the secondary tree inside a match; without the match it is two steps.
    have whole : checker.complete source ⟨label, main, some (modifier, tree)⟩ = (do
        let main ← checker.compile main
        return ⟨label, main, some ⟨modifier, ← checker.compile tree⟩, source⟩) := by
      simp only [complete, bind, Except.bind]
      cases checker.compile main with
      | error e => rfl
      | ok main => cases checker.compile tree <;> rfl
    rw [whole, failure?_both]

theorem head?_check (checker : Checker) (source : Text) :
    (checker.check source).head? = failure? (checker.build .strict source) := by
  unfold check build
  cases DraftQuery.parse checker.keywords source with
  | error e => rfl
  | ok parsed => exact head?_trees checker source parsed

end Checker

/-! The violations of drafts that are read. -/

theorem Grammar.linked_of_mem_trees {keywords : Keywords} {source : Text} {parsed : DraftQuery}
    (parses : DraftQuery.parse keywords source = .ok parsed) {draft : Draft}
    (inside : draft ∈ Checker.trees parsed) : draft.Linked := by
  obtain ⟨derivation, valid, -, rfl⟩ := exists_derivation_of_read parses
  have linked {level : Option Level} (levelValid : LevelValid level)
      (present : draft ∈ (level.map (Level.draft spelled)).toList) : draft.Linked := by
    obtain ⟨inner, among, rfl⟩ := Option.map_eq_some_iff.mp (Option.mem_toList.mp present)
    obtain ⟨connective, levelValid⟩ := levelValid inner among
    exact inner.linked_draft _ levelValid
  rcases List.mem_append.mp inside with main | second
  · exact linked valid.main main
  · cases given : derivation.secondary with
    | none => simp [Derivation.draft, given] at second
    | some secondary =>
      refine linked (valid.secondary secondary given).2 ?_
      simpa [Derivation.draft, given] using second

namespace Checker

variable {checker : Checker} {source : Text} {draft : Draft} {parsed : DraftQuery}

def fault? (checker : Checker) (pair : Text × Text) : Option QueryError :=
  failure? (checker.checkPair pair)

theorem violationsIn_link (connective : Connective) (drafts : List Draft) :
    checker.violationsIn (Draft.link connective drafts) = drafts.flatMap checker.violations := by
  match drafts with
  | [] => rfl
  | [last] => simp [Draft.link, violationsIn]
  | first :: second :: rest =>
    rw [Draft.link_cons_cons, violationsIn, violationsIn, violationsIn_link connective (second :: rest),
      List.flatMap_cons (x := first)]

/-- The violations of a linked draft are the faults of its pairs, from left to right. -/
theorem violations_linked (linked : draft.Linked) :
    checker.violations draft = draft.pairs.filterMap checker.fault? := by
  induction linked with
  | leaf key value span =>
    rw [violations, Draft.pairs, List.filterMap_cons, List.filterMap_nil, fault?, checkPair]
    cases checker.checkLeaf key value <;> rfl
  | @chain connective drafts several each ih =>
    rw [violations, defect?_link several, violationsIn_link, Draft.pairs, Draft.pairsIn_link,
      List.filterMap_flatMap, Option.map_none, Option.toList_none, List.nil_append, List.flatMap,
      List.flatMap, List.map_congr_left ih]

/-! Faults of pairs. -/

/-- If an answer fails, it is for a value of the key. -/
def Blames {α : Type} (key : Key) (answer : Except QueryError α) : Prop :=
  ∀ e, answer = .error e → ∃ value reason, e = .invalidValue key value reason

section Blame

variable {α β : Type} {key : Key}

theorem blames_ok (a : α) : Blames key (.ok a) := by
  rintro e ⟨⟩

theorem blames_invalid (value : Text) (reason : Reason) :
    Blames key (invalid key value reason : Except QueryError α) := by
  rintro e ⟨⟩
  exact ⟨value, reason, rfl⟩

theorem Blames.bind {answer : Except QueryError α} {next : α → Except QueryError β}
    (first : Blames key answer) (others : ∀ a, Blames key (next a)) :
    Blames key (answer >>= next) := by
  cases answer with
  | error e => exact fun _ failed => first _ (by cases failed; rfl)
  | ok a => exact others a

theorem blames_freeText (key : Key) (value : Text) : Blames key (freeText key value) := by
  unfold freeText
  split
  · exact blames_invalid value _
  · exact blames_ok _

theorem blames_wholeNumber (key : Key) (value : Text) : Blames key (wholeNumber key value) := by
  unfold wholeNumber
  split
  · exact blames_invalid value _
  · split
    · exact blames_ok _
    · exact blames_invalid value _

theorem blames_lookup (key : Key) (category : Category) (name : Text) :
    Blames key (checker.lookup key category name) := by
  unfold lookup
  split
  · exact blames_ok _
  · exact blames_invalid name _

theorem blames_checkTags (value : Text) (tags : List Text) :
    Blames .faceTag (checker.checkTags value tags) := by
  induction tags with
  | nil => exact blames_ok []
  | cons tag rest ih =>
    have onwards (canonical : Text) :
        Blames .faceTag (do return canonical :: (← checker.checkTags value rest)) :=
      ih.bind fun others => blames_ok _
    rw [checkTags]
    split
    · exact (blames_invalid value _).bind onwards
    · exact (blames_lookup _ _ tag).bind onwards

/-- A value that is refused is refused under its key. -/
theorem blames_checkValue (checker : Checker) (key : Key) (value : Text) :
    Blames key (checker.checkValue key value) := by
  cases key with
  | text =>
    rw [checkValue]
    split
    · exact blames_invalid value _
    · exact blames_freeText _ value
  | hour | dayOfWeek | video => exact blames_freeText _ value
  | textWindow => exact (blames_wholeNumber _ value).bind fun _ => blames_ok _
  | faceCount =>
    refine (blames_wholeNumber _ value).bind fun count => ?_
    split
    · exact blames_invalid value _
    · exact blames_ok _
  | faceName | channel | program => exact (blames_lookup _ _ value).bind fun _ => blames_ok _
  | faceTag => exact (blames_checkTags value _).bind fun _ => blames_ok _

end Blame

theorem fault?_cases {pair : Text × Text} {e : QueryError} (faulty : checker.fault? pair = some e) :
    e = .unknownKey pair.1 ∨ ∃ key value reason, e = .invalidValue key value reason := by
  have failed := failure?_eq_some_iff.mp faulty
  unfold checkPair checkLeaf at failed
  split at failed
  · exact .inl (Except.error.inj failed).symm
  · next key _ =>
    have blamed := (blames_checkValue checker key pair.2).bind
      fun v => blames_ok (⟨key, v⟩ : Leaf)
    exact .inr ⟨key, blamed e failed⟩

/-! Sources. -/

/-- Everything that is wrong with a source: its first ungrammatical place, or else the faults of its
pairs from left to right. -/
def problems (checker : Checker) (source : Text) : List QueryError :=
  match DraftQuery.parse checker.keywords source with
  | .error e => [.ungrammatical e]
  | .ok parsed => ((trees parsed).flatMap Draft.pairs).filterMap checker.fault?

theorem flatMap_violations_trees
    (parses : DraftQuery.parse checker.keywords source = .ok parsed) :
    (trees parsed).flatMap checker.violations =
      ((trees parsed).flatMap Draft.pairs).filterMap checker.fault? := by
  rw [List.filterMap_flatMap, List.flatMap, List.flatMap,
    List.map_congr_left fun draft inside =>
      violations_linked (Grammar.linked_of_mem_trees parses inside)]

theorem check_eq_problems (checker : Checker) (source : Text) :
    checker.check source = checker.problems source := by
  unfold check problems
  cases parses : DraftQuery.parse checker.keywords source with
  | error e => rfl
  | ok parsed => exact flatMap_violations_trees parses

theorem build_eq_complete (parses : DraftQuery.parse checker.keywords source = .ok parsed)
    (mode : Mode) : checker.build mode source = checker.complete source parsed := by
  unfold build
  rw [parses]

/-- Only a source that is not grammatical is refused as such. -/
theorem complete_ne_ungrammatical
    (parses : DraftQuery.parse checker.keywords source = .ok parsed) (e : SyntaxError) :
    checker.complete source parsed ≠ .error (.ungrammatical e) := by
  intro refused
  have first := head?_trees checker source parsed
  rw [refused, flatMap_violations_trees parses] at first
  obtain ⟨pair, -, faulty⟩ := List.mem_filterMap.mp (List.mem_of_head? first)
  rcases fault?_cases faulty with same | ⟨key, value, reason, same⟩
  · contradiction
  · contradiction

/-- A query is refused for the first of all problems, in either mode. -/
theorem head?_check_of_build {mode : Mode} {e : QueryError}
    (refused : checker.build mode source = .error e) : (checker.check source).head? = some e := by
  cases mode with
  | strict => rw [head?_check, refused, failure?_error]
  | lenient =>
    cases parses : DraftQuery.parse checker.keywords source with
    | error found => simp [build, parses, pure, Except.pure] at refused
    | ok parsed =>
      rw [build_eq_complete parses] at refused
      rw [head?_check, build_eq_complete parses, refused, failure?_error]

end Checker

/-- Problems as they are printed, the first with a mark. -/
def Console.report : List QueryError → List String
  | [] => []
  | first :: others =>
    ("error: " ++ first.message) :: others.map fun other => "       " ++ other.message

theorem Console.answer_refused {checker : Checker} {settings : Settings} {source : Text}
    {e : QueryError} (refused : checker.build settings.mode source = .error e) :
    answer checker settings source = report (checker.check source) := by
  have first := Checker.head?_check_of_build refused
  obtain ⟨others, shape⟩ := List.head?_eq_some_iff.mp first
  rw [answer, refused, shape]
  rfl

namespace Checker

/-- Building in either mode and checking agree on every source, and what is printed when a query is
refused lists every problem of its pairs once, from left to right. -/
theorem build_agrees_with_check (checker : Checker) (source : Text) :
    (checker.check source = [] ↔ ∃ query, checker.build .strict source = .ok query) ∧
    (∀ e, checker.build .strict source = .error e → (checker.check source).head? = some e) ∧
    (∀ e, checker.build .strict source = .error (.ungrammatical e) →
      checker.check source = [.ungrammatical e] ∧
      checker.build .lenient source = .ok ⟨none, none, none, source⟩) ∧
    ((∀ e, checker.build .strict source ≠ .error (.ungrammatical e)) →
      checker.build .lenient source = checker.build .strict source) ∧
    (∀ mode e, checker.build mode source = .error e →
      e :: (checker.check source).drop 1 = checker.problems source) ∧
    (∀ settings e, checker.build settings.mode source = .error e →
      Console.answer checker settings source = Console.report (checker.problems source)) := by
  refine ⟨?_, fun e => head?_check_of_build, ?_, ?_, ?_, ?_⟩
  · rw [← List.head?_eq_none_iff, head?_check, failure?_eq_none_iff]
  · intro e refused
    cases parses : DraftQuery.parse checker.keywords source with
    | error found =>
      simp only [build, parses] at refused
      cases refused
      simp [check, build, parses, Query.matchAll, pure, Except.pure]
    | ok parsed =>
      rw [build_eq_complete parses] at refused
      exact absurd refused (complete_ne_ungrammatical parses e)
  · intro grammatical
    cases parses : DraftQuery.parse checker.keywords source with
    | error found => exact absurd (by simp [build, parses]) (grammatical found)
    | ok parsed => rw [build_eq_complete parses, build_eq_complete parses]
  · intro mode e refused
    obtain ⟨others, shape⟩ := List.head?_eq_some_iff.mp (head?_check_of_build refused)
    rw [← check_eq_problems, shape]
    rfl
  · intro settings e refused
    rw [← check_eq_problems]
    exact Console.answer_refused refused

end Checker
end BroadcastQuery
