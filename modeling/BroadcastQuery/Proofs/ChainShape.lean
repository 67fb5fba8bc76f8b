import Mathlib
import BroadcastQuery.Proofs.Violations

/-!
The chains of sources, at every depth, are children with one connective between each two
neighbours. Checking makes one group of each, and finds none malformed.
-/
namespace BroadcastQuery

namespace Draft

/-- A draft inside another one, at any depth, or that draft itself. -/
inductive Within : Draft → Draft → Prop
  | self (draft : Draft) : Within draft draft
  | item {inner child : Draft} {items : List (Draft ⊕ Connective)} (member : .inl child ∈ items)
      (within : Within inner child) : Within inner (.chain items)

/-- Two children or more, at the even places, and one connective at all odd places. -/
structure Alternates (connective : Connective) (items : List (Draft ⊕ Connective)) : Prop where
  several : 3 ≤ items.length
  odd : items.length % 2 = 1
  children : ∀ place item, items[place]? = some item → place % 2 = 0 → ∃ child, item = .inl child
  joints : ∀ place item, items[place]? = some item → place % 2 = 1 → item = .inr connective

variable {connective : Connective} {drafts : List Draft} {items : List (Draft ⊕ Connective)}

theorem getElem?_link (drafts : List Draft) {place : Nat} {item : Draft ⊕ Connective}
    (found : (link connective drafts)[place]? = some item) :
    place % 2 = 0 ∧ (∃ child ∈ drafts, item = .inl child) ∨
      place % 2 = 1 ∧ item = .inr connective := by
  match drafts, place with
  | [], place => simp [link] at found
  | [last], 0 =>
    obtain rfl := Option.some.inj found
    exact .inl ⟨rfl, last, List.mem_cons_self, rfl⟩
  | [last], place + 1 => simp [link] at found
  | first :: second :: rest, 0 =>
    obtain rfl := Option.some.inj found
    exact .inl ⟨rfl, first, List.mem_cons_self, rfl⟩
  | first :: second :: rest, 1 =>
    obtain rfl := Option.some.inj found
    exact .inr ⟨rfl, rfl⟩
  | first :: second :: rest, place + 2 =>
    -- A child and the connective behind it leave the parity of all later places as it was.
    rw [Nat.add_mod_right]
    rcases getElem?_link (second :: rest) found with ⟨even, child, member, shape⟩ | odd
    · exact .inl ⟨even, child, List.mem_cons_of_mem _ member, shape⟩
    · exact .inr odd

theorem mem_of_mem_link {child : Draft} (member : .inl child ∈ link connective drafts) :
    child ∈ drafts := by
  obtain ⟨place, found⟩ := List.mem_iff_getElem?.mp member
  rcases getElem?_link drafts found with ⟨-, other, among, same⟩ | ⟨-, same⟩
  · obtain rfl := Sum.inl.inj same
    exact among
  · contradiction

theorem filterMap_link (connective : Connective) (drafts : List Draft) :
    (link connective drafts).filterMap Sum.getLeft? = drafts := by
  match drafts with
  | [] => rfl
  | [last] => rfl
  | first :: second :: rest =>
    have child : (.inl first : Draft ⊕ Connective).getLeft? = some first := rfl
    have joint : (.inr connective : Draft ⊕ Connective).getLeft? = none := rfl
    rw [link_cons_cons, List.filterMap_cons_some child, List.filterMap_cons_none joint,
      filterMap_link connective (second :: rest)]

theorem alternates_link (several : 2 ≤ drafts.length) :
    Alternates connective (link connective drafts) := by
  have count := length_link connective drafts
  constructor
  · omega
  · omega
  · intro place item found even
    rcases getElem?_link drafts found with ⟨-, child, -, shape⟩ | ⟨odd, -⟩
    · exact ⟨child, shape⟩
    · omega
  · intro place item found odd
    rcases getElem?_link drafts found with ⟨even, -⟩ | ⟨-, shape⟩
    · omega
    · exact shape

theorem Linked.of_within {inner outer : Draft} (linked : outer.Linked)
    (within : Within inner outer) : inner.Linked := by
  induction within with
  | self => exact linked
  | item member _ ih =>
    cases linked with
    | chain several each => exact ih (each _ (mem_of_mem_link member))

theorem Linked.exists_link (linked : (Draft.chain items).Linked) :
    ∃ connective drafts, 2 ≤ drafts.length ∧ items = link connective drafts := by
  cases linked with
  | @chain connective drafts several each => exact ⟨connective, drafts, several, rfl⟩

end Draft

namespace Checker

theorem malformed_not_mem_check (checker : Checker) (source : Text) (defect : Defect) :
    .malformed defect ∉ checker.check source := by
  intro listed
  rw [check_eq_problems] at listed
  unfold problems at listed
  split at listed
  · simp at listed
  · obtain ⟨pair, -, faulty⟩ := List.mem_filterMap.mp listed
    rcases fault?_cases faulty with same | ⟨key, value, reason, same⟩
    · contradiction
    · contradiction

/-- No source is refused as malformed: every chain in its drafts alternates children with one
connective, and is checked to one group of that connective with the checked children in order. -/
theorem malformed_unreachable (checker : Checker) (source : Text) :
    (∀ mode defect, checker.build mode source ≠ .error (.malformed defect)) ∧
    (∀ defect, .malformed defect ∉ checker.check source) ∧
    ∀ parsed, DraftQuery.parse checker.keywords source = .ok parsed →
      ∀ tree ∈ trees parsed, ∀ items, Draft.Within (.chain items) tree →
        ∃ connective, Draft.Alternates connective items ∧
          checker.validate (.chain items) =
            Node.group connective <$> (items.filterMap Sum.getLeft?).mapM checker.validate := by
  refine ⟨?_, malformed_not_mem_check checker source, ?_⟩
  · intro mode defect refused
    exact malformed_not_mem_check checker source defect
      (List.mem_of_head? (head?_check_of_build refused))
  · intro parsed parses tree inside items within
    have linked := (Grammar.linked_of_mem_trees parses inside).of_within within
    obtain ⟨connective, drafts, several, rfl⟩ := linked.exists_link
    refine ⟨connective, Draft.alternates_link several, ?_⟩
    rw [Draft.filterMap_link, validate_link several]

/-- A disjunction inside a conjunction, both of which are checked to groups. -/
theorem malformed_unreachable_nested :
    let checker : Checker := ⟨fun _ _ => none, .standard⟩
    let inner : List (Draft ⊕ Connective) := [.inl (.leaf "hour".toList ['2'] ⟨12, 18⟩), .inr .or,
      .inl (.leaf "hour".toList ['3'] ⟨22, 28⟩)]
    let outer : List (Draft ⊕ Connective) := [.inl (.leaf "hour".toList ['1'] ⟨0, 6⟩), .inr .and,
      .inl (.chain inner)]
    DraftQuery.parse .standard "hour=1 and (hour=2 or hour=3)".toList =
      .ok ⟨none, some (.chain outer), none⟩ ∧
    (∃ connective, Draft.Alternates connective inner) ∧
    checker.validate (.chain outer) = .ok (.group .and [.leaf ⟨.hour, .text ['1']⟩,
      .group .or [.leaf ⟨.hour, .text ['2']⟩, .leaf ⟨.hour, .text ['3']⟩]]) := by
  intro checker inner outer
  have parses : DraftQuery.parse checker.keywords "hour=1 and (hour=2 or hour=3)".toList =
      .ok ⟨none, some (.chain outer), none⟩ := by
    cbv
  have shapes := (malformed_unreachable checker "hour=1 and (hour=2 or hour=3)".toList).2.2
    _ parses (.chain outer) (by simp [trees])
  obtain ⟨connective, alternates, -⟩ :=
    shapes inner (.item (by simp [outer]) (.self _))
  refine ⟨parses, ⟨connective, alternates⟩, ?_⟩
  cbv

end Checker
end BroadcastQuery
