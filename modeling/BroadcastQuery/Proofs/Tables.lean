import Mathlib.Data.List.Nodup
import BroadcastQuery.Table
import BroadcastQuery.Proofs.Ordering

/-!
Finding entries in tables. Of the entries of one key the last is found, so their order shows only
where a key has several. Sorted, a table of different keys ascends strictly and finds the same.
-/
namespace BroadcastQuery.Table

variable {α ε : Type} {table table' : Table α} {entry : ε → Text × α}
  {items order order' : List ε} {item : ε} {key : Text} {value : α}

/-- An entry is found if no later one has its key. -/
theorem find?_map_eq_some_iff : find? (items.map entry) key = some value ↔
    ∃ before item after, items = before ++ item :: after ∧ entry item = (key, value) ∧
      ∀ other ∈ after, (entry other).1 ≠ key := by
  rw [find?, List.lookup_eq_some_iff]
  constructor
  · rintro ⟨later, earlier, shape, others⟩
    have forth : items.map entry = earlier.reverse ++ ((key, value) :: later.reverse) := by
      simpa using congrArg List.reverse shape
    obtain ⟨before, tail, rfl, -, tails⟩ := List.map_eq_append_iff.mp forth
    obtain ⟨item, after, rfl, made, afters⟩ := List.map_eq_cons_iff.mp tails
    refine ⟨before, item, after, rfl, made, fun other member same => ?_⟩
    have listed : entry other ∈ later := by
      rw [← List.mem_reverse, ← afters]
      exact List.mem_map_of_mem member
    have differs := others (entry other) listed
    simp [same] at differs
  · rintro ⟨before, item, after, rfl, made, others⟩
    refine ⟨(after.map entry).reverse, (before.map entry).reverse, ?_, ?_⟩
    · simp [made]
    · intro other member
      obtain ⟨item, listed, rfl⟩ := List.mem_map.mp (List.mem_reverse.mp member)
      exact bne_iff_ne.mpr (others item listed).symm

theorem exists_of_find? (found : find? (items.map entry) key = some value) :
    ∃ item ∈ items, entry item = (key, value) := by
  obtain ⟨before, item, after, rfl, made, -⟩ := find?_map_eq_some_iff.mp found
  exact ⟨item, by simp, made⟩

theorem find?_concat (table : Table α) (key : Text) (value : α) :
    find? (table ++ [(key, value)]) key = some value := by
  simp [find?]

theorem exists_find? (member : item ∈ items) (same : (entry item).1 = key) :
    ∃ value, find? (items.map entry) key = some value := by
  refine Option.ne_none_iff_exists'.mp fun absent => ?_
  have listed : entry item ∈ (items.map entry).reverse :=
    List.mem_reverse.mpr (List.mem_map_of_mem member)
  have other := List.lookup_eq_none_iff.mp absent (entry item) listed
  simp [same] at other

/-- Any entry comes last in some order, and is found then. -/
theorem exists_order (entry : ε → Text × α) (member : item ∈ items) : ∃ order : List ε,
    order.Perm items ∧ find? (order.map entry) (entry item).1 = some (entry item).2 := by
  obtain ⟨before, after, rfl⟩ := List.append_of_mem member
  refine ⟨before ++ after ++ [item], ?_, ?_⟩
  · rw [List.append_assoc]
    exact (List.perm_append_singleton item after).append_left before
  · rw [List.map_append]
    exact find?_concat _ _ _

/-- Entries of the same keys are found in every order. -/
theorem find?_perm_cases (entry : ε → Text × α) (perm : order.Perm items)
    (perm' : order'.Perm items) (key : Text) :
    (find? (order.map entry) key = none ∧ find? (order'.map entry) key = none) ∨
    ∃ item ∈ items, ∃ item' ∈ items, (entry item).1 = key ∧ (entry item').1 = key ∧
      find? (order.map entry) key = some (entry item).2 ∧
      find? (order'.map entry) key = some (entry item').2 := by
  cases found : find? (order.map entry) key with
  | none =>
    refine .inl ⟨rfl, Option.eq_none_iff_forall_ne_some.mpr fun value found' => ?_⟩
    obtain ⟨item', member', made'⟩ := exists_of_find? found'
    have listed := perm.mem_iff.mpr (perm'.mem_iff.mp member')
    obtain ⟨other, present⟩ := exists_find? listed (congrArg Prod.fst made')
    rw [found] at present
    contradiction
  | some value =>
    obtain ⟨item, member, made⟩ := exists_of_find? found
    have listed := perm.mem_iff.mp member
    obtain ⟨value', found'⟩ :=
      exists_find? (perm'.mem_iff.mpr listed) (congrArg Prod.fst made)
    obtain ⟨item', member', made'⟩ := exists_of_find? found'
    refine .inr ⟨item, listed, item', perm'.mem_iff.mp member', ?_⟩
    rw [found', made, made']
    exact ⟨rfl, rfl, rfl, rfl⟩

/-! Sorted tables. -/

theorem sorted_perm (table : Table α) : table.sorted.Perm table := List.mergeSort_perm table _

/-- Different keys stand in strictly ascending order. -/
theorem strictly_ascending_sorted (distinct : (table.map Prod.fst).Nodup) :
    (table.sorted.map Prod.fst).Pairwise fun s t => Text.le t s = false := by
  have apart : (table.sorted.map Prod.fst).Nodup :=
    (table.sorted_perm.map Prod.fst).nodup_iff.mpr distinct
  have ascending : (table.sorted.map Prod.fst).Pairwise fun s t => Text.le s t = true :=
    List.pairwise_map.mpr (Text.ascending_mergeSort Prod.fst table)
  refine (ascending.and apart).imp fun {s t} order => ?_
  exact Bool.eq_false_iff.mpr fun back => order.2 (Text.le_antisymm order.1 back)

/-- Where no key has two entries, every order finds the same. -/
theorem find?_eq_of_perm (perm : table.Perm table') (distinct : (table.map Prod.fst).Nodup)
    (key : Text) : table.find? key = table'.find? key := by
  have cases := find?_perm_cases id perm (.refl table') key
  rw [List.map_id, List.map_id] at cases
  rcases cases with ⟨absent, absent'⟩ | ⟨a, member, b, member', same, same', found, found'⟩
  · rw [absent, absent']
  · have distinct' : (table'.map Prod.fst).Nodup := (perm.map Prod.fst).nodup_iff.mp distinct
    obtain rfl : a = b :=
      List.inj_on_of_nodup_map distinct' member member' (same.trans same'.symm)
    rw [found, found']

end BroadcastQuery.Table
