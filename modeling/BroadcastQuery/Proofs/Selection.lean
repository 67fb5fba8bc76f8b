import BroadcastQuery.Proofs.FurtherNames

/-!
Selecting what is configured. Every configured name is found, spelled like a configured one with
its lower case. Only a channel can be missed: where its name is also a further name, the channel
that this stands for is looked for in its place, and there may be none.
-/
namespace BroadcastQuery.Vocabulary

/-- What the configured names hold for a name: the spelling of one with its lower case, or nothing
if there is none. -/
inductive Finds (config : Config) (category : Category) (name : Text) : Option Text → Prop
  | some {entry : Text} (member : entry ∈ config.names category)
      (same : lookupKey entry = lookupKey name) :
      Finds config category name (some (category.spelling entry))
  | none (absent : ∀ entry ∈ config.names category, lookupKey entry ≠ lookupKey name) :
      Finds config category name none

variable {config : Config} {category : Category} {name : Text} {answer : Option Text}

theorem finds_find? (config : Config) (category : Category) (name : Text) :
    Finds config category name (((ofConfig config).table category).find? (lookupKey name)) := by
  cases found : ((ofConfig config).table category).find? (lookupKey name) with
  | some c =>
    obtain ⟨entry, member, same, rfl⟩ := exists_of_find?_table found
    exact .some member same
  | none =>
    refine .none fun entry member same => ?_
    obtain ⟨value, present⟩ : ∃ value,
        ((ofConfig config).table category).find? (lookupKey name) = Option.some value := by
      rw [table_ofConfig]
      exact Table.exists_find? member same
    rw [found] at present
    contradiction

/-- A configured name has its own lower case at least. -/
theorem Finds.exists_of_listed (finds : Finds config category name answer)
    (listed : name ∈ config.names category) : ∃ entry ∈ config.names category,
      lookupKey entry = lookupKey name ∧ answer = Option.some (category.spelling entry) := by
  cases finds with
  | some member same => exact ⟨_, member, same, rfl⟩
  | none absent => exact absurd rfl (absent name listed)

theorem finds_canonical (plain : category = .channel →
    ∀ further ∈ config.channelAliases, lookupKey further.1 ≠ lookupKey name) :
    Finds config category name ((ofConfig config).canonical category name) := by
  by_cases channel : category = .channel
  · subst channel
    have absent : (ofConfig config).channelAliases.find? (lookupKey name) = none := by
      refine Option.eq_none_iff_forall_ne_some.mpr fun target found => ?_
      obtain ⟨further, member, made⟩ := Table.exists_of_find? found
      exact plain rfl further member (congrArg Prod.fst made)
    rw [canonical_channel_eq, absent]
    exact finds_find? config .channel name
  · rw [canonical_of_ne_channel channel]
    exact finds_find? config category name

/-- Further names come first. -/
theorem exists_finds_canonical {further : Text × Text} (member : further ∈ config.channelAliases)
    (same : lookupKey further.1 = lookupKey name) :
    ∃ further ∈ config.channelAliases, lookupKey further.1 = lookupKey name ∧
      Finds config .channel further.2 ((ofConfig config).canonical .channel name) := by
  obtain ⟨target, found⟩ : ∃ target,
      Table.find? (config.channelAliases.map furtherName) (lookupKey name) = Option.some target :=
    Table.exists_find? member same
  obtain ⟨last, listed, made⟩ := Table.exists_of_find? found
  obtain ⟨key, rfl⟩ := Prod.mk.inj made
  refine ⟨last, listed, key, ?_⟩
  have leads : (ofConfig config).channelAliases.find? (lookupKey name) =
      Option.some (lookupKey last.2) := found
  rw [canonical_channel_eq, leads]
  exact finds_find? config .channel last.2

/-- A configured name is found as one that is configured with the same lower case. Only where it is
also a further name of a channel, that channel is looked for, and found if it is configured. -/
theorem canonical_listed (listed : name ∈ config.names category) :
    ((category = .channel →
        ∀ further ∈ config.channelAliases, lookupKey further.1 ≠ lookupKey name) →
      ∃ entry ∈ config.names category, lookupKey entry = lookupKey name ∧
        (ofConfig config).canonical category name = some (category.spelling entry)) ∧
    (category = .channel →
      (∃ further ∈ config.channelAliases, lookupKey further.1 = lookupKey name) →
      ∃ further ∈ config.channelAliases, lookupKey further.1 = lookupKey name ∧
        Finds config .channel further.2 ((ofConfig config).canonical .channel name)) := by
  constructor
  · intro plain
    exact (finds_canonical plain).exists_of_listed listed
  · rintro - ⟨further, member, same⟩
    exact exists_finds_canonical member same

/-- Two spellings of one program, and a channel that is also a further name of another. -/
theorem canonical_listed_twice :
    let config := { Config.standard with
      channels := [" Fox ".toList, "CNN".toList]
      channelAliases := [("cnn ".toList, "FOX".toList)]
      shows := ["hannity ".toList, "Hannity".toList] }
    (∃ entry ∈ config.shows, lookupKey entry = lookupKey "hannity ".toList ∧
      (ofConfig config).canonical .program "hannity ".toList = some entry.trim) ∧
    ∃ further ∈ config.channelAliases, lookupKey further.1 = lookupKey "CNN".toList ∧
      Finds config .channel further.2 ((ofConfig config).canonical .channel "CNN".toList) := by
  intro config
  have program : "hannity ".toList ∈ config.names .program := List.mem_cons_self
  have channel : "CNN".toList ∈ config.names .channel :=
    List.mem_cons_of_mem _ List.mem_cons_self
  constructor
  · exact (canonical_listed program).1 (by rintro ⟨⟩)
  · exact (canonical_listed channel).2 rfl ⟨_, List.mem_cons_self, rfl⟩

/-- The further name that is there when none is configured hides a channel of that name. -/
theorem canonical_listed_hidden :
    let config := { Config.standard with channels := ["FOX".toList] }
    "FOX".toList ∈ config.names .channel ∧
      (ofConfig config).canonical .channel "FOX".toList = none := by
  exact ⟨List.mem_cons_self, rfl⟩

end BroadcastQuery.Vocabulary
