import BroadcastQuery.Proofs.Names

/-!
Looking channels up again. A channel is spelled in capitals, but found by the lower case of its
configured name and through at most one further name. So its spelling leads back to it where
lowering undoes the capitals and no later channel has the same lower case, unless that spelling is
itself configured as a further name of another channel.
-/
namespace BroadcastQuery

/-! Capitals of characters that are not blank. -/

namespace CaseTable

theorem upperRuns_miss_blanks :
    ∀ bounds ∈ (0x09, 0x20) :: blanks, upperRuns.all (·.misses bounds) = true := by
  decide +kernel

theorem upperSequences_solid : upperSequences.all (fun entry =>
    !entry.2.isEmpty && entry.2.all fun n => !isBlank (Char.ofNat n)) = true := by
  decide +kernel

end CaseTable

theorem isBlank_ofNat {n : Nat}
    (outside : ∀ bounds ∈ (0x09, 0x20) :: CaseTable.blanks, n < bounds.1 ∨ bounds.2 < n) :
    isBlank (Char.ofNat n) = false := by
  obtain ⟨small, large⟩ := List.forall_mem_cons.mp outside
  by_cases valid : n.isValidChar
  · have code := toNat_ofNat valid
    apply Bool.eq_false_iff.mpr
    intro blank
    by_cases ascii : n < 0x80
    · simp only [isBlank, code, Bool.or_eq_true, Bool.and_eq_true, decide_eq_true_eq,
        beq_iff_eq] at blank
      omega
    · obtain ⟨bounds, among, inside⟩ := exists_blanks (by omega) blank
      have misses := large bounds among
      omega
  · rw [Char.ofNat, dif_neg valid]
    rfl

namespace Casing

variable {c : Char} {made : Text}

/-- Capitals of a character that is not blank are some, and not blank. -/
theorem UppersTo.solid (uppers : UppersTo c made) (solid : isBlank c = false) :
    made ≠ [] ∧ ∀ d ∈ made, isBlank d = false := by
  cases uppers with
  | ascii small =>
    have same : isBlank c.toUpper = isBlank c :=
      of_ascii (p := fun c => isBlank c.toUpper = isBlank c) (by decide) small
    simpa [same] using solid
  | sequence listed =>
    have entry := List.all_eq_true.mp CaseTable.upperSequences_solid _ listed
    simpa using entry
  | run found =>
    have outside := fun bounds among =>
      CaseTable.shifted_misses (CaseTable.upperRuns_miss_blanks bounds among) found
    simpa using isBlank_ofNat outside
  | same => simpa using solid

end Casing

namespace Text

variable {t : Text}

theorem upper_append (s t : Text) : (s ++ t).upper = s.upper ++ t.upper := List.flatMap_append

/-- The capitals of a trimmed text are trimmed. -/
theorem trim_upper (t : Text) : t.trim.upper.trim = t.trim.upper := by
  obtain ⟨first, last⟩ := ends_trim t
  generalize t.trim = t at first last
  apply trim_of_ends
  · intro d head
    cases t with
    | nil => cases head
    | cons c rest =>
      obtain ⟨some, each⟩ := (Casing.uppersTo_upperChar c).solid (first c rfl)
      rw [upper, List.flatMap_cons, List.head?_append, List.head?_eq_some_head some,
        Option.some_or] at head
      obtain rfl := Option.some.inj head
      exact each _ (List.head_mem some)
  · intro d final
    rcases List.eq_nil_or_concat t with rfl | ⟨before, c, rfl⟩
    · cases final
    · rw [List.concat_eq_append] at last final
      obtain ⟨some, each⟩ := (Casing.uppersTo_upperChar c).solid (last c (by simp))
      rw [upper_append, upper, upper, List.flatMap_singleton, List.getLast?_append,
        List.getLast?_eq_some_getLast some, Option.some_or] at final
      obtain rfl := Option.some.inj final
      exact each _ (List.getLast_mem some)

end Text

namespace Vocabulary

variable {config : Config} {name c : Text}

theorem canonical_channel_eq (vocabulary : Vocabulary) (name : Text) :
    vocabulary.canonical .channel name = vocabulary.channels.find?
      ((vocabulary.channelAliases.find? (lookupKey name)).getD (lookupKey name)) := rfl

/-- A configured channel prevails if no later one is found by the same key. -/
def Prevails (config : Config) (entry : Text) : Prop :=
  ∃ before after, config.channels = before ++ entry :: after ∧
    ∀ other ∈ after, lookupKey other ≠ lookupKey entry

theorem find?_channels_iff {key : Text} : (ofConfig config).channels.find? key = some c ↔
    ∃ entry, Prevails config entry ∧ lookupKey entry = key ∧ entry.trim.upper = c := by
  rw [ofConfig, Table.find?_map_eq_some_iff]
  constructor
  · rintro ⟨before, entry, after, shape, made, others⟩
    obtain ⟨rfl, rfl⟩ := Prod.mk.inj made
    exact ⟨entry, ⟨before, after, shape, others⟩, rfl, rfl⟩
  · rintro ⟨entry, ⟨before, after, shape, others⟩, rfl, rfl⟩
    exact ⟨before, entry, after, shape, rfl, others⟩

/-- A channel that is found is spelled as one that prevails. Where the lower case of one so spelled
is that of the spelling, the spelling is its own canonical one, unless that lower case is a further
name and leads elsewhere. -/
theorem canonical_channel_iff (found : (ofConfig config).canonical .channel name = some c) :
    (∃ entry, Prevails config entry ∧ c = entry.trim.upper) ∧
    ∀ entry, Prevails config entry → c = entry.trim.upper → c.lower = entry.trim.lower →
      ((ofConfig config).canonical .channel c = some c ↔
        ∀ target, (ofConfig config).channelAliases.find? c.lower = some target →
          (ofConfig config).channels.find? target = some c) := by
  constructor
  · rw [canonical_channel_eq, find?_channels_iff] at found
    obtain ⟨entry, prevails, -, spelled⟩ := found
    exact ⟨entry, prevails, spelled.symm⟩
  · intro entry prevails spelled back
    have key : lookupKey c = c.lower := by rw [lookupKey, spelled, Text.trim_upper]
    rw [canonical_channel_eq, key]
    cases (ofConfig config).channelAliases.find? c.lower with
    | none =>
      have direct : (ofConfig config).channels.find? c.lower = some c :=
        find?_channels_iff.mpr ⟨entry, prevails, back.symm, spelled.symm⟩
      simp [direct]
    | some target => simp

/-- Two channels of one spelling, which is that of one in lower case, and a further name for it. -/
theorem canonical_channel_iff_sharp :
    let config := { Config.standard with
      channels := ["straße".toList, " Strasse ".toList]
      channelAliases := [("strasse".toList, "STRASSE".toList)] }
    (ofConfig config).canonical .channel "straße ".toList = some "STRASSE".toList ∧
    (ofConfig config).canonical .channel "STRASSE".toList = some "STRASSE".toList := by
  intro config
  have found : (ofConfig config).canonical .channel "straße ".toList = some "STRASSE".toList := by
    rfl
  have prevails : Prevails config " Strasse ".toList := ⟨["straße".toList], [], rfl, by simp⟩
  refine ⟨found, ((canonical_channel_iff found).2 _ prevails rfl rfl).mpr ?_⟩
  rintro target ⟨⟩
  rfl

/-- A further name that is spelled like one channel, and stands for another, hides the first. -/
theorem canonical_channel_hidden :
    let config := { Config.standard with
      channels := ["FOX".toList, "FOXNEWS".toList]
      channelAliases := [("murdoch".toList, "FOX".toList), ("FOX".toList, "FOXNEWS".toList)] }
    (ofConfig config).canonical .channel "murdoch".toList = some "FOX".toList ∧
    (ofConfig config).canonical .channel "FOX".toList = some "FOXNEWS".toList ∧
    "FOXNEWS".toList ≠ "FOX".toList := by
  exact ⟨rfl, rfl, by decide⟩

end Vocabulary
end BroadcastQuery
