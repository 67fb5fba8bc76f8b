import BroadcastQuery.Vocabulary
import BroadcastQuery.Proofs.Lowering
import BroadcastQuery.Proofs.Tables

/-!
Looking names up. What is found is the spelling of a configured name; apart from channels that name
has the lower case of the one looked up, and is found under its own spelling again.
-/
namespace BroadcastQuery

def Config.names (config : Config) : Category → List Text
  | .channel => config.channels
  | .program => config.shows
  | .person => config.people
  | .tag => config.tags

def Category.spelling : Category → Text → Text
  | .channel, name => name.trim.upper
  | _, name => name.trim

theorem Category.spelling_of_ne_channel {category : Category} (other : category ≠ .channel)
    (name : Text) : category.spelling name = name.trim := by
  cases category with
  | channel => contradiction
  | program | person | tag => rfl

namespace Vocabulary

open Casing (Lowers lowers_lower)

variable {config : Config} {category : Category} {name c : Text} {mark : Char}

theorem lookupKey_trim (name : Text) : lookupKey name.trim = lookupKey name := by
  rw [lookupKey, Text.trim_trim, lookupKey]

/-- Marks stay in what names are looked up by. -/
theorem count_lookupKey (isMark : IsMark mark) (name : Text) :
    (lookupKey name).count mark = name.count mark := by
  rw [lookupKey, (lowers_lower name.trim).count isMark, Text.count_trim isMark.solid]

theorem table_ofConfig (config : Config) (category : Category) :
    (ofConfig config).table category =
      (config.names category).map fun name => (lookupKey name, category.spelling name) := by
  cases category <;> rfl

theorem exists_of_find?_table {key : Text}
    (found : ((ofConfig config).table category).find? key = some c) :
    ∃ name ∈ config.names category, lookupKey name = key ∧ c = category.spelling name := by
  rw [table_ofConfig] at found
  obtain ⟨name, member, made⟩ := Table.exists_of_find? found
  obtain ⟨rfl, rfl⟩ := Prod.mk.inj made
  exact ⟨name, member, rfl, rfl⟩

/-- What is found is the spelling of a configured name. -/
theorem exists_of_canonical (found : (ofConfig config).canonical category name = some c) :
    ∃ entry ∈ config.names category, c = category.spelling entry := by
  obtain ⟨entry, member, -, same⟩ := exists_of_find?_table found
  exact ⟨entry, member, same⟩

theorem canonical_of_ne_channel (other : category ≠ .channel) (vocabulary : Vocabulary)
    (name : Text) :
    vocabulary.canonical category name = (vocabulary.table category).find? (lookupKey name) := by
  rw [canonical, if_neg other]

/-- The spelling that is found has the lower case of the name and no blanks around it. -/
theorem canonical_spelling (other : category ≠ .channel)
    (found : (ofConfig config).canonical category name = some c) :
    lookupKey c = lookupKey name ∧ c.trim = c := by
  rw [canonical_of_ne_channel other] at found
  obtain ⟨entry, -, same, rfl⟩ := exists_of_find?_table found
  rw [Category.spelling_of_ne_channel other]
  exact ⟨by rw [lookupKey_trim, same], Text.trim_trim entry⟩

theorem canonical_canonical (other : category ≠ .channel)
    (found : (ofConfig config).canonical category name = some c) :
    (ofConfig config).canonical category c = some c := by
  rw [canonical_of_ne_channel other, (canonical_spelling other found).1,
    ← canonical_of_ne_channel other, found]

theorem count_canonical (other : category ≠ .channel)
    (found : (ofConfig config).canonical category name = some c) (isMark : IsMark mark) :
    c.count mark = name.count mark := by
  rw [← count_lookupKey isMark c, (canonical_spelling other found).1, count_lookupKey isMark]

end Vocabulary

/-! Channels are spelled in capitals. -/

namespace CaseTable

theorem upperRuns_miss_small : upperRuns.all (·.misses (0x61, 0x7A)) = true := by decide +kernel

theorem upperSequences_miss_small : upperSequences.all (fun entry =>
    entry.2.all fun n => n < 0x61 || 0x7A < n) = true := by decide +kernel

end CaseTable

namespace Casing

theorem isLower_iff {c : Char} : c.isLower = true ↔ 97 ≤ c.toNat ∧ c.toNat ≤ 122 := by
  have range : c.isLower = (97 ≤ c.val && c.val ≤ 122) := rfl
  simp [range, UInt32.le_iff_toNat_le]

theorem isLower_ofNat {n : Nat} (outside : n < 0x61 ∨ 0x7A < n) :
    (Char.ofNat n).isLower = false := by
  apply Bool.eq_false_iff.mpr
  intro lower
  have bounds := isLower_iff.mp lower
  by_cases valid : n.isValidChar
  · rw [toNat_ofNat valid] at bounds
    omega
  · rw [Char.ofNat, dif_neg valid] at bounds
    exact absurd bounds.1 (by decide)

/-- What was checked of every code point of ASCII. -/
theorem of_ascii {p : Char → Prop} {c : Char} (each : ∀ n < 0x80, p (Char.ofNat n))
    (small : c.toNat < 0x80) : p c := by
  have here := each c.toNat small
  rwa [Char.ofNat_toNat] at here

/-- What one character may become in capitals, and by which table. -/
inductive UppersTo (c : Char) : Text → Prop
  | ascii (small : c.toNat < 0x80) : UppersTo c [c.toUpper]
  | sequence {made : List Nat} (listed : (c.toNat, made) ∈ CaseTable.upperSequences) :
      UppersTo c (made.map Char.ofNat)
  | run {moved : Nat} (found : CaseTable.shifted CaseTable.upperRuns c.toNat = some moved) :
      UppersTo c [Char.ofNat moved]
  | same (large : 0x80 ≤ c.toNat) : UppersTo c [c]

theorem uppersTo_upperChar (c : Char) : UppersTo c (upperChar c) := by
  unfold upperChar
  split
  case isTrue small => exact .ascii small
  case isFalse large =>
    split
    case h_1 made found =>
      obtain ⟨before, after, shape, -⟩ := List.lookup_eq_some_iff.mp found
      exact .sequence (by simp [shape])
    case h_2 =>
      split
      case h_1 moved found => exact .run found
      case h_2 => exact .same (Nat.le_of_not_lt large)

variable {c : Char} {made : Text}

theorem UppersTo.isLower (uppers : UppersTo c made) : ∀ d ∈ made, d.isLower = false := by
  intro d member
  cases uppers with
  | ascii small =>
    obtain rfl := List.mem_singleton.mp member
    exact of_ascii (p := fun c => c.toUpper.isLower = false) (by decide) small
  | sequence listed =>
    obtain ⟨n, inside, rfl⟩ := List.mem_map.mp member
    have entry := List.all_eq_true.mp CaseTable.upperSequences_miss_small _ listed
    have outside := List.all_eq_true.mp entry n inside
    simp only [Bool.or_eq_true, decide_eq_true_eq] at outside
    exact isLower_ofNat outside
  | run found =>
    obtain rfl := List.mem_singleton.mp member
    exact isLower_ofNat (CaseTable.shifted_misses CaseTable.upperRuns_miss_small found)
  | same large =>
    obtain rfl := List.mem_singleton.mp member
    apply Bool.eq_false_iff.mpr
    intro lower
    have bounds := isLower_iff.mp lower
    omega

theorem isLower_upper (t : Text) : ∀ d ∈ t.upper, d.isLower = false := by
  intro d member
  obtain ⟨c, -, made⟩ := List.mem_flatMap.mp member
  exact (uppersTo_upperChar c).isLower d made

end Casing

theorem Vocabulary.isLower_canonical {config : Config} {name c : Text}
    (found : (ofConfig config).canonical .channel name = some c) : ∀ d ∈ c, d.isLower = false := by
  obtain ⟨entry, -, rfl⟩ := exists_of_canonical found
  exact Casing.isLower_upper entry.trim

end BroadcastQuery
