import BroadcastQuery.Keyword
import BroadcastQuery.Proofs.Pieces

/-!
What lower case keeps. It works on every character by itself, apart from the final sigma, and
neither makes nor loses blanks or marks; so texts with one lower case have the same marks and the
same words up to case.
-/
namespace BroadcastQuery

/-! What the tables move characters to. -/

namespace CaseTable

/-- No character is moved by a run to a code point between two bounds, both included. -/
def Run.misses (run : Run) (bounds : Nat × Nat) : Bool :=
  (Int.ofNat run.last + run.shift).toNat < bounds.1 ||
    bounds.2 < (Int.ofNat run.first + run.shift).toNat

/-- No character between two bounds is moved by a run. -/
def Run.spares (run : Run) (bounds : Nat × Nat) : Bool :=
  run.last < bounds.1 || bounds.2 < run.first

variable {runs : List Run} {bounds : Nat × Nat} {n moved : Nat}

theorem shifted_misses (all : runs.all (·.misses bounds) = true)
    (found : shifted runs n = some moved) : moved < bounds.1 ∨ bounds.2 < moved := by
  obtain ⟨run, first, rfl⟩ := Option.map_eq_some_iff.mp found
  have covers := List.find?_some first
  have misses := List.all_eq_true.mp all run (List.mem_of_find?_eq_some first)
  simp only [Run.covers, Run.misses, Bool.and_eq_true, Bool.or_eq_true, decide_eq_true_eq,
    Int.ofNat_eq_natCast] at covers misses ⊢
  omega

theorem shifted_spares (all : runs.all (·.spares bounds) = true)
    (found : shifted runs n = some moved) : n < bounds.1 ∨ bounds.2 < n := by
  obtain ⟨run, first, -⟩ := Option.map_eq_some_iff.mp found
  have covers := List.find?_some first
  have spares := List.all_eq_true.mp all run (List.mem_of_find?_eq_some first)
  simp only [Run.covers, Run.spares, Bool.and_eq_true, Bool.or_eq_true, decide_eq_true_eq]
    at covers spares
  omega

/-- Code points of blanks outside ASCII. -/
def blanks : List (Nat × Nat) :=
  [(0x85, 0x85), (0xA0, 0xA0), (0x1680, 0x1680), (0x2000, 0x200A), (0x2028, 0x2029),
    (0x202F, 0x202F), (0x205F, 0x205F), (0x3000, 0x3000)]

theorem lowerRuns_spare_blanks :
    ∀ bounds ∈ blanks, lowerRuns.all (·.spares bounds) = true := by decide +kernel

theorem lowerRuns_miss_blanks :
    ∀ bounds ∈ blanks, lowerRuns.all (·.misses bounds) = true := by decide +kernel

/-- Of the letters of ASCII only `k` is the lower case of other characters. -/
theorem lowerRuns_miss_ascii :
    lowerRuns.all (·.misses (0, 0x6A)) = true ∧ lowerRuns.all (·.misses (0x6C, 0x7F)) = true := by
  decide +kernel

theorem lowerRuns_miss_surrogates : lowerRuns.all (·.misses (0xD800, 0xDFFF)) = true := by
  decide +kernel

theorem shifted_lt {limit : Nat}
    (all : runs.all (fun run => (Int.ofNat run.last + run.shift).toNat < limit) = true)
    (found : shifted runs n = some moved) : moved < limit := by
  obtain ⟨run, first, rfl⟩ := Option.map_eq_some_iff.mp found
  have covers := List.find?_some first
  have below := List.all_eq_true.mp all run (List.mem_of_find?_eq_some first)
  simp only [Run.covers, Bool.and_eq_true, decide_eq_true_eq, Int.ofNat_eq_natCast]
    at covers below ⊢
  omega

theorem lowerRuns_lt :
    lowerRuns.all (fun run => (Int.ofNat run.last + run.shift).toNat < 0x110000) = true := by
  decide +kernel

end CaseTable

theorem toNat_ofNat {n : Nat} (valid : n.isValidChar) : (Char.ofNat n).toNat = n := by
  rw [Char.ofNat, dif_pos valid]
  rfl

theorem exists_blanks {c : Char} (large : 0x80 ≤ c.toNat) (blank : isBlank c = true) :
    ∃ bounds ∈ CaseTable.blanks, bounds.1 ≤ c.toNat ∧ c.toNat ≤ bounds.2 := by
  simp only [isBlank, Bool.or_eq_true, Bool.and_eq_true, decide_eq_true_eq, beq_iff_eq] at blank
  simp [CaseTable.blanks]
  omega

/-- A character of ASCII that is neither letter nor digit nor blank. -/
structure IsMark (c : Char) : Prop where
  ascii : c.toNat < 0x80
  plain : c.isAlphanum = false
  solid : isBlank c = false

theorem IsMark.isAlpha {c : Char} (isMark : IsMark c) : c.isAlpha = false := by
  have plain := isMark.plain
  unfold Char.isAlphanum at plain
  exact (Bool.or_eq_false_iff.mp plain).1

theorem IsMark.isDigit {c : Char} (isMark : IsMark c) : c.isDigit = false := by
  have plain := isMark.plain
  unfold Char.isAlphanum at plain
  exact (Bool.or_eq_false_iff.mp plain).2

/-- What characters outside ASCII may become. -/
def isMade (d : Char) : Bool := !isBlank d && (0x80 ≤ d.toNat || d == 'k' || d == 'i')

namespace Casing

/-- What one character may become in lower case, whatever stands around it. -/
inductive LowersTo : Char → Text → Prop
  | ascii {c : Char} (small : c.toNat < 0x80) : LowersTo c [c.toLower]
  | blank {c : Char} (blank : isBlank c = true) : LowersTo c [c]
  | other {c : Char} {made : Text} (large : 0x80 ≤ c.toNat) (solid : isBlank c = false)
      (some : made ≠ []) (each : ∀ d ∈ made, isMade d = true) : LowersTo c made

theorem isMade_of_large {c : Char} (large : 0x80 ≤ c.toNat) (solid : isBlank c = false) :
    isMade c = true := by
  simp [isMade, large, solid]

/-- The character that the table gives for another. -/
theorem isMade_shifted {n moved : Nat}
    (found : CaseTable.shifted CaseTable.lowerRuns n = some moved) : isMade (Char.ofNat moved) = true := by
  have low := CaseTable.shifted_misses CaseTable.lowerRuns_miss_ascii.1 found
  have high := CaseTable.shifted_misses CaseTable.lowerRuns_miss_ascii.2 found
  have whole := CaseTable.shifted_misses CaseTable.lowerRuns_miss_surrogates found
  have bounded := CaseTable.shifted_lt CaseTable.lowerRuns_lt found
  have valid : moved.isValidChar := by
    unfold Nat.isValidChar
    omega
  have code := toNat_ofNat valid
  by_cases k : moved = 0x6B
  · subst k
    decide
  · have large : 0x80 ≤ (Char.ofNat moved).toNat := by omega
    refine isMade_of_large large (Bool.eq_false_iff.mpr fun blank => ?_)
    obtain ⟨bounds, among, inside⟩ := exists_blanks large blank
    have misses := CaseTable.shifted_misses (CaseTable.lowerRuns_miss_blanks bounds among) found
    omega

theorem lowersTo_lowerChar (c : Char) : LowersTo c (lowerChar c) := by
  unfold lowerChar
  split
  case isTrue small => exact .ascii small
  case isFalse large =>
    have large : 0x80 ≤ c.toNat := Nat.le_of_not_lt large
    split
    case isTrue dotted =>
      refine .other large (by simp [isBlank, dotted]) (List.cons_ne_nil _ _) ?_
      exact List.all_eq_true.mp (by decide)
    case isFalse =>
      split
      case h_1 moved found =>
        refine .other large (Bool.eq_false_iff.mpr fun blank => ?_) (List.cons_ne_nil _ _) ?_
        · obtain ⟨bounds, among, inside⟩ := exists_blanks large blank
          have spares :=
            CaseTable.shifted_spares (CaseTable.lowerRuns_spare_blanks bounds among) found
          omega
        · simpa using isMade_shifted found
      case h_2 =>
        cases blank : isBlank c with
        | true => exact .blank blank
        | false =>
          refine .other large blank (List.cons_ne_nil _ _) ?_
          simpa using isMade_of_large large blank

/-- What a text may become in lower case, whatever stands around it. -/
inductive Lowers : Text → Text → Prop
  | nil : Lowers [] []
  | cons {c : Char} {made t u : Text} (first : LowersTo c made) (rest : Lowers t u) :
      Lowers (c :: t) (made ++ u)

theorem lowers_lowerAfter (before t : Text) : Lowers t (lowerAfter before t) := by
  induction t generalizing before with
  | nil => exact .nil
  | cons c rest ih =>
    refine .cons ?_ (ih (c :: before))
    split
    case isTrue sigma =>
      subst sigma
      refine .other (by decide) (by decide) (List.cons_ne_nil _ _) ?_
      split <;> exact List.all_eq_true.mp (by decide)
    case isFalse => exact lowersTo_lowerChar c

theorem lowers_lower (t : Text) : Lowers t t.lower := lowers_lowerAfter [] t

/-! Marks, blanks and words stay. -/

variable {c mark : Char} {made t u : Text}

theorem toLower_cases (c : Char) :
    (65 ≤ c.toNat ∧ c.toNat ≤ 90 ∧ c.toLower.toNat = c.toNat + 32) ∨ c.toLower = c := by
  unfold Char.toLower
  split
  case isTrue upper =>
    obtain ⟨low, high⟩ := upper
    have first : 65 ≤ c.toNat := UInt32.le_iff_toNat_le.mp low
    have last : c.toNat ≤ 90 := UInt32.le_iff_toNat_le.mp high
    refine .inl ⟨first, last, ?_⟩
    have moved : (c.val + ('a'.val - 'A'.val)).toNat = (c.val.toNat + 32) % 4294967296 := by
      rw [UInt32.toNat_add]
      rfl
    have code : c.val.toNat = c.toNat := rfl
    rw [Char.toNat, moved, code]
    omega
  case isFalse => exact .inr rfl

theorem isAlpha_of_toNat {c : Char}
    (letter : (65 ≤ c.toNat ∧ c.toNat ≤ 90) ∨ (97 ≤ c.toNat ∧ c.toNat ≤ 122)) :
    c.isAlpha = true := by
  have ranges : c.isAlpha =
      (decide (65 ≤ c.val ∧ c.val ≤ 90) || (97 ≤ c.val && c.val ≤ 122)) := rfl
  rw [ranges]
  simpa [UInt32.le_iff_toNat_le] using letter

theorem toLower_eq_iff (other : mark.isAlpha = false) : c.toLower = mark ↔ c = mark := by
  rcases toLower_cases c with ⟨low, high, moved⟩ | same
  · constructor
    · rintro rfl
      rw [isAlpha_of_toNat (.inr (by omega))] at other
      contradiction
    · rintro rfl
      rw [isAlpha_of_toNat (.inl ⟨low, high⟩)] at other
      contradiction
  · rw [same]

theorem isBlank_of_letter (low : 65 ≤ c.toNat) (high : c.toNat ≤ 122) : isBlank c = false := by
  simp only [isBlank, Bool.or_eq_false_iff, Bool.and_eq_false_iff, beq_eq_false_iff_ne,
    decide_eq_false_iff_not]
  omega

theorem isBlank_toLower (c : Char) : isBlank c.toLower = isBlank c := by
  rcases toLower_cases c with ⟨low, high, moved⟩ | same
  · rw [isBlank_of_letter (c := c.toLower) (by omega) (by omega),
      isBlank_of_letter low (by omega)]
  · rw [same]

theorem LowersTo.count (lowers : LowersTo c made) (isMark : IsMark mark) :
    made.count mark = [c].count mark := by
  have other := isMark.isAlpha
  have ascii := isMark.ascii
  cases lowers with
  | ascii small =>
    by_cases same : c = mark
    · simp [same, (toLower_eq_iff other).mpr rfl]
    · simp [same, mt (toLower_eq_iff other).mp same]
  | blank => rfl
  | other large solid some each =>
    have absent : mark ∉ made := by
      intro member
      have result := each mark member
      simp only [isMade, Bool.and_eq_true, Bool.or_eq_true, decide_eq_true_eq, beq_iff_eq] at result
      rcases result.2 with (high | rfl) | rfl
      · omega
      · contradiction
      · contradiction
    have different : c ≠ mark := by
      rintro rfl
      omega
    rw [List.count_eq_zero.mpr absent, List.count_eq_zero.mpr (by simpa using different.symm)]

theorem Lowers.count (lowers : Lowers t u) (isMark : IsMark mark) :
    u.count mark = t.count mark := by
  induction lowers with
  | nil => rfl
  | @cons c made t u first rest ih =>
    rw [List.count_append, first.count isMark, ih, ← List.count_append, List.singleton_append]

/-- A blank stays itself, and no other character becomes one. -/
theorem LowersTo.blank_or (lowers : LowersTo c made) :
    (isBlank c = true ∧ made = [c]) ∨ (made ≠ [] ∧ ∀ d ∈ c :: made, isBlank d = false) := by
  cases lowers with
  | ascii small =>
    cases blank : isBlank c with
    | true =>
      rcases toLower_cases c with ⟨low, high, moved⟩ | same
      · rw [isBlank_of_letter low (by omega)] at blank
        contradiction
      · exact .inl ⟨rfl, by rw [same]⟩
    | false =>
      refine .inr ⟨List.cons_ne_nil _ _, ?_⟩
      simp [isBlank_toLower, blank]
  | blank blank => exact .inl ⟨blank, rfl⟩
  | other large solid some each =>
    refine .inr ⟨some, ?_⟩
    intro d member
    rcases List.mem_cons.mp member with rfl | member
    · exact solid
    · have result := each d member
      simp only [isMade, Bool.and_eq_true, Bool.not_eq_true'] at result
      exact result.1

theorem Lowers.eq_nil_iff (lowers : Lowers t u) : t = [] ↔ u = [] := by
  cases lowers with
  | nil => simp
  | cons first rest =>
    rcases first.blank_or with ⟨-, rfl⟩ | ⟨some, -⟩
    · simp
    · simp [some]

theorem Lowers.mem_iff_of_isBlank (lowers : Lowers t u) (blank : isBlank mark = true) :
    mark ∈ t ↔ mark ∈ u := by
  induction lowers with
  | nil => rfl
  | @cons c made t u first rest ih =>
    rcases first.blank_or with ⟨-, rfl⟩ | ⟨-, solid⟩
    · rw [List.mem_cons, ih, List.singleton_append, List.mem_cons]
    · have absent {d : Char} (member : d ∈ c :: made) : d ≠ mark := by
        rintro rfl
        rw [solid d member] at blank
        contradiction
      rw [List.mem_cons, ih, List.mem_append]
      constructor
      · rintro (rfl | member)
        · exact absurd rfl (absent List.mem_cons_self)
        · exact .inr member
      · rintro (member | member)
        · exact absurd rfl (absent (List.mem_cons_of_mem _ member))
        · exact .inr member

/-- The words of a text and those of its lower case belong together one by one. -/
theorem Lowers.exists_pieces (lowers : Lowers t u) : ∃ couples : List (Text × Text),
    pieces isBlank t = couples.map Prod.fst ∧ pieces isBlank u = couples.map Prod.snd ∧
    ∀ couple ∈ couples, Lowers couple.1 couple.2 := by
  induction lowers with
  | nil => exact ⟨[([], [])], rfl, rfl, by simpa using Lowers.nil⟩
  | @cons c made t u first rest ih =>
    obtain ⟨couples, words, lowered, each⟩ := ih
    rcases first.blank_or with ⟨blank, rfl⟩ | ⟨-, solid⟩
    · refine ⟨([], []) :: couples, ?_, ?_, ?_⟩
      · simp [pieces, blank, words]
      · simp [pieces, blank, lowered]
      · rintro couple (_ | ⟨_, member⟩)
        · exact .nil
        · exact each couple member
    · have free : ∀ d ∈ made, isBlank d = false := fun d member =>
        solid d (List.mem_cons_of_mem _ member)
      cases couples with
      | nil => exact absurd words (pieces_ne_nil _ _)
      | cons couple couples =>
        refine ⟨(c :: couple.1, made ++ couple.2) :: couples, ?_, ?_, ?_⟩
        · simp [pieces, solid c List.mem_cons_self, words]
        · simp [pieces_append free, lowered]
        · rintro other (_ | ⟨_, member⟩)
          · exact .cons first (each couple List.mem_cons_self)
          · exact each other (List.mem_cons_of_mem _ member)

/-- Texts with one lower case have words with one lower case. -/
theorem Lowers.exists_counterpart {t' word' : Text} (lowers : Lowers t u) (lowers' : Lowers t' u)
    (here : word' ∈ pieces isBlank t') : ∃ word ∈ pieces isBlank t, ∃ lowered,
      Lowers word lowered ∧ Lowers word' lowered := by
  obtain ⟨couples, firsts, seconds, related⟩ := lowers.exists_pieces
  obtain ⟨couples', firsts', seconds', related'⟩ := lowers'.exists_pieces
  rw [firsts', List.mem_map] at here
  obtain ⟨couple', among', rfl⟩ := here
  have lowered : couple'.2 ∈ couples.map Prod.snd := by
    rw [← seconds, seconds']
    exact List.mem_map_of_mem among'
  obtain ⟨couple, among, equal⟩ := List.mem_map.mp lowered
  refine ⟨couple.1, ?_, couple'.2, equal ▸ related couple among, related' couple' among'⟩
  rw [firsts]
  exact List.mem_map_of_mem among

theorem LowersTo.eq_or (lowers : LowersTo c made) :
    made = [c.toLower] ∨ (0x80 ≤ c.toLower.toNat ∧ made ≠ [] ∧ ∀ d ∈ made, isMade d = true) := by
  cases lowers with
  | ascii small => exact .inl rfl
  | blank blank =>
    rcases toLower_cases c with ⟨low, high, moved⟩ | same
    · rw [isBlank_of_letter low (by omega)] at blank
      contradiction
    · exact .inl (by rw [same])
  | other large solid some each =>
    rcases toLower_cases c with ⟨low, high, moved⟩ | same
    · omega
    · exact .inr ⟨same.symm ▸ large, some, each⟩

/-- Words of letters that no other character becomes are recognised by either comparison. -/
theorem Lowers.foldAscii_eq_iff (lowers : Lowers t u) {word : Text}
    (plain : ∀ d ∈ word, d.toNat < 0x80 ∧ isMade d = false) : t.foldAscii = word ↔ u = word := by
  induction lowers generalizing word with
  | nil => rfl
  | @cons c made t u first rest ih =>
    cases word with
    | nil =>
      rcases first.blank_or with ⟨-, rfl⟩ | ⟨some, -⟩
      · simp [Text.foldAscii]
      · simp [Text.foldAscii, some]
    | cons d word =>
      have others := ih fun d member => plain d (List.mem_cons_of_mem _ member)
      obtain ⟨small, never⟩ := plain d List.mem_cons_self
      rcases first.eq_or with rfl | ⟨large, some, each⟩
      · simpa [Text.foldAscii] using fun _ => others
      · have different : c.toLower ≠ d := by
          rintro rfl
          omega
        obtain ⟨e, more, rfl⟩ := List.exists_cons_of_ne_nil some
        have other : e ≠ d := by
          rintro rfl
          rw [each e List.mem_cons_self] at never
          contradiction
        simp [Text.foldAscii, different, other]

/-- A text spells `and`, in whatever case, if its lower case is `and`. -/
theorem Lowers.isAnd_iff (lowers : Lowers t u) :
    Keywords.standard.isAnd t = true ↔ u = "and".toList := by
  have plain : "and".toList.all (fun d => d.toNat < 0x80 && !isMade d) = true := by decide
  rw [← lowers.foldAscii_eq_iff fun d member => by simpa using List.all_eq_true.mp plain d member]
  exact beq_iff_eq

end Casing
end BroadcastQuery
