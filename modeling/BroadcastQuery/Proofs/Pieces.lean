import BroadcastQuery.Text.Blank

/-!
Cutting texts at marks, putting the pieces together again, and trimming.
-/
namespace BroadcastQuery

section

variable {α : Type} {p : α → Bool} {items : List α}

theorem pieces_ne_nil (p : α → Bool) (items : List α) : pieces p items ≠ [] := by
  induction items with
  | nil => exact List.cons_ne_nil _ _
  | cons a rest ih =>
    unfold pieces
    split
    · exact List.cons_ne_nil _ _
    · simpa using ih

theorem modifyHead_append_modifyHead (front back : List α) (parts : List (List α)) :
    (parts.modifyHead (back ++ ·)).modifyHead (front ++ ·) =
      parts.modifyHead (front ++ back ++ ·) := by
  cases parts <;> simp

/-- What holds no mark goes to the piece that it starts. -/
theorem pieces_append {front : List α} (free : ∀ a ∈ front, p a = false) (rest : List α) :
    pieces p (front ++ rest) = (pieces p rest).modifyHead (front ++ ·) := by
  induction front with
  | nil => cases found : pieces p rest <;> simp [found]
  | cons a front ih =>
    have others := ih fun b member => free b (List.mem_cons_of_mem _ member)
    rw [List.cons_append, pieces, free a List.mem_cons_self, if_neg Bool.false_ne_true, others]
    exact modifyHead_append_modifyHead [a] front _

/-- A mark between two lists keeps their pieces apart. -/
theorem pieces_append_mark {mark : α} (marks : p mark = true) (front back : List α) :
    pieces p (front ++ mark :: back) = pieces p front ++ pieces p back := by
  induction front with
  | nil => simp [pieces, marks]
  | cons a front ih =>
    rw [List.cons_append, pieces, pieces, ih]
    split
    · rfl
    · obtain ⟨first, rest, shape⟩ := List.exists_cons_of_ne_nil (pieces_ne_nil p front)
      rw [shape]
      rfl

/-- What holds no mark joins the last piece before it to the first one after it. -/
theorem exists_pieces_append {middle : List α} (free : ∀ a ∈ middle, p a = false)
    (front back : List α) : ∃ before last first after, pieces p front = before ++ [last] ∧
      pieces p back = first :: after ∧
      pieces p (front ++ middle ++ back) = before ++ (last ++ middle ++ first) :: after := by
  obtain ⟨first, after, following⟩ := List.exists_cons_of_ne_nil (pieces_ne_nil p back)
  induction front with
  | nil =>
    refine ⟨[], [], first, after, rfl, following, ?_⟩
    rw [List.nil_append, pieces_append free, following]
    rfl
  | cons a front ih =>
    obtain ⟨before, last, first', after', parts, following', whole⟩ := ih
    by_cases mark : p a = true
    · refine ⟨[] :: before, last, first', after', ?_, following', ?_⟩
      · rw [pieces, if_pos mark, parts, List.cons_append]
      · rw [List.cons_append, List.cons_append, pieces, if_pos mark, whole, List.cons_append]
    · cases before with
      | nil =>
        refine ⟨[], a :: last, first', after', ?_, following', ?_⟩
        · rw [pieces, if_neg mark, parts]
          rfl
        · rw [List.cons_append, List.cons_append, pieces, if_neg mark, whole]
          rfl
      | cons head before =>
        refine ⟨(a :: head) :: before, last, first', after', ?_, following', ?_⟩
        · rw [pieces, if_neg mark, parts]
          rfl
        · rw [List.cons_append, List.cons_append, pieces, if_neg mark, whole]
          rfl

theorem flatMap_pieces_append {β : Type} {parse : List α → List β} {middle : List α}
    (free : ∀ a ∈ middle, p a = false)
    (cuts : ∀ s t, parse (s ++ middle ++ t) = parse s ++ parse t) (front back : List α) :
    (pieces p (front ++ middle ++ back)).flatMap parse =
      (pieces p front).flatMap parse ++ (pieces p back).flatMap parse := by
  obtain ⟨before, last, first, after, parts, following, whole⟩ :=
    exists_pieces_append free front back
  rw [whole, parts, following, List.flatMap_append, List.flatMap_cons, cuts]
  simp

theorem pieces_of_free (free : ∀ a ∈ items, p a = false) : pieces p items = [items] := by
  have whole := pieces_append free []
  rw [List.append_nil] at whole
  rw [whole]
  simp [pieces]

theorem free_of_mem_pieces {piece : List α} (member : piece ∈ pieces p items) :
    ∀ a ∈ piece, p a = false := by
  induction items generalizing piece with
  | nil =>
    obtain rfl := List.mem_singleton.mp member
    simp
  | cons a rest ih =>
    unfold pieces at member
    split at member
    case isTrue =>
      rcases List.mem_cons.mp member with rfl | member
      · simp
      · exact ih member
    case isFalse other =>
      cases parts : pieces p rest with
      | nil => exact absurd parts (pieces_ne_nil p rest)
      | cons first others =>
        rw [parts] at member ih
        rcases List.mem_cons.mp member with rfl | member
        · intro b inside
          rcases List.mem_cons.mp inside with rfl | inside
          · simpa using other
          · exact ih List.mem_cons_self b inside
        · exact ih (List.mem_cons_of_mem _ member)

/-- The pieces hold what is no mark. -/
theorem flatten_pieces (p : α → Bool) (items : List α) :
    (pieces p items).flatten = items.filter (!p ·) := by
  induction items with
  | nil => rfl
  | cons a rest ih =>
    unfold pieces
    split
    case isTrue mark => simp [mark, ih]
    case isFalse other =>
      cases parts : pieces p rest with
      | nil => exact absurd parts (pieces_ne_nil p rest)
      | cons first others =>
        rw [parts] at ih
        simp only [Bool.not_eq_true] at other
        simp [other, ← ih]

theorem mem_of_mem_pieces {piece : List α} (member : piece ∈ pieces p items) {a : α}
    (inside : a ∈ piece) : a ∈ items := by
  have among : a ∈ (pieces p items).flatten := List.mem_flatten.mpr ⟨piece, member, inside⟩
  rw [flatten_pieces] at among
  exact List.filter_sublist.subset among

end

namespace Text

variable {p : Char → Bool} {mark : Char} {t : Text}

theorem join_cons (separator piece : Text) {rest : List Text} (more : rest ≠ []) :
    join separator (piece :: rest) = piece ++ separator ++ join separator rest := by
  cases rest with
  | nil => contradiction
  | cons second rest => rfl

theorem pieces_join (marks : p mark = true) {parts : List Text} (some : parts ≠ [])
    (free : ∀ part ∈ parts, ∀ c ∈ part, p c = false) : pieces p (join [mark] parts) = parts := by
  induction parts with
  | nil => contradiction
  | cons part rest ih =>
    have here := free part List.mem_cons_self
    cases rest with
    | nil => exact pieces_of_free here
    | cons second rest =>
      have others := ih (List.cons_ne_nil _ _) fun part member =>
        free part (List.mem_cons_of_mem _ member)
      rw [join_cons _ _ (List.cons_ne_nil second rest), List.append_assoc, pieces_append here,
        List.singleton_append, pieces, if_pos marks, others]
      simp

theorem join_pieces (only : ∀ c ∈ t, p c = true → c = mark) : join [mark] (pieces p t) = t := by
  induction t with
  | nil => rfl
  | cons c rest ih =>
    have others := ih fun d member => only d (List.mem_cons_of_mem _ member)
    unfold pieces
    split
    case isTrue marks =>
      obtain rfl := only c List.mem_cons_self marks
      rw [join_cons _ _ (pieces_ne_nil p rest), others]
      rfl
    case isFalse =>
      cases parts : pieces p rest with
      | nil => exact absurd parts (pieces_ne_nil p rest)
      | cons first following =>
        rw [parts] at others
        cases following with
        | nil => simpa [join] using others
        | cons second following =>
          rw [join_cons _ _ (List.cons_ne_nil _ _)] at others
          rw [List.modifyHead_cons, join_cons _ _ (List.cons_ne_nil _ _), ← others]
          rfl

theorem mem_join {separator : Text} {parts : List Text} (member : mark ∈ join separator parts) :
    mark ∈ separator ∨ ∃ part ∈ parts, mark ∈ part := by
  induction parts with
  | nil => contradiction
  | cons part rest ih =>
    cases rest with
    | nil => exact .inr ⟨part, List.mem_cons_self, member⟩
    | cons second rest =>
      rw [join_cons _ _ (List.cons_ne_nil second rest), List.mem_append, List.mem_append] at member
      rcases member with (member | member) | member
      · exact .inr ⟨part, List.mem_cons_self, member⟩
      · exact .inl member
      · rcases ih member with member | ⟨other, among, member⟩
        · exact .inl member
        · exact .inr ⟨other, List.mem_cons_of_mem _ among, member⟩

/-- Separators aside, a joined text has what its parts have. -/
theorem count_join {separator : Text} (other : mark ∉ separator) (parts : List Text) :
    (join separator parts).count mark = parts.flatten.count mark := by
  induction parts with
  | nil => rfl
  | cons part rest ih =>
    cases rest with
    | nil => simp [join]
    | cons second rest =>
      have whole : (part :: second :: rest).flatten = part ++ (second :: rest).flatten := rfl
      rw [join_cons _ _ (List.cons_ne_nil second rest), List.count_append, List.count_append, ih,
        List.count_eq_zero.mpr other, whole, List.count_append, Nat.add_zero]

theorem count_flatten_pieces (other : p mark = false) (t : Text) :
    (pieces p t).flatten.count mark = t.count mark := by
  rw [flatten_pieces, List.count_filter (by simp [other])]

/-! Trimmed texts. -/

theorem trimStart_of_head (solid : ∀ c ∈ t.head?, isBlank c = false) : t.trimStart = t := by
  cases t with
  | nil => rfl
  | cons c rest => simp [trimStart, solid c rfl]

theorem trim_of_ends (first : ∀ c ∈ t.head?, isBlank c = false)
    (last : ∀ c ∈ t.getLast?, isBlank c = false) : t.trim = t := by
  have back : t.reverse.dropWhile isBlank = t.reverse :=
    trimStart_of_head (by rwa [List.head?_reverse])
  rw [trim, trimStart_of_head first, back, List.reverse_reverse]

theorem head?_dropWhile_isBlank (t : Text) : ∀ c ∈ (t.dropWhile isBlank).head?,
    isBlank c = false := by
  intro c head
  have first := List.head?_dropWhile_not isBlank t
  rw [Option.mem_def.mp head] at first
  simpa using first

/-- Words with something between them have no blanks at their two ends. -/
theorem trim_join {separator : Text} {words : List Text}
    (each : ∀ word ∈ words, word ≠ [] ∧ ∀ c ∈ word, isBlank c = false) :
    (join separator words).trim = join separator words := by
  refine trim_of_ends ?_ ?_
  · cases words with
    | nil => simp [join]
    | cons word rest =>
      obtain ⟨nonempty, solid⟩ := each word List.mem_cons_self
      obtain ⟨d, more, rfl⟩ := List.exists_cons_of_ne_nil nonempty
      have first : (join separator ((d :: more) :: rest)).head? = some d := by
        cases rest <;> simp [join]
      simpa [first] using solid d List.mem_cons_self
  · induction words with
    | nil => simp [join]
    | cons word rest ih =>
      have here := each word List.mem_cons_self
      cases rest with
      | nil =>
        intro c last
        exact here.2 c (List.mem_of_getLast? last)
      | cons second rest =>
        have others := ih fun other member => each other (List.mem_cons_of_mem _ member)
        intro c last
        rw [join_cons _ _ (List.cons_ne_nil second rest), List.getLast?_append] at last
        cases found : (join separator (second :: rest)).getLast? with
        | some d =>
          rw [found, Option.some_or] at last
          exact others c (found.trans last)
        | none =>
          have nonempty := (each second (by simp)).1
          have empty := List.getLast?_eq_none_iff.mp found
          cases rest <;> simp [join, nonempty] at empty

theorem trim_prefix (t : Text) : t.trim <+: t.trimStart := by
  have suffix := List.dropWhile_suffix isBlank (l := t.trimStart.reverse)
  have reversed := List.reverse_prefix.mpr suffix
  rwa [List.reverse_reverse] at reversed

theorem ends_trim (t : Text) : (∀ c ∈ t.trim.head?, isBlank c = false) ∧
    ∀ c ∈ t.trim.getLast?, isBlank c = false := by
  constructor
  · obtain ⟨rest, whole⟩ := trim_prefix t
    intro c head
    refine head?_dropWhile_isBlank t c ?_
    rw [trimStart] at whole
    rw [← whole, List.head?_append, Option.mem_def.mp head]
    rfl
  · rw [trim, List.getLast?_reverse]
    exact head?_dropWhile_isBlank _

theorem trim_trim (t : Text) : t.trim.trim = t.trim :=
  trim_of_ends (ends_trim t).1 (ends_trim t).2

theorem count_dropWhile (other : p mark = false) (t : Text) :
    (t.dropWhile p).count mark = t.count mark := by
  have dropped : (t.takeWhile p).count mark = 0 := by
    apply List.count_eq_zero.mpr
    intro member
    have inside := List.all_eq_true.mp List.all_takeWhile mark member
    rw [other] at inside
    contradiction
  have whole := congrArg (List.count mark) (List.takeWhile_append_dropWhile (p := p) (l := t))
  rwa [List.count_append, dropped, Nat.zero_add] at whole

theorem count_trim (other : isBlank mark = false) (t : Text) :
    t.trim.count mark = t.count mark := by
  rw [trim, List.count_reverse, count_dropWhile other, List.count_reverse, trimStart,
    count_dropWhile other]

end Text
end BroadcastQuery
