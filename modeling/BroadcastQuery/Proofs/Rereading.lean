import BroadcastQuery.Proofs.Rechecking
import BroadcastQuery.Proofs.Spread

/-!
Reading the display of a tree again. If its leaves are found in it in their order at all, each is
found where it was written: a leaf needs all equals signs from its own sign up to the next leaf,
or small letters for its key, and later text does not have them. So a value with both quotation
marks, which cannot be read where it was written, is not found.
-/
namespace BroadcastQuery

open Checker (standard checkPair)

/-! Where the leaves of a tree stand in its display. -/

/-- Neither an equals sign nor a small letter. -/
def Plain (t : Text) : Prop := ∀ c ∈ t, c ≠ '=' ∧ c.isLower = false

instance (t : Text) : Decidable (Plain t) := List.decidableBAll _ t

theorem plain_append {s t : Text} (first : Plain s) (second : Plain t) : Plain (s ++ t) := by
  intro c member
  rcases List.mem_append.mp member with member | member
  · exact first c member
  · exact second c member

/-- A text that starts with the first leaf and has the others after it, with plain texts in
between and at the end. -/
inductive Shown : List Leaf → Text → Prop
  | nil : Shown [] []
  | cons {l : Leaf} {leaves : List Leaf} {between rest : Text} (plain : Plain between)
      (others : Shown leaves rest) : Shown (l :: leaves) (l.display ++ (between ++ rest))

/-- A text that shows leaves after a plain text. -/
def ShownAfter (leaves : List Leaf) (text : Text) : Prop :=
  ∃ before rest, Plain before ∧ text = before ++ rest ∧ Shown leaves rest

theorem ShownAfter.append_left {leaves : List Leaf} {s t : Text} (plain : Plain s)
    (shown : ShownAfter leaves t) : ShownAfter leaves (s ++ t) := by
  obtain ⟨before, rest, first, rfl, shown⟩ := shown
  exact ⟨s ++ before, rest, plain_append plain first, (List.append_assoc _ _ _).symm, shown⟩

theorem Shown.append {leaves leaves' : List Leaf} {s t : Text} (shown : Shown leaves s)
    (after : ShownAfter leaves' t) : ShownAfter (leaves ++ leaves') (s ++ t) := by
  induction shown with
  | nil => exact after
  | @cons l leaves between rest plain others ih =>
    obtain ⟨before, last, first, whole, shown⟩ := ih
    refine ⟨[], _, by decide, ?_, .cons (plain_append plain first) shown⟩
    simp [whole]

theorem ShownAfter.append {leaves leaves' : List Leaf} {s t : Text} (shown : ShownAfter leaves s)
    (after : ShownAfter leaves' t) : ShownAfter (leaves ++ leaves') (s ++ t) := by
  obtain ⟨before, rest, plain, rfl, shown⟩ := shown
  rw [List.append_assoc]
  exact (shown.append after).append_left plain

theorem shownAfter_leaf (l : Leaf) : ShownAfter [l] l.display := by
  have nothing : Plain [] := by decide
  have shown : Shown [l] (l.display ++ ([] ++ [])) := .cons nothing .nil
  exact ⟨[], l.display, nothing, rfl, by simpa using shown⟩

theorem shownAfter_plain {t : Text} (plain : Plain t) : ShownAfter [] t :=
  ⟨t, [], plain, (List.append_nil t).symm, .nil⟩

theorem plain_joiner (connective : Connective) : Plain connective.joiner := by
  cases connective <;> decide

theorem shownAfter_join (connective : Connective) {children : List Node}
    (each : ∀ child ∈ children, ShownAfter child.leaves child.displayItem) :
    ShownAfter (children.flatMap Node.leaves)
      (Text.join connective.joiner (children.map Node.displayItem)) := by
  induction children with
  | nil => exact shownAfter_plain (t := []) (by decide)
  | cons child rest ih =>
    have first := each child List.mem_cons_self
    have others := ih fun other member => each other (List.mem_cons_of_mem _ member)
    cases rest with
    | nil => simpa [Text.join] using first
    | cons next rest =>
      rw [List.flatMap_cons, List.map_cons, Text.join_cons _ _ (by simp), List.append_assoc]
      exact first.append (others.append_left (plain_joiner connective))

theorem Node.shownAfter_displayItem (node : Node) : ShownAfter node.leaves node.displayItem := by
  induction node using Node.induction with
  | leaf l => exact shownAfter_leaf l
  | group connective children ih =>
    have inside := shownAfter_join connective ih
    rw [displayItem, isGroup, if_pos rfl, display_group, leaves_group]
    have whole := (inside.append (shownAfter_plain (t := [')']) (by decide))).append_left
      (s := ['(']) (by decide)
    simpa using whole

theorem Node.shownAfter_display (node : Node) : ShownAfter node.leaves node.display := by
  cases node with
  | leaf l => exact shownAfter_leaf l
  | group connective children =>
    rw [display_group, leaves_group]
    exact shownAfter_join connective fun child _ => child.shownAfter_displayItem

/-! Where a pair may stand. -/

theorem not_mem_name (key : Key) : '=' ∉ key.name.toList := by
  cases key <;> decide

theorem exists_last_name (key : Key) : ∃ front last, key.name.toList = front ++ [last] ∧
    last.isLower = true := by
  have nonempty : key.name.toList ≠ [] := by
    cases key <;> decide
  refine ⟨_, _, (List.dropLast_concat_getLast nonempty).symm, ?_⟩
  cases key <;> rfl

theorem isBlank_of_isLower {c : Char} (lower : c.isLower = true) : isBlank c = false := by
  obtain ⟨low, high⟩ := Casing.isLower_iff.mp lower
  exact Casing.isBlank_of_letter (by omega) high

/-- Where a key ends a text, no blanks stand after it. -/
theorem eq_of_append_name {before front gap : Text} {key : Key}
    (blank : ∀ c ∈ gap, isBlank c = true)
    (same : before ++ key.name.toList = front ++ key.name.toList ++ gap) :
    before = front ∧ gap = [] := by
  rcases List.eq_nil_or_concat gap with rfl | ⟨blanks, b, rfl⟩
  · rw [List.append_nil] at same
    exact ⟨List.append_cancel_right same, rfl⟩
  · obtain ⟨stem, last, name, lower⟩ := exists_last_name key
    have solid := isBlank_of_isLower lower
    rw [name, List.concat_eq_append, ← List.append_assoc, ← List.append_assoc] at same
    have ends := (List.append_inj' same rfl).2
    rw [List.singleton_inj.mp ends, blank b (by simp)] at solid
    contradiction

/-- Where a key with blanks after it ends behind an equals sign, it ends in a small letter there. -/
theorem exists_isLower_of_append_name {before front gap more : Text} {key : Key}
    (blank : ∀ c ∈ gap, isBlank c = true)
    (same : front ++ key.name.toList ++ gap = before ++ '=' :: more) :
    ∃ c ∈ more, c.isLower = true := by
  obtain ⟨stem, last, name, lower⟩ := exists_last_name key
  have letter : last ≠ '=' := by
    rintro rfl
    contradiction
  have ends : (front ++ stem) ++ last :: gap = before ++ '=' :: more := by
    rw [← same]
    simp [name]
  rcases List.append_eq_append_iff.mp ends with ⟨part, -, tail⟩ | ⟨part, -, tail⟩
  · cases part with
    | nil => exact absurd (List.cons.inj tail).1 letter
    | cons d part =>
      have sign := blank '=' (by simp [(List.cons.inj tail).2])
      contradiction
  · cases part with
    | nil => exact absurd (List.cons.inj tail).1.symm letter
    | cons d part => exact ⟨last, by simp [(List.cons.inj tail).2], lower⟩

/-- A key stands where it was written, if no equals sign comes before it and there are too few of
them after its own sign, or no small letters. -/
theorem locate {before after front gap rest : Text} (key : Key) (noSign : '=' ∉ before)
    (blank : ∀ c ∈ gap, isBlank c = true)
    (same : before ++ (key.name.toList ++ '=' :: after) =
      front ++ (key.name.toList ++ (gap ++ '=' :: rest)))
    (enough : after.count '=' ≤ rest.count '=' ∨ ∀ c ∈ after, c.isLower = false) :
    before = front ∧ gap = [] ∧ after = rest := by
  have sides : (before ++ key.name.toList) ++ '=' :: after =
      (front ++ key.name.toList ++ gap) ++ '=' :: rest := by
    simpa using same
  rcases List.append_eq_append_iff.mp sides with ⟨more, left, right⟩ | ⟨more, left, right⟩
  · cases more with
    | nil =>
      obtain ⟨starts, empty⟩ := eq_of_append_name blank (by simpa using left.symm)
      exact ⟨starts, empty, (List.cons.inj right).2⟩
    | cons c more =>
      obtain rfl := (List.cons.inj right).1
      have shape : after = more ++ '=' :: rest := (List.cons.inj right).2
      rcases enough with few | none
      · rw [shape, List.count_append, List.count_cons_self] at few
        omega
      · obtain ⟨c, member, lower⟩ := exists_isLower_of_append_name blank left
        have small := none c (by simp [shape, member])
        rw [lower] at small
        contradiction
  · cases more with
    | nil =>
      obtain ⟨starts, empty⟩ := eq_of_append_name blank (by simpa using left)
      exact ⟨starts, empty, (List.cons.inj right).2.symm⟩
    | cons c more =>
      obtain ⟨rfl, -⟩ := List.cons.inj right
      have sign : '=' ∈ before ++ key.name.toList := by simp [left]
      rcases List.mem_append.mp sign with sign | sign
      · exact absurd sign noSign
      · exact absurd sign (not_mem_name key)

/-! How values stand in a display. -/

variable {config : Config} {pairs : List (Text × Text)} {leaves : List Leaf} {text : Text}

theorem count_writeValue (t : Text) : (writeValue t).count '=' = t.count '=' := by
  unfold writeValue
  split
  · rfl
  · split <;> simp

theorem mem_writeValue {t : Text} {c : Char} (member : c ∈ writeValue t) :
    c ∈ t ∨ Token.isQuote c = true := by
  unfold writeValue at member
  split at member
  · exact .inl member
  · split at member
    all_goals
      simp only [List.cons_append, List.mem_cons, List.mem_append, List.not_mem_nil, or_false]
        at member
      rcases member with rfl | member | rfl
      · exact .inr rfl
      · exact .inl member
      · exact .inr rfl

theorem Writes.count_le {written value : Text} (writes : Writes written value) :
    value.count '=' ≤ written.count '=' := by
  rcases writes with ⟨quote, -, -, rfl⟩ | ⟨rfl, -⟩
  · simp only [List.cons_append, List.count_cons, List.count_append]
    omega
  · exact Nat.le_refl _

/-- After the sign of a leaf no more equals signs were written than its value has where it was
read from, or, for a channel, no small letters. -/
theorem enough_signs {l : Leaf} {name value gap written between rest : Text}
    (checked : checkPair (standard config) (name, value) = .ok l) (plain : Plain between)
    (writes : Writes written value) :
    (l.value.display ++ between).count '=' ≤ (gap ++ (written ++ rest)).count '=' ∨
      ∀ c ∈ l.value.display ++ between, c.isLower = false := by
  have inner : (standard config).checkValue l.key value = .ok l.value :=
    (Checker.checkLeaf_eq_ok_iff.mp checked).2
  rw [Value.display_eq]
  by_cases channel : l.key = .channel
  · rw [channel] at inner
    obtain ⟨c, same, found⟩ := Checker.exists_of_checkValue_channel inner
    rw [same, Value.plain]
    right
    intro d member
    rcases List.mem_append.mp member with member | member
    · rcases mem_writeValue member with member | quote
      · exact Vocabulary.isLower_canonical found d member
      · rcases Token.eq_of_isQuote quote with rfl | rfl <;> rfl
    · exact (plain d member).2
  · have same := (Checker.checkValue_checked channel inner).2 '=' ⟨by decide, rfl, rfl⟩ (by decide)
    have none : between.count '=' = 0 :=
      List.count_eq_zero.mpr fun member => (plain '=' member).1 rfl
    have le := writes.count_le
    refine .inl ?_
    rw [List.count_append, List.count_append, List.count_append, count_writeValue]
    omega

/-- Leaves that are found in order among pairs: the first of them at one pair, the others after
it. -/
theorem exists_of_sublist {checker : Checker} {l : Leaf}
    (sublist : ((l :: leaves).map .ok).Sublist (pairs.map (checkPair checker))) :
    ∃ before name value after, pairs = before ++ (name, value) :: after ∧
      checkPair checker (name, value) = .ok l ∧
      (leaves.map .ok).Sublist (after.map (checkPair checker)) := by
  obtain ⟨front, back, whole, member, others⟩ := List.cons_sublist_iff.mp sublist
  obtain ⟨first, last, rfl, rfl, rfl⟩ := List.map_eq_append_iff.mp whole
  obtain ⟨pair, inside, found⟩ := List.mem_map.mp member
  obtain ⟨before, after, rfl⟩ := List.append_of_mem inside
  refine ⟨before, pair.1, pair.2, after ++ last, by simp, found, ?_⟩
  rw [List.map_append]
  exact others.trans (List.sublist_append_right _ _)

theorem Spread.exists_pair {before after : List (Text × Text)} {name value : Text}
    (spread : Spread (before ++ (name, value) :: after) text) : ∃ front gap gap' written rest,
      text = front ++ (name ++ (gap ++ '=' :: (gap' ++ (written ++ rest)))) ∧
      (∀ c ∈ gap, isBlank c = true) ∧ (∀ c ∈ gap', isBlank c = true) ∧ Writes written value ∧
      Spread after rest := by
  induction before generalizing text with
  | nil =>
    cases spread with
    | pair _ blank blank' writes others => exact ⟨_, _, _, _, _, rfl, blank, blank', writes, others⟩
  | cons pair before ih =>
    cases spread with
    | @pair skipped name₁ gap₁ gap₂ written₁ _ _ _ _ _ _ _ others =>
      obtain ⟨front, gap, gap', written, rest, rfl, found⟩ := ih others
      exact ⟨skipped ++ (name₁ ++ (gap₁ ++ '=' :: (gap₂ ++ (written₁ ++ front)))), gap, gap',
        written, rest, by simp, found⟩

/-- Of two ends of one text the first is not the longer one, if it is not where the second is an
end of it. -/
theorem exists_mid {whole ending rest : Text} (inside : ending <:+ whole) (inside' : rest <:+ whole)
    (later : rest <:+ ending → ending.length ≤ rest.length) : ∃ mid, rest = mid ++ ending := by
  have long : ending.length ≤ rest.length := by
    by_cases short : rest.length ≤ ending.length
    · exact later (List.suffix_of_suffix_length_le inside' inside short)
    · omega
  obtain ⟨mid, same⟩ := List.suffix_of_suffix_length_le inside inside' long
  exact ⟨mid, same.symm⟩

/-- A leaf that is shown after a text without equals signs, and found there or later with the
others after it, is found in its place. -/
theorem found_in_place {l : Leaf}
    {name value before between ending front gap gap' written mid : Text}
    (checked : checkPair (standard config) (name, value) = .ok l) (noSign : '=' ∉ before)
    (plain : Plain between) (blank : ∀ c ∈ gap, isBlank c = true) (writes : Writes written value)
    (same : before ++ (l.display ++ (between ++ ending)) =
      front ++ (name ++ (gap ++ '=' :: (gap' ++ (written ++ (mid ++ ending)))))) :
    before = front ∧ gap = [] ∧ l.value.display ++ between = gap' ++ (written ++ mid) := by
  obtain rfl : name = l.key.name.toList := (Checker.checkLeaf_eq_ok_iff.mp checked).1
  have whole : (before ++ (l.key.name.toList ++ '=' :: (l.value.display ++ between))) ++ ending =
      (front ++ (l.key.name.toList ++ (gap ++ '=' :: (gap' ++ (written ++ mid))))) ++ ending := by
    simpa [Leaf.display] using same
  exact locate l.key noSign blank (List.append_cancel_right whole)
    (enough_signs checked plain writes)

theorem suffix_rest {front name gap gap' written rest : Text} :
    rest <:+ front ++ (name ++ (gap ++ '=' :: (gap' ++ (written ++ rest)))) :=
  ⟨front ++ (name ++ (gap ++ '=' :: (gap' ++ written))), by simp⟩

/-- The leaves that a text shows are not found in a shorter end of it. -/
theorem Shown.length_le {tail : Text} (shown : Shown leaves text) (spread : Spread pairs tail)
    (inside : tail <:+ text)
    (found : (leaves.map .ok).Sublist (pairs.map (checkPair (standard config)))) :
    text.length ≤ tail.length := by
  induction shown generalizing pairs tail with
  | nil => exact Nat.zero_le _
  | @cons l leaves between ending plain others ih =>
    obtain ⟨before, name, value, after, rfl, checked, following⟩ := exists_of_sublist found
    obtain ⟨front, gap, gap', written, rest, rfl, blank, -, writes, later⟩ := spread.exists_pair
    have ends : ending <:+ l.display ++ (between ++ ending) :=
      ⟨l.display ++ between, List.append_assoc _ _ _⟩
    obtain ⟨mid, rfl⟩ := exists_mid ends (suffix_rest.trans inside) fun short =>
      ih later short following
    obtain ⟨skipped, whole⟩ := inside
    have same : [] ++ (l.display ++ (between ++ ending)) =
        (skipped ++ front) ++ (name ++ (gap ++ '=' :: (gap' ++ (written ++ (mid ++ ending))))) := by
      rw [List.nil_append, ← whole, List.append_assoc]
    obtain ⟨nothing, -, -⟩ := found_in_place checked (by simp) plain blank writes same
    have same : skipped = [] := (List.append_eq_nil_iff.mp nothing.symm).1
    exact Nat.le_of_eq (by rw [← whole, same, List.nil_append])

theorem exists_cons_writeValue (t : Text) :
    ∃ c rest, writeValue t = c :: rest ∧ isBlank c = false := by
  unfold writeValue
  split
  · next bare =>
    simp only [needsQuotes, Bool.not_eq_true', Bool.or_eq_false_iff, List.isEmpty_eq_false_iff,
      List.any_eq_false, Bool.not_eq_true] at bare
    obtain ⟨c, rest, rfl⟩ := List.exists_cons_of_ne_nil bare.1.1
    exact ⟨c, rest, rfl,
      Token.isBlank_eq_false_of_endsWord (bare.2 c List.mem_cons_self).1⟩
  · split
    · exact ⟨_, _, rfl, rfl⟩
    · exact ⟨_, _, rfl, rfl⟩

/-- A value between marks that it does not have is cut off where it was written. -/
theorem eq_of_quoted {quote : Char} {t value written between mid : Text}
    (mark : Token.isQuote quote = true) (writes : Writes written value)
    (same : (quote :: t ++ [quote]) ++ between = written ++ mid) :
    quote ∉ value ∧ t ++ quote :: between = value ++ quote :: mid := by
  rcases writes with ⟨quote', -, absent, rfl⟩ | ⟨rfl, c, rest, rfl, unquoted⟩
  · simp only [List.cons_append, List.append_assoc, List.nil_append] at same
    obtain ⟨rfl, rest⟩ := List.cons.inj same
    exact ⟨absent, rest⟩
  · obtain ⟨rfl, -⟩ := List.cons.inj same
    rw [mark] at unquoted
    contradiction

theorem writeValue_of_not_quotable {t : Text} (both : ¬Quotable t) :
    writeValue t = '\x27' :: t ++ ['\x27'] ∧ '\x27' ∈ t := by
  have marks : '\x22' ∈ t ∧ '\x27' ∈ t := Decidable.not_not.mp both
  have quoted : needsQuotes t = true := by
    simp only [needsQuotes, Bool.or_eq_true, List.any_eq_true]
    exact .inr ⟨'\x22', marks.1, .inr rfl⟩
  refine ⟨?_, marks.2⟩
  simp [writeValue, quoted, marks.1]

/-- What is left of a value that can be read where it was written holds no equals sign. -/
theorem sign_of_quotable {t value written between mid : Text} (quotable : Quotable t)
    (plain : Plain between) (writes : Writes written value)
    (same : writeValue t ++ between = written ++ mid) : '=' ∉ mid := by
  have noSign : '=' ∉ between := by
    intro member
    exact (plain '=' member).1 rfl
  rcases writeValue_cases quotable with ⟨bare, text⟩ | ⟨quote, mark, absent, text⟩
  · intro member
    have inside : '=' ∈ t ++ between := by
      rw [← text, same]
      exact List.mem_append_right _ member
    simp only [needsQuotes, Bool.or_eq_false_iff, List.any_eq_false, Bool.not_eq_true] at bare
    rcases List.mem_append.mp inside with inside | inside
    · have goes := (bare.2 '=' inside).1
      contradiction
    · exact noSign inside
  · rw [text] at same
    obtain ⟨absent', rest⟩ := eq_of_quoted mark writes same
    have free {u : Text} (absent : quote ∉ u) : ∀ c ∈ u, (c != quote) = true := by
      intro c member
      refine bne_iff_ne.mpr ?_
      rintro rfl
      exact absent member
    have stops (u : Text) : ∀ c ∈ (quote :: u).head?, (c != quote) = false := by simp
    obtain ⟨-, tails⟩ := run_inj rest (free absent) (stops between) (free absent') (stops mid)
    rw [← (List.cons.inj tails).2]
    exact noSign

theorem exists_first_name (key : Key) : ∃ c rest, key.name.toList = c :: rest ∧
    c.isLower = true := by
  cases key <;> exact ⟨_, _, rfl, by decide⟩

/-- Where a quotation mark comes before all small letters no pairs stand. -/
theorem not_spread {mid ending : Text} (quote : '\x27' ∈ mid)
    (capitals : ∀ c ∈ mid, c.isLower = false)
    (known : ∀ pair ∈ pairs, ∃ key : Key, pair.1 = key.name.toList) :
    ¬Spread pairs (mid ++ ending) := by
  generalize whole : mid ++ ending = t
  intro spread
  cases spread with
  | none unquoted =>
    have mark := unquoted '\x27' (by simp [← whole, quote])
    contradiction
  | @pair before name gap gap' written value rest pairs unquoted _ _ _ _ =>
    obtain ⟨key, named⟩ := known (name, value) List.mem_cons_self
    obtain ⟨c, stem, shape, lower⟩ := exists_first_name key
    rw [show name = c :: stem from named.trans shape] at whole
    have absent : '\x27' ∉ before := by
      intro member
      exact absurd (unquoted '\x27' member) (by decide)
    rcases List.append_eq_append_iff.mp whole with ⟨more, same, -⟩ | ⟨more, same, rest⟩
    · exact absent (by simp [same, quote])
    · cases more with
      | nil =>
        rw [List.append_nil] at same
        exact absent (same ▸ quote)
      | cons d more =>
        obtain ⟨rfl, -⟩ := List.cons.inj rest
        have capital := capitals c (by simp [same])
        rw [lower] at capital
        contradiction

/-- A leaf that is found in its place, with nothing but pairs of known keys after it, has a value
that can be read where it was written. -/
theorem quotable_of_found {l : Leaf} {name value between ending written mid : Text}
    (checked : checkPair (standard config) (name, value) = .ok l) (plain : Plain between)
    (writes : Writes written value) (same : l.value.display ++ between = written ++ mid)
    (later : Spread pairs (mid ++ ending))
    (known : ∀ pair ∈ pairs, ∃ key : Key, pair.1 = key.name.toList) : Quotable l.value.plain := by
  apply Decidable.byContradiction
  intro both
  obtain ⟨text, quote⟩ := writeValue_of_not_quotable both
  rw [Value.display_eq, text] at same
  obtain ⟨absent, rest⟩ := eq_of_quoted rfl writes same
  have inner : (standard config).checkValue l.key value = .ok l.value :=
    (Checker.checkLeaf_eq_ok_iff.mp checked).2
  by_cases channel : l.key = .channel
  · rw [channel] at inner
    obtain ⟨c, named, found⟩ := Checker.exists_of_checkValue_channel inner
    rw [named, Value.plain] at rest quote
    refine not_spread ?_ ?_ known later
    · have counts := congrArg (List.count '\x27') rest
      have some := List.count_pos_iff.mpr quote
      rw [List.count_append, List.count_append, List.count_cons_self, List.count_cons_self,
        List.count_eq_zero.mpr absent] at counts
      exact List.count_pos_iff.mp (by omega)
    · intro d member
      have inside : d ∈ c ++ '\x27' :: between := by
        rw [rest]
        simp [member]
      rcases List.mem_append.mp inside with inside | inside
      · exact Vocabulary.isLower_canonical found d inside
      · rcases List.mem_cons.mp inside with rfl | inside
        · rfl
        · exact (plain d inside).2
  · have marks := (Checker.checkValue_checked channel inner).2 '\x27' ⟨by decide, rfl, rfl⟩
      (by decide)
    rw [List.count_eq_zero.mpr absent] at marks
    exact List.count_eq_zero.mp marks quote

/-- If a text holds pairs of which some are the leaves that it shows, their values can be read
where they were written. -/
theorem Shown.quotable {before : Text} (shown : Shown leaves text) (noSign : '=' ∉ before)
    (spread : Spread pairs (before ++ text))
    (found : (leaves.map .ok).Sublist (pairs.map (checkPair (standard config))))
    (known : ∀ pair ∈ pairs, ∃ key : Key, pair.1 = key.name.toList) :
    ∀ l ∈ leaves, Quotable l.value.plain := by
  induction shown generalizing pairs before with
  | nil => simp
  | @cons l leaves between ending plain others ih =>
    obtain ⟨earlier, name, value, after, rfl, checked, following⟩ := exists_of_sublist found
    obtain ⟨front, gap, gap', written, rest, whole, blank, blank', writes, later⟩ :=
      spread.exists_pair
    have ends : ending <:+ before ++ (l.display ++ (between ++ ending)) :=
      ⟨before ++ (l.display ++ between), by simp⟩
    obtain ⟨mid, rfl⟩ := exists_mid ends (whole ▸ suffix_rest) fun short =>
      others.length_le later short following
    obtain ⟨-, -, same⟩ := found_in_place checked noSign plain blank writes whole
    obtain ⟨c, text, shape, solid⟩ := exists_cons_writeValue l.value.plain
    have start : gap' = [] := by
      cases gap' with
      | nil => rfl
      | cons d gap' =>
        rw [Value.display_eq, shape] at same
        obtain ⟨rfl, -⟩ := List.cons.inj same
        rw [blank' c List.mem_cons_self] at solid
        contradiction
    rw [start, List.nil_append] at same
    have known' : ∀ pair ∈ after, ∃ key : Key, pair.1 = key.name.toList := by
      intro pair member
      exact known pair (by simp [member])
    have quotable := quotable_of_found checked plain writes same later known'
    rw [Value.display_eq] at same
    intro other member
    rcases List.mem_cons.mp member with rfl | member
    · exact quotable
    · exact ih (sign_of_quotable quotable plain writes same) later following known' other member

end BroadcastQuery
