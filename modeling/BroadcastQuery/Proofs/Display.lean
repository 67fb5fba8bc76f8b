import BroadcastQuery.Node.Display
import BroadcastQuery.Proofs.Grammar.Parsing
import BroadcastQuery.Proofs.CanonicalForm

/-!
Trees survive being written as queries. A value with at most one kind of quotation mark is written
so that the scanner cuts it out again wherever it stands, and the parentheses around inner groups
bring back the nesting, so the display of a tree is read as the image of that tree.
-/
namespace BroadcastQuery

open Grammar (Item Level Written spelled)

/-- A text with at most one kind of quotation mark. -/
def Quotable (t : Text) : Prop := ¬('\x22' ∈ t ∧ '\x27' ∈ t)

instance (t : Text) : Decidable (Quotable t) := inferInstanceAs (Decidable (¬_))

/-! How values are written. -/

theorem toLower_of_isDigit {c : Char} (digit : c.isDigit = true) : c.toLower = c := by
  simp only [Char.isDigit, Bool.and_eq_true, decide_eq_true_eq] at digit
  unfold Char.toLower
  rw [dif_neg]
  rintro ⟨low, -⟩
  exact absurd (UInt32.le_trans low digit.2) (by decide)

/-- No reserved word starts with another letter than these. -/
theorem classify_eq_none {c : Char} {rest : Text} (other : c.toLower ∉ ['a', 'o', 'n', 's']) :
    Keywords.standard.classify (c :: rest) = none := by
  simp only [List.mem_cons, List.not_mem_nil, or_false, not_or] at other
  simp [Keywords.classify, Keywords.standard, Text.sameFold, Text.foldAscii, other]

theorem needsQuotes_ofNat (n : Nat) : needsQuotes (Text.ofNat n) = false := by
  have digits (c : Char) (member : c ∈ Text.ofNat n) : c.isDigit = true :=
    Wire.isDigit_of_mem_ofNat member
  obtain ⟨c, rest, shape⟩ := List.exists_cons_of_ne_nil (Nat.toDigits_ne_nil (b := 10) (n := n))
  rw [Text.ofNat, shape] at digits ⊢
  have head := digits c List.mem_cons_self
  have word : Keywords.standard.classify (c :: rest) = none := by
    refine classify_eq_none ?_
    rw [toLower_of_isDigit head]
    simp [ne_of_isDigit head]
  have inside : ∀ d ∈ c :: rest, (Token.endsWord d || Token.isQuote d) = false := by
    intro d member
    have digit := digits d member
    simp [Token.endsWord, Token.isQuote, isBlank_of_isDigit digit, ne_of_isDigit digit]
  rw [needsQuotes, word, List.any_eq_false.mpr fun d member => by simp [inside d member]]
  rfl

/-- Quotation marks around numbers would not be needed either. -/
theorem Value.display_eq (value : Value) : value.display = writeValue value.plain := by
  cases value with
  | count n => simp [display, plain, writeValue, needsQuotes_ofNat]
  | text | tags | member => rfl

/-- A value stands bare, or between marks that are not in it. -/
theorem writeValue_cases {t : Text} (quotable : Quotable t) :
    (needsQuotes t = false ∧ writeValue t = t) ∨
      ∃ quote, Token.isQuote quote = true ∧ quote ∉ t ∧ writeValue t = quote :: t ++ [quote] := by
  by_cases bare : needsQuotes t = false
  · exact .inl ⟨bare, by simp [writeValue, bare]⟩
  · refine .inr ?_
    by_cases double : '\x22' ∈ t
    · exact ⟨'\x27', rfl, fun single => quotable ⟨double, single⟩,
        by simp [writeValue, bare, double]⟩
    · exact ⟨'\x22', rfl, double, by simp [writeValue, bare, double]⟩

namespace Draft

theorem link_cons_cons (connective : Connective) (first second : Draft) (rest : List Draft) :
    link connective (first :: second :: rest) =
      .inl first :: .inr connective :: link connective (second :: rest) := rfl

theorem length_link (connective : Connective) (drafts : List Draft) :
    (link connective drafts).length = 2 * drafts.length - 1 := by
  match drafts with
  | [] => rfl
  | [last] => rfl
  | first :: second :: rest =>
    have others := length_link connective (second :: rest)
    simp only [link_cons_cons, List.length_cons] at others ⊢
    omega

end Draft

/-! Drafts without places. -/

mutual

/-- The draft with all its spans empty. -/
def Draft.erase : Draft → Draft
  | .leaf key value _ => .leaf key value ⟨0, 0⟩
  | .chain items => .chain (eraseItems items)

def Draft.eraseItems : List (Draft ⊕ Connective) → List (Draft ⊕ Connective)
  | [] => []
  | .inl child :: rest => .inl child.erase :: eraseItems rest
  | .inr connective :: rest => .inr connective :: eraseItems rest

end

namespace Node

/-- The draft that a tree would be read from, without places. -/
def image : Node → Draft :=
  fold (fun l => .leaf l.key.name.toList l.value.plain ⟨0, 0⟩) fun connective parts =>
    .chain (Draft.link connective parts)

@[simp] theorem image_leaf (l : Leaf) :
    (leaf l).image = .leaf l.key.name.toList l.value.plain ⟨0, 0⟩ := rfl

@[simp] theorem image_group (connective : Connective) (children : List Node) :
    (group connective children).image =
      .chain (Draft.link connective (children.map image)) := by
  rw [image, fold_group]

/-- A child of a group, in parentheses where it is a group itself. -/
def displayItem (node : Node) : Text :=
  if node.isGroup then '(' :: node.display ++ [')'] else node.display

theorem display_group (connective : Connective) (children : List Node) :
    (group connective children).display =
      Text.join connective.joiner (children.map displayItem) := by
  have items : displayItems children = children.map displayItem := by
    induction children with
    | nil => rfl
    | cons child rest ih => rw [displayItems, ih, List.map_cons, displayItem]
  rw [display, items]

end Node

/-! What the display of a tree is scanned as. -/

namespace Grammar

open Token (scanFrom)

/-- Where a word may end, a text is scanned as a value that reads `text`. -/
def ScansAsValue (written text : Text) : Prop :=
  ∀ start rest, WordEnds rest → ∃ value : Written, value.Valid ∧ value.text spelled = text ∧
    scanFrom .standard false start (written ++ rest) =
      value.tokens ++ scanFrom .standard false (start + written.width) rest

/-- Where a word may end, a text after blanks is scanned as an item of that image. -/
def ScansAsItem (text : Text) (image : Draft) : Prop :=
  ∀ first start gap rest, (∀ c ∈ gap, isBlank c = true) → WordEnds rest →
    ∃ item : Item, item.Valid ∧ (item.draft spelled).erase = image ∧
      scanFrom .standard first start (gap ++ (text ++ rest)) =
        item.tokens ++ scanFrom .standard false (start + gap.width + text.width) rest

/-- Where a word may end, a text after blanks is scanned as a level with that chain. -/
def ScansAsLevel (connective : Connective) (text : Text) (chain : List (Draft ⊕ Connective)) :
    Prop :=
  ∀ first start gap rest, (∀ c ∈ gap, isBlank c = true) → WordEnds rest →
    ∃ level : Level, level.Valid connective ∧ Draft.eraseItems (level.chain spelled) = chain ∧
      scanFrom .standard first start (gap ++ (text ++ rest)) =
        level.tokens ++ scanFrom .standard false (start + gap.width + text.width) rest

theorem scansAsValue_writeValue {t : Text} (quotable : Quotable t) :
    ScansAsValue (writeValue t) t := by
  intro start rest ends
  rcases writeValue_cases quotable with ⟨bare, written⟩ | ⟨quote, mark, absent, written⟩
  · simp only [needsQuotes, Bool.or_eq_false_iff, List.isEmpty_eq_false_iff,
      Option.isSome_eq_false_iff, Option.isNone_iff_eq_none, List.any_eq_false,
      Bool.not_eq_true] at bare
    obtain ⟨⟨nonempty, word⟩, inside⟩ := bare
    obtain ⟨c, body, rfl⟩ := List.exists_cons_of_ne_nil nonempty
    have goes : ∀ a ∈ c :: body, Token.endsWord a = false := by
      intro a member
      exact (inside a member).1
    have unquoted := (inside c List.mem_cons_self).2
    have solid := Token.isBlank_eq_false_of_endsWord (goes c List.mem_cons_self)
    refine ⟨.bare ⟨.word (c :: body), [], c :: body, start⟩ [], ⟨trivial, by simp⟩,
      by simp [Written.text, spelled], ?_⟩
    rw [written, List.cons_append, Token.scanFrom_cons solid,
      Token.cut_word goes unquoted (.inl rfl) word ends]
    rfl
  · have solid := Token.isBlank_eq_false_of_isQuote mark
    refine ⟨.quoted ⟨.quoted t, [], quote :: t ++ [quote], start⟩ t, rfl, rfl, ?_⟩
    rw [written, List.append_assoc, List.cons_append, List.singleton_append,
      Token.scanFrom_cons solid, Token.cut_quoted mark absent]
    rfl

theorem endsWord_eq_false_of_mem_name {key : Key} {a : Char} (member : a ∈ key.name.toList) :
    Token.endsWord a = false := by
  have all : key.name.toList.all (!Token.endsWord ·) = true := by cases key <;> decide
  simpa using List.all_eq_true.mp all a member

/-- The names of keys are words. -/
theorem key_name (key : Key) : ∃ c body, key.name.toList = c :: body ∧ c ≠ '[' ∧
    Token.isQuote c = false ∧ (∀ a ∈ c :: body, Token.endsWord a = false) ∧
    Keywords.standard.classify (c :: body) = none := by
  have words : ∀ a ∈ key.name.toList, Token.endsWord a = false := by
    intro a
    exact endsWord_eq_false_of_mem_name
  cases key <;> exact ⟨_, _, rfl, by decide, rfl, words, by decide⟩

theorem scansAsItem_leaf {l : Leaf} (quotable : Quotable l.value.plain) :
    ScansAsItem l.display (Node.leaf l).image := by
  intro first start gap rest blank ends
  obtain ⟨c, body, name, noLabel, unquoted, goes, word⟩ := key_name l.key
  have solid := Token.isBlank_eq_false_of_endsWord (goes c List.mem_cons_self)
  have sign : Token.endsWord '=' = true := rfl
  obtain ⟨value, valid, text, scanned⟩ := scansAsValue_writeValue quotable
    (start + gap.width + Text.width (c :: body) + Text.width ['=']) rest ends
  refine ⟨.pair ⟨.word (c :: body), gap, c :: body, start + gap.width⟩ (c :: body)
    ⟨.equals, [], ['='], start + gap.width + Text.width (c :: body)⟩ value,
    ⟨rfl, rfl, valid⟩, by simp [Item.draft, Draft.erase, text, name], ?_⟩
  have whole : gap ++ (l.display ++ rest) =
      gap ++ c :: (body ++ '=' :: (writeValue l.value.plain ++ rest)) := by
    simp [Leaf.display, Value.display_eq, name]
  have widths : start + gap.width + l.display.width = start + gap.width +
      Text.width (c :: body) + Text.width ['='] + (writeValue l.value.plain).width := by
    simp [Leaf.display, Value.display_eq, name, Nat.add_assoc]
  rw [whole, widths, Token.scanFrom_append_cons blank solid,
    Token.cut_word goes unquoted (.inr noLabel) word (wordEnds_cons sign)]
  rw [Token.scanFrom_cons rfl]
  simp only [Token.cut_equals, List.cons_append, Item.tokens]
  rw [scanned]

theorem erase_draft_of_chain {level : Level} {chain : List (Draft ⊕ Connective)}
    (same : Draft.eraseItems (level.chain spelled) = chain) (several : 2 ≤ chain.length) :
    (level.draft spelled).erase = .chain chain := by
  subst same
  cases level with
  | last item => simp [Level.chain, Draft.eraseItems] at several
  | more item connective joint rest => rfl

theorem scansAsItem_parens {connective : Connective} {text : Text}
    {chain : List (Draft ⊕ Connective)} (scans : ScansAsLevel connective text chain)
    (several : 2 ≤ chain.length) : ScansAsItem ('(' :: text ++ [')']) (.chain chain) := by
  intro first start gap rest blank _
  have closing : Token.endsWord ')' = true := rfl
  obtain ⟨level, valid, same, scanned⟩ := scans false (start + gap.width + Text.width ['(']) []
    (')' :: rest) (by simp) (wordEnds_cons closing)
  refine ⟨.group ⟨.leftParen, gap, ['('], start + gap.width⟩ level
    ⟨.rightParen, [], [')'], start + gap.width + Text.width ['('] + text.width⟩,
    ⟨rfl, ⟨connective, valid⟩, rfl⟩, erase_draft_of_chain same several, ?_⟩
  have whole : gap ++ ('(' :: text ++ [')'] ++ rest) = gap ++ '(' :: (text ++ ')' :: rest) := by
    simp
  have widths : start + gap.width + Text.width ('(' :: text ++ [')']) =
      start + gap.width + Text.width ['('] + text.width + Text.width [')'] := by
    simp [Nat.add_assoc]
  rw [whole, widths, Token.scanFrom_append_cons blank rfl]
  simp only [Token.cut_leftParen]
  simp only [Text.width_nil, List.nil_append, Nat.add_zero] at scanned
  rw [scanned, Token.scanFrom_cons rfl]
  simp [Item.tokens, Token.cut_rightParen]

/-- The word between two children takes the blank before it; the blank after it is left. -/
theorem exists_joint (connective : Connective) (start : Nat) (rest : Text) :
    ∃ joint : Token, ∃ stop, joint.kind = .keyword (.connective connective) ∧
      stop + Text.width [' '] = start + connective.joiner.width ∧
      scanFrom .standard false start (connective.joiner ++ rest) =
        joint :: scanFrom .standard false stop ([' '] ++ rest) := by
  have blank : ∀ c ∈ [' '], isBlank c = true := by simp [isBlank]
  cases connective with
  | and =>
    have cut : Token.cut .standard false 'A' ('N' :: 'D' :: ' ' :: rest) =
        ⟨.keyword (.connective .and), ['A', 'N', 'D'], ' ' :: rest⟩ := rfl
    have solid : isBlank 'A' = false := rfl
    have shape : Connective.and.joiner ++ rest = [' '] ++ 'A' :: 'N' :: 'D' :: ' ' :: rest := rfl
    rw [shape, Token.scanFrom_append_cons blank solid, cut]
    exact ⟨_, _, rfl, by simp [Connective.joiner, Nat.add_assoc], rfl⟩
  | or =>
    have cut : Token.cut .standard false 'O' ('R' :: ' ' :: rest) =
        ⟨.keyword (.connective .or), ['O', 'R'], ' ' :: rest⟩ := rfl
    have solid : isBlank 'O' = false := rfl
    have shape : Connective.or.joiner ++ rest = [' '] ++ 'O' :: 'R' :: ' ' :: rest := rfl
    rw [shape, Token.scanFrom_append_cons blank solid, cut]
    exact ⟨_, _, rfl, by simp [Connective.joiner, Nat.add_assoc], rfl⟩

theorem wordEnds_joiner (connective : Connective) (rest : Text) :
    WordEnds (connective.joiner ++ rest) := by
  cases connective <;> exact wordEnds_cons rfl

theorem scansAsLevel_last {connective : Connective} {text : Text} {image : Draft}
    (scans : ScansAsItem text image) : ScansAsLevel connective text [.inl image] := by
  intro first start gap rest blank ends
  obtain ⟨item, valid, same, scanned⟩ := scans first start gap rest blank ends
  exact ⟨.last item, valid, by simp [Level.chain, Draft.eraseItems, same], scanned⟩

theorem scansAsLevel_more {connective : Connective} {text following : Text} {image : Draft}
    {chain : List (Draft ⊕ Connective)} (scans : ScansAsItem text image)
    (others : ScansAsLevel connective following chain) :
    ScansAsLevel connective (text ++ connective.joiner ++ following)
      (.inl image :: .inr connective :: chain) := by
  intro first start gap rest blank ends
  obtain ⟨item, valid, same, scanned⟩ := scans first start gap
    (connective.joiner ++ (following ++ rest)) blank (wordEnds_joiner connective _)
  obtain ⟨joint, stop, kind, stops, joined⟩ := exists_joint connective
    (start + gap.width + text.width) (following ++ rest)
  obtain ⟨level, validLevel, sameChain, scannedLevel⟩ := others false stop [' '] rest
    (by simp [isBlank]) ends
  refine ⟨.more item connective joint level, ⟨valid, rfl, kind, validLevel⟩, ?_, ?_⟩
  · simp [Level.chain, Draft.eraseItems, same, sameChain]
  · rw [List.append_assoc, List.append_assoc, scanned, joined, scannedLevel, stops]
    simp [Level.tokens, Nat.add_assoc]

/-- Children that are scanned as items are scanned as a level when they are joined. -/
theorem scansAsLevel_join {connective : Connective} {children : List Node}
    (nonempty : children ≠ [])
    (each : ∀ child ∈ children, ScansAsItem child.displayItem child.image) :
    ScansAsLevel connective (Text.join connective.joiner (children.map Node.displayItem))
      (Draft.link connective (children.map Node.image)) := by
  match children with
  | [] => contradiction
  | [last] => exact scansAsLevel_last (each last List.mem_cons_self)
  | child :: next :: rest =>
    exact scansAsLevel_more (each child List.mem_cons_self) (scansAsLevel_join (by simp)
      fun other member => each other (List.mem_cons_of_mem _ member))

theorem scansAsLevel_display {connective : Connective} {children : List Node}
    (grouped : (Node.group connective children).Grouped 2)
    (quotable : ∀ l ∈ (Node.group connective children).leaves, Quotable l.value.plain)
    (each : ∀ child ∈ children, child.Grouped 2 → (∀ l ∈ child.leaves, Quotable l.value.plain) →
      ScansAsItem child.displayItem child.image) :
    ScansAsLevel connective (Node.group connective children).display
      (Draft.link connective (children.map Node.image)) := by
  obtain ⟨several, inner⟩ := Node.grouped_group.mp grouped
  rw [Node.leaves_group] at quotable
  rw [Node.display_group]
  have nonempty : children ≠ [] := by
    rintro rfl
    contradiction
  apply scansAsLevel_join nonempty
  intro child member
  exact each child member (inner child member) fun l inside =>
    quotable l (List.mem_flatMap.mpr ⟨child, member, inside⟩)

theorem two_le_length_link {connective : Connective} {children : List Node}
    (grouped : (Node.group connective children).Grouped 2) :
    2 ≤ (Draft.link connective (children.map Node.image)).length := by
  have several := (Node.grouped_group.mp grouped).1
  rw [Draft.length_link, List.length_map]
  omega

theorem scansAsItem_displayItem {node : Node} (grouped : node.Grouped 2)
    (quotable : ∀ l ∈ node.leaves, Quotable l.value.plain) :
    ScansAsItem node.displayItem node.image := by
  induction node using Node.induction with
  | leaf l => exact scansAsItem_leaf (quotable l (by simp [Node.leaves]))
  | group connective children ih =>
    rw [Node.image_group]
    exact scansAsItem_parens (scansAsLevel_display grouped quotable ih)
      (two_le_length_link grouped)

/-- The tokens of a display are those of a level with the image of the tree. -/
theorem exists_level_display {node : Node} (grouped : node.Grouped 2)
    (quotable : ∀ l ∈ node.leaves, Quotable l.value.plain) :
    ∃ connective, ∃ level : Level, level.Valid connective ∧
      (level.draft spelled).erase = node.image ∧
      level.tokens = Token.scan .standard node.display := by
  have blank : ∀ c ∈ ([] : Text), isBlank c = true := by simp
  cases node with
  | leaf l =>
    obtain ⟨item, valid, same, scanned⟩ :=
      scansAsItem_displayItem grouped quotable true 0 [] [] blank wordEnds_nil
    refine ⟨.and, .last item, valid, same, ?_⟩
    simpa [Node.displayItem, Node.isGroup, Token.scan, Level.tokens] using scanned.symm
  | group connective children =>
    obtain ⟨level, valid, same, scanned⟩ := scansAsLevel_display grouped quotable
      (fun _ _ => scansAsItem_displayItem) true 0 [] [] blank wordEnds_nil
    refine ⟨connective, level, valid, ?_, ?_⟩
    · rw [Node.image_group]
      exact erase_draft_of_chain same (two_le_length_link grouped)
    · simpa [Token.scan] using scanned.symm

end Grammar

/-- A tree whose groups have two children at least and whose values are quotable is written so
that it is read back, nesting and all. -/
theorem Node.parse_display {node : Node} (grouped : node.Grouped 2)
    (quotable : ∀ l ∈ node.leaves, Quotable l.value.plain) :
    ∃ draft, DraftQuery.parse .standard node.display = .ok ⟨none, some draft, none⟩ ∧
      draft.erase = node.image := by
  obtain ⟨connective, level, valid, same, tokens⟩ := Grammar.exists_level_display grouped quotable
  exact ⟨level.draft spelled, Grammar.parse_of_level valid tokens, same⟩

/-- An inner group of the same connective stays inside, and values that look like other parts of a
query stay values. -/
theorem Node.parse_display_nested :
    ∃ draft, DraftQuery.parse .standard (group .and [.leaf ⟨.text, .text "or".toList⟩,
        .group .and [.leaf ⟨.hour, .text "9 (am)".toList⟩,
          .leaf ⟨.faceTag, .tags ["a".toList, "b=".toList]⟩]]).display =
        .ok ⟨none, some draft, none⟩ ∧
      draft.erase = (group .and [.leaf ⟨.text, .text "or".toList⟩,
        .group .and [.leaf ⟨.hour, .text "9 (am)".toList⟩,
          .leaf ⟨.faceTag, .tags ["a".toList, "b=".toList]⟩]]).image :=
  parse_display (by simp) (by decide)

end BroadcastQuery
