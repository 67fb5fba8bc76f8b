import Mathlib
import BroadcastQuery.Proofs.Embedding
import BroadcastQuery.Proofs.Positions
import BroadcastQuery.Proofs.Spread
import BroadcastQuery.Proofs.Grammar.Blame

/-!
Syntax errors point at a real place and never past a correct beginning. An error has the span and
the characters of one token or stands at the end, and what stands before it goes on to a query in
some other text.
-/
namespace BroadcastQuery

/-! A text that is scanned as some fillers. -/

/-- A word longer than all reserved ones. -/
def Keywords.longer (keywords : Keywords) : Text :=
  List.replicate (keywords.and.length + keywords.or.length + keywords.normalize.length +
    keywords.subtract.length + 1) 'a'

namespace Keywords

theorem sameFold_eq_false {s t : Text} (longer : t.length < s.length) :
    s.sameFold t = false := by
  apply Bool.eq_false_iff.mpr
  intro same
  have folds : s.foldAscii = t.foldAscii := beq_iff_eq.mp same
  have lengths := congrArg List.length folds
  simp only [Text.foldAscii, List.length_map] at lengths
  omega

theorem classify_longer (keywords : Keywords) : keywords.classify keywords.longer = none := by
  have length : keywords.longer.length = keywords.and.length + keywords.or.length +
      keywords.normalize.length + keywords.subtract.length + 1 := List.length_replicate
  have and : keywords.longer.sameFold keywords.and = false := sameFold_eq_false (by omega)
  have or : keywords.longer.sameFold keywords.or = false := sameFold_eq_false (by omega)
  have normalize : keywords.longer.sameFold keywords.normalize = false :=
    sameFold_eq_false (by omega)
  have subtract : keywords.longer.sameFold keywords.subtract = false :=
    sameFold_eq_false (by omega)
  simp [classify, and, or, normalize, subtract]

theorem eq_of_mem_longer {keywords : Keywords} {c : Char} (member : c ∈ keywords.longer) :
    c = 'a' := (List.mem_replicate.mp member).2

end Keywords

namespace Filler

def text (name : Text) : Filler → Text
  | word => name
  | equals => ['=']
  | rightParen => [')']

def extension (name : Text) (fillers : List Filler) : Text :=
  fillers.flatMap fun filler => ' ' :: filler.text name

variable {keywords : Keywords} {first : Bool} {rest gap : Text} {fillers : List Filler}

theorem lexeme (filler : Filler) (ends : WordEnds rest) :
    Token.Lexeme keywords first (filler.kind keywords.longer) (filler.text keywords.longer)
      rest := by
  cases filler with
  | equals => exact .equals
  | rightParen => exact .rightParen
  | word =>
    have alone : Token.WordRun first keywords.longer rest := by
      constructor
      · exact List.cons_ne_nil _ _
      · intro c member
        rw [Keywords.eq_of_mem_longer member]
        rfl
      · exact ends
      · intro c head
        rw [Keywords.eq_of_mem_longer (List.mem_of_mem_head? head)]
        rfl
      · intro c head _
        rw [Keywords.eq_of_mem_longer (List.mem_of_mem_head? head)]
        decide
    exact .word alone keywords.classify_longer

theorem wordEnds_extension (name : Text) (fillers : List Filler) :
    WordEnds (extension name fillers) := by
  cases fillers with
  | nil => exact wordEnds_nil
  | cons filler rest => exact wordEnds_cons rfl

theorem unquoted_extension (keywords : Keywords) (fillers : List Filler) :
    Unquoted (extension keywords.longer fillers) := by
  intro c member
  obtain ⟨filler, -, inside⟩ := List.mem_flatMap.mp member
  rcases List.mem_cons.mp inside with rfl | inside
  · rfl
  cases filler with
  | word =>
    rw [Keywords.eq_of_mem_longer inside]
    rfl
  | equals =>
    rw [List.mem_singleton.mp inside]
    rfl
  | rightParen =>
    rw [List.mem_singleton.mp inside]
    rfl

/-- The fillers are found again. -/
theorem fills_scanFrom (keywords : Keywords) (first : Bool) (start : Nat) (fillers : List Filler)
    (blank : ∀ c ∈ gap, isBlank c = true) :
    Grammar.Fills keywords.longer fillers
      (Token.scanFrom keywords first start (gap ++ extension keywords.longer fillers)) := by
  induction fillers generalizing first start gap with
  | nil =>
    rw [extension, List.flatMap_nil, List.append_nil, Token.scanFrom_blank blank]
    rfl
  | cons filler rest ih =>
    have is : Token.Lexeme keywords first (filler.kind keywords.longer)
        (filler.text keywords.longer) (extension keywords.longer rest) :=
      filler.lexeme (wordEnds_extension keywords.longer rest)
    obtain ⟨c, body, shape, solid, made⟩ := is.exists_cut
    have whole : gap ++ extension keywords.longer (filler :: rest) =
        (gap ++ [' ']) ++ c :: (body ++ extension keywords.longer rest) := by
      simp [extension, shape]
    have wider : ∀ d ∈ gap ++ [' '], isBlank d = true :=
      List.forall_mem_append.mpr ⟨blank, by simp [isBlank]⟩
    have nothing : ∀ d ∈ ([] : Text), isBlank d = true := by simp
    rw [whole, Token.scanFrom_append_cons wider solid, made, Grammar.Fills, List.map_cons,
      List.map_cons]
    exact congrArg _ (ih false _ nothing)

end Filler

namespace Grammar

variable {keywords : Keywords} {source gap rest : Text} {before : List Token} {span : Span}

theorem Derivation.Valid.head_ne_openLabel {derivation : Derivation} (valid : derivation.Valid) :
    ∀ token ∈ derivation.tokens.head?, token.kind ≠ .openLabel := by
  intro token head unclosed
  obtain ⟨rest, shape⟩ := List.head?_eq_some_iff.mp head
  have read := label?_tokens valid
  simp [shape, DraftQuery.label?, unclosed] at read

/-- A text whose tokens start a query can be continued, after blanks, to one that is a query. -/
theorem exists_parse_extension (starts : StartsQuery before)
    (leads : Token.Prefix keywords true 0 before rest) (blank : ∀ c ∈ gap, isBlank c = true) :
    ∃ more query, DraftQuery.parse keywords (Token.spell before ++ gap ++ more) = .ok query := by
  obtain ⟨fillers, completes⟩ := starts
  obtain ⟨derivation, valid, tokens⟩ := completes _ _ (Filler.fills_scanFrom keywords
    (true && before.isEmpty) (0 + (Token.spell before).width) fillers blank)
  have closed : ∀ token ∈ before, token.kind ≠ .openLabel := by
    apply leads.closed
    intro token head
    exact valid.head_ne_openLabel token (by rw [tokens, List.head?_append, head]; rfl)
  have continued : Token.Prefix keywords true 0 before
      (gap ++ Filler.extension keywords.longer fillers) := by
    apply leads.change closed
    · intro _
      exact Token.wordEnds_blanks blank (Filler.wordEnds_extension _ _)
    · intro _
      apply Token.keepsOpen_of_unquoted
      exact unquoted_append (unquoted_of_blank blank) (Filler.unquoted_extension _ _)
  refine ⟨Filler.extension keywords.longer fillers, derivation.draft spelled, ?_⟩
  rw [List.append_assoc, DraftQuery.parse, Token.scan, continued.scanFrom, ← tokens,
    read_tokens valid]

end Grammar

namespace DraftQuery

/-- The reported place in the source: that of a token, or its end. -/
theorem error_place {keywords : Keywords} {source : Text} {e : SyntaxError}
    {before after : List Token} (tokens : Token.scan keywords source = before ++ after)
    (blames : Blames source.width e after) :
    ((∃ token ∈ Token.scan keywords source, e.span = token.span) ∨
        e.span = ⟨source.width, source.width⟩) ∧
      source.slice? e.span = some e.fragment ∧
      ∃ gap rest, (∀ c ∈ gap, isBlank c = true) ∧ source = Token.spell before ++ gap ++ rest ∧
        e.span.start = (Token.spell before ++ gap).width := by
  cases after with
  | nil =>
    obtain ⟨span, fragment⟩ := blames
    rw [List.append_nil] at tokens
    obtain ⟨blanks, blank, whole⟩ := Token.exists_spell_scanFrom keywords true 0 source
    rw [← Token.scan, tokens] at whole
    refine ⟨.inr span, ?_, blanks, [], blank, ?_, ?_⟩
    · rw [span, fragment]
      exact Text.slice?_of_eq source [] [] (by simp) rfl rfl
    · rw [← whole, List.append_nil]
    · rw [span, ← whole]
  | cons token rest =>
    obtain ⟨span, fragment⟩ := blames
    have member : token ∈ Token.scan keywords source := by
      rw [tokens]
      exact List.mem_append_right _ List.mem_cons_self
    have inside : Token.scan keywords source = before ++ (token :: [] ++ rest) := tokens
    have sliced : source.slice? token.span = some (token.lexeme ++ Token.spell []) :=
      Token.slice?_scan inside
    have laid := Token.laidOut_scanFrom keywords true 0 source
    obtain ⟨blanks, -, whole⟩ := Token.exists_spell_scanFrom keywords true 0 source
    rw [← Token.scan, tokens] at laid whole
    refine ⟨.inl ⟨token, member, span⟩, ?_, token.gap,
      token.lexeme ++ Token.spell rest ++ blanks,
      (Token.spelled_of_mem_scanFrom token member).1, ?_, ?_⟩
    · rw [span, sliced, fragment, Token.spell_nil, List.append_nil]
    · simpa using whole
    · rw [span, Token.span, laid.append_right.1]
      simp

/-- When a source is no query, it has still been cut at nothing but slices of it, and a scanner by
positions that knows no others finds its tokens; the error names one of them or the end, with the
characters that stand there; and what stands before that place goes on to a query in some other
text. -/
theorem parse_error {keywords : Keywords} {source : Text} {e : SyntaxError}
    (failed : parse keywords source = .error e) :
    (∀ span, Token.Sliced source (Token.scan keywords source) span →
      ∃ part, source.slice? span = some part) ∧
    (∀ slice : Span → Option Text, (∀ span, Token.Sliced source (Token.scan keywords source) span →
        slice span = source.slice? span) →
      Token.InPlace.tokens keywords slice source.width true 0 =
        some ((Token.scan keywords source).map Token.placed)) ∧
    ((∃ token ∈ Token.scan keywords source, e.span = token.span) ∨
      e.span = ⟨source.width, source.width⟩) ∧
    source.slice? e.span = some e.fragment ∧
    ∃ correct more query, source.takeBytes e.span.start = some correct ∧
      parse keywords (correct ++ more) = .ok query := by
  obtain ⟨before, after, tokens, starts, blames⟩ := Grammar.blames_of_read failed
  obtain ⟨place, fragment, gap, rest, blank, whole, start⟩ := error_place tokens blames
  obtain ⟨left, -, leads, -⟩ := Token.exists_prefix tokens
  obtain ⟨more, query, parsed⟩ := Grammar.exists_parse_extension starts leads blank
  refine ⟨fun span => Token.exists_slice, fun slice => Token.tokens_eq_scan, place, fragment,
    Token.spell before ++ gap, more, query, ?_, parsed⟩
  rw [start]
  nth_rewrite 1 [whole]
  exact Text.takeBytes_width_append _ _

/-- The parenthesis that is reported stands long before the end, where the reader gives up, and
after a label with a character of two bytes. -/
theorem parse_error_unclosed :
    parse .standard "[é] (x='a)' or y=b".toList = .error ⟨.unclosedParen, ⟨5, 6⟩, ['(']⟩ ∧
    Text.slice? "[é] (x='a)' or y=b".toList ⟨5, 6⟩ = some ['('] ∧
    ∃ more query, parse .standard ("[é] ".toList ++ more) = .ok query := by
  have failed : parse .standard "[é] (x='a)' or y=b".toList =
      .error ⟨.unclosedParen, ⟨5, 6⟩, ['(']⟩ := by
    cbv
  obtain ⟨-, -, -, fragment, correct, more, query, taken, parsed⟩ := parse_error failed
  have known : Text.takeBytes 5 "[é] (x='a)' or y=b".toList = some "[é] ".toList := by decide
  obtain rfl : "[é] ".toList = correct := Option.some.inj (known.symm.trans taken)
  exact ⟨failed, fragment, more, query, parsed⟩

end DraftQuery
end BroadcastQuery
