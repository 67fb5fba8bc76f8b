import BroadcastQuery.Text.Blank
import BroadcastQuery.Token

/-!
Cutting a text into tokens. Blanks separate tokens, parentheses and the equals sign stand alone,
a quotation mark reaches to the next one of its kind, and everything else is a word.
-/
namespace BroadcastQuery.Token

/-- Words end at blanks, parentheses and equals signs; quotation marks may stand inside. -/
def endsWord (c : Char) : Bool := isBlank c || c == '(' || c == ')' || c == '='

def isQuote (c : Char) : Bool := c == '\x22' || c == '\x27'

/-- A lexeme cut from the front of a text, and what follows it. -/
structure Cut where
  kind : Kind
  lexeme : Text
  rest : Text

/-- What reaches from an opening delimiter to the first closing one, when there is one. -/
def delimited (kind : Text → Kind) (opening closing : Char) (rest : Text) : Option Cut :=
  (rest.breakAt closing).map fun parts =>
    ⟨kind parts.1, opening :: parts.1 ++ [closing], parts.2⟩

/-- A maximal run of characters that do not end a word. -/
def word (keywords : Keywords) (c : Char) (rest : Text) : Cut :=
  let text := c :: rest.takeWhile (!endsWord ·)
  let kind := match keywords.classify text with
    | some keyword => .keyword keyword
    | none => .word text
  ⟨kind, text, rest.dropWhile (!endsWord ·)⟩

/-- The lexeme that starts with `c`, which is no blank. A bracket opens a label only at the
`first` token; an unclosed one takes the whole text, an unclosed quotation mark only itself. -/
def cut (keywords : Keywords) (first : Bool) (c : Char) (rest : Text) : Cut :=
  if c = '(' then ⟨.leftParen, [c], rest⟩
  else if c = ')' then ⟨.rightParen, [c], rest⟩
  else if c = '=' then ⟨.equals, [c], rest⟩
  else if first && c == '[' then
    (delimited .label '[' ']' rest).getD ⟨.openLabel, c :: rest, []⟩
  else if isQuote c then
    (delimited .quoted c c rest).getD ⟨.openQuote, [c], rest⟩
  else word keywords c rest

theorem delimited_append {kind : Text → Kind} {opening closing : Char} {rest : Text} {made : Cut}
    (found : delimited kind opening closing rest = some made) :
    made.lexeme ++ made.rest = opening :: rest := by
  obtain ⟨parts, broken, rfl⟩ := Option.map_eq_some_iff.mp found
  simp [(Text.eq_of_breakAt broken).1]

/-- Nothing is lost in a cut. -/
theorem cut_append (keywords : Keywords) (first : Bool) (c : Char) (rest : Text) :
    (cut keywords first c rest).lexeme ++ (cut keywords first c rest).rest = c :: rest := by
  unfold cut
  split
  · rfl
  split
  · rfl
  split
  · rfl
  split
  case isTrue bracket =>
    obtain rfl : c = '[' := by
      simp only [Bool.and_eq_true, beq_iff_eq] at bracket
      exact bracket.2
    cases found : delimited .label '[' ']' rest with
    | none => simp
    | some made => simpa using delimited_append found
  case isFalse =>
    split
    · cases found : delimited .quoted c c rest with
      | none => simp
      | some made => simpa using delimited_append found
    · simp [word]

theorem cut_lexeme_ne_nil (keywords : Keywords) (first : Bool) (c : Char) (rest : Text) :
    (cut keywords first c rest).lexeme ≠ [] := by
  have closed : ∀ {kind : Text → Kind} {a b : Char} {made : Cut},
      delimited kind a b rest = some made → made.lexeme ≠ [] := by
    intro kind a b made found
    obtain ⟨parts, _, rfl⟩ := Option.map_eq_some_iff.mp found
    simp
  unfold cut
  split
  · simp
  split
  · simp
  split
  · simp
  split
  · cases found : delimited .label '[' ']' rest with
    | none => simp
    | some made => simpa using closed found
  split
  · cases found : delimited .quoted c c rest with
    | none => simp
    | some made => simpa using closed found
  · simp [word]

theorem length_cut_rest_le (keywords : Keywords) (first : Bool) (c : Char) (rest : Text) :
    (cut keywords first c rest).rest.length ≤ rest.length := by
  have whole := congrArg List.length (cut_append keywords first c rest)
  have nonempty := List.length_pos_iff.mpr (cut_lexeme_ne_nil keywords first c rest)
  simp only [List.length_append, List.length_cons] at whole
  omega

/-- The tokens of `input`, which starts at the byte `start`. -/
def scanFrom (keywords : Keywords) (first : Bool) (start : Nat) (input : Text) : List Token :=
  match _shape : input.dropWhile isBlank with
  | [] => []
  | c :: rest =>
    let gap := input.takeWhile isBlank
    let made := cut keywords first c rest
    let here := start + Text.width gap
    ⟨made.kind, gap, made.lexeme, here⟩ ::
      scanFrom keywords false (here + made.lexeme.width) made.rest
termination_by input.length
decreasing_by
  have cutting := length_cut_rest_le keywords first c rest
  have skipping := (List.dropWhile_suffix (l := input) isBlank).length_le
  rw [_shape, List.length_cons] at skipping
  omega

def scan (keywords : Keywords) (source : Text) : List Token := scanFrom keywords true 0 source

end BroadcastQuery.Token
