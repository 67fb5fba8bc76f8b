import BroadcastQuery.Proofs.Lexemes

/-!
Where sources are cut. A scanner that holds a position in place of a text cuts slices out of its
source as it goes: what is ahead, what is searched for a delimiter, what stands between two, and
words. All of them are slices of the source, and from them alone it finds the same tokens.
-/
namespace BroadcastQuery.Token

/-- Kinds with a delimiter before their content. -/
def Delimited : Kind → Prop
  | .quoted _ | .label _ | .openQuote | .openLabel => True
  | _ => False

/-- The spans that a source with these tokens is cut at, when it is scanned and when it is read. -/
inductive Sliced (source : Text) (tokens : List Token) : Span → Prop
  /-- What is ahead over blanks and within a word, where the scanner goes on by whole characters. -/
  | ahead {before after : Text} (whole : source = before ++ after) :
      Sliced source tokens ⟨before.width, source.width⟩
  /-- What is ahead after a token. -/
  | rest {token : Token} (member : token ∈ tokens) :
      Sliced source tokens ⟨token.stop, source.width⟩
  /-- What is searched for a closing delimiter. -/
  | search {token : Token} (member : token ∈ tokens) (delimited : Delimited token.kind) :
      Sliced source tokens ⟨token.start + 1, source.width⟩
  /-- What stands between delimiters. -/
  | content {token : Token} {text : Text} (member : token ∈ tokens)
      (kind : token.kind = .quoted text ∨ token.kind = .label text) :
      Sliced source tokens ⟨token.start + 1, token.stop - 1⟩
  /-- A word, a bare value or a cited token: from one token to the same or a later one. -/
  | run {before after more : List Token} {token : Token}
      (inside : tokens = before ++ (token :: more ++ after)) :
      Sliced source tokens
        ⟨token.start, ((token :: more).getLast (List.cons_ne_nil _ _)).stop⟩

variable {keywords : Keywords} {first : Bool} {kind : Kind} {lexeme rest source : Text}
  {token : Token} {span : Span}

theorem utf8Size_of_isQuote {q : Char} (quote : isQuote q = true) : q.utf8Size = 1 := by
  rcases eq_of_isQuote quote with rfl | rfl <;> rfl

theorem Lexeme.delimited (is : Lexeme keywords first kind lexeme rest)
    (delimited : Delimited kind) : ∃ c body, lexeme = c :: body ∧ c.utf8Size = 1 := by
  cases is with
  | leftParen | rightParen | equals | keyword | word => exact delimited.elim
  | quoted quote absent => exact ⟨_, _, rfl, utf8Size_of_isQuote quote⟩
  | openQuote quote absent => exact ⟨_, _, rfl, utf8Size_of_isQuote quote⟩
  | label absent => exact ⟨_, _, rfl, rfl⟩
  | openLabel absent => exact ⟨_, _, rfl, rfl⟩

theorem Lexeme.content {text : Text} (is : Lexeme keywords first kind lexeme rest)
    (kind : kind = .quoted text ∨ kind = .label text) :
    ∃ c d, lexeme = [c] ++ text ++ [d] ∧ c.utf8Size = 1 ∧ d.utf8Size = 1 := by
  cases is with
  | leftParen | rightParen | equals | keyword | word | openQuote | openLabel => simp at kind
  | quoted quote absent =>
    obtain rfl : _ = text := by simpa using kind
    exact ⟨_, _, rfl, utf8Size_of_isQuote quote, utf8Size_of_isQuote quote⟩
  | label absent =>
    obtain rfl : _ = text := by simpa using kind
    exact ⟨_, _, rfl, rfl, rfl⟩

theorem exists_of_mem_scan (member : token ∈ scan keywords source) :
    ∃ first before lexeme after, source = before ++ (lexeme ++ after) ∧
      token.start = before.width ∧ token.stop = before.width + lexeme.width ∧
      Lexeme keywords first token.kind lexeme after := by
  obtain ⟨place, found⟩ := List.getElem?_of_mem member
  have placed : ((scan keywords source).map placed)[place]? = some (token.kind, token.span) := by
    rw [List.getElem?_map, found]
    rfl
  obtain ⟨before, lexeme, after, shape, same, is⟩ :=
    (exact_scanFrom keywords true 0 source).lexed place token.kind token.span placed
  obtain ⟨start, stop⟩ := Span.mk.inj same
  exact ⟨_, before, lexeme, after, shape, by simpa using start, by simpa using stop, is⟩

/-- Every cut is made between characters and within the source. -/
theorem exists_slice (sliced : Sliced source (scan keywords source) span) :
    ∃ part, source.slice? span = some part := by
  cases sliced with
  | @ahead before after whole =>
    refine ⟨after, Text.slice?_of_eq before after [] ?_ ?_ ?_⟩
    · simpa using whole
    · rfl
    · simp [whole]
  | run inside => exact ⟨_, slice?_scan inside⟩
  | rest member =>
    obtain ⟨first, before, lexeme, after, rfl, start, stop, is⟩ := exists_of_mem_scan member
    refine ⟨after, Text.slice?_of_eq (before ++ lexeme) after [] ?_ ?_ ?_⟩
    · simp
    · simp [stop]
    · simp [Nat.add_assoc]
  | search member delimited =>
    obtain ⟨first, before, lexeme, after, rfl, start, stop, is⟩ := exists_of_mem_scan member
    obtain ⟨c, body, rfl, one⟩ := is.delimited delimited
    refine ⟨body ++ after, Text.slice?_of_eq (before ++ [c]) (body ++ after) [] ?_ ?_ ?_⟩
    · simp
    · simp [start, one]
    · simp [Nat.add_assoc]
  | @content token text member kind =>
    obtain ⟨first, before, lexeme, after, rfl, start, stop, is⟩ := exists_of_mem_scan member
    obtain ⟨c, d, rfl, one, one'⟩ := is.content kind
    refine ⟨text, Text.slice?_of_eq (before ++ [c]) text (d :: after) ?_ ?_ ?_⟩
    · simp
    · simp [start, one]
    · simp [stop, one, one']
      omega

/-! A scanner by positions. -/

namespace InPlace

section Scanner

variable (keywords : Keywords) (slice : Span → Option Text) (width : Nat)

def peek (position : Nat) : Option (Option Char) := (slice ⟨position, width⟩).map List.head?

/-- The position behind a run of characters that satisfy `p`. -/
def skip (p : Char → Bool) (position : Nat) : Option Nat := do
  match ← peek slice width position with
  | none => return position
  | some c =>
    if p c then
      if _inside : position < width then skip p (position + c.utf8Size) else none
    else return position
termination_by width - position
decreasing_by
  have positive := c.utf8Size_pos
  omega

/-- The kind of a token whose content starts at `inner` and goes on to the first closing mark, and
where the token stops; or what it is where none closes it. -/
def delimited (kind : Text → Kind) (closing : Char) (inner : Nat) (unclosed : Kind × Nat) :
    Option (Kind × Nat) := do
  match (← slice ⟨inner, width⟩).breakAt closing with
  | none => return unclosed
  | some (body, _) =>
    let content ← slice ⟨inner, inner + body.width⟩
    return (kind content, inner + body.width + closing.utf8Size)

/-- The kind of the token that starts with `c` at `start`, and where it stops. -/
def cut (first : Bool) (c : Char) (start : Nat) : Option (Kind × Nat) :=
  let inner := start + c.utf8Size
  if c = '(' then some (.leftParen, inner)
  else if c = ')' then some (.rightParen, inner)
  else if c = '=' then some (.equals, inner)
  else if first && c == '[' then delimited slice width .label ']' inner (.openLabel, width)
  else if isQuote c then delimited slice width .quoted c inner (.openQuote, inner)
  else do
    let stop ← skip slice width (!endsWord ·) inner
    return (.ofWord keywords (← slice ⟨start, stop⟩), stop)

/-- The tokens from a position on. There are none to be had if a slice is missing, or a token
would stop where it starts or beyond the end. -/
def tokens (first : Bool) (position : Nat) : Option (List (Kind × Span)) := do
  let start ← skip slice width isBlank position
  match ← peek slice width start with
  | none => return []
  | some c =>
    let (kind, stop) ← cut keywords slice width first c start
    if _onwards : position < stop ∧ stop ≤ width then
      return (kind, ⟨start, stop⟩) :: (← tokens false stop)
    else none
termination_by width - position

end Scanner

variable {slice : Span → Option Text} {kindOf : Text → Kind} {p : Char → Bool} {c mark : Char}
  {token : Token} {input : Text} {inner : Nat} {unclosed : Kind × Nat}
  {before after body run rest : Text}

theorem cut_quote (quote : isQuote c = true) (width start : Nat) :
    cut keywords slice width first c start = delimited slice width .quoted c
      (start + c.utf8Size) (.openQuote, start + c.utf8Size) := by
  rcases eq_of_isQuote quote with rfl | rfl <;> cases first <;> rfl

/-! What is found in a source of which all those slices are known. -/

section Found

variable (known : ∀ span, Sliced source (scan keywords source) span →
  slice span = source.slice? span)

include known

theorem slice_ahead (whole : source = before ++ after) :
    slice ⟨before.width, source.width⟩ = some after := by
  rw [known _ (.ahead whole)]
  apply Text.slice?_of_eq before after []
  · simpa using whole
  · rfl
  · simp [whole]

theorem peek_ahead (whole : source = before ++ after) :
    peek slice source.width before.width = some after.head? := by
  rw [peek, slice_ahead known whole, Option.map_some]

theorem skip_run (whole : source = before ++ (run ++ rest)) (inside : ∀ c ∈ run, p c = true)
    (outside : ∀ c ∈ rest.head?, p c = false) :
    skip slice source.width p before.width = some (before ++ run).width := by
  induction run generalizing before with
  | nil =>
    rw [skip, peek_ahead known whole]
    cases rest with
    | nil => simp
    | cons c rest => simp [outside c rfl]
  | cons c run ih =>
    obtain ⟨here, others⟩ := List.forall_mem_cons.mp inside
    have wider : source = (before ++ [c]) ++ (run ++ rest) := by simp [whole]
    have further := ih wider others
    have short : before.width < source.width := by
      have positive := c.utf8Size_pos
      rw [whole, Text.width_append, List.cons_append, Text.width_cons]
      omega
    rw [skip, peek_ahead known whole]
    simpa [here, short] using further

theorem delimited_of_notMem (whole : source = before ++ after) (here : inner = before.width)
    (absent : mark ∉ after) :
    delimited slice source.width kindOf mark inner unclosed = some unclosed := by
  simp [delimited, here, slice_ahead known whole, Text.breakAt_eq_none_iff.mpr absent]

theorem delimited_of_closed (member : token ∈ scan keywords source)
    (kind : token.kind = .quoted body ∨ token.kind = .label body)
    (shape : token.lexeme = c :: body ++ [mark]) (one : c.utf8Size = 1) (one' : mark.utf8Size = 1)
    (absent : mark ∉ body) (whole : source = before ++ (token.lexeme ++ rest))
    (start : token.start = before.width) :
    delimited slice source.width kindOf mark (token.start + c.utf8Size) unclosed =
      some (kindOf body, token.stop) := by
  have longer : token.start + c.utf8Size = (before ++ [c]).width := by simp [start]
  have between : token.start + c.utf8Size + body.width = token.stop - 1 := by
    simp [stop, shape, one, one']
    omega
  have last : token.stop - 1 + mark.utf8Size = token.stop := by
    simp [stop, shape, one, one']
    omega
  have ahead : slice ⟨token.start + c.utf8Size, source.width⟩ = some (body ++ mark :: rest) := by
    rw [longer]
    exact slice_ahead known (by simp [whole, shape])
  have content : slice ⟨token.start + c.utf8Size, token.stop - 1⟩ = some body := by
    rw [one, known _ (.content member kind)]
    apply Text.slice?_of_eq (before ++ [c]) body (mark :: rest)
    · simp [whole, shape]
    · simp [start, one]
    · simp [← between, start, one]
  simp [delimited, ahead, breakAt_append absent, between, content, last]

theorem cut_run {run : Text} (alone : WordRun first run rest)
    (whole : source = before ++ (run ++ rest))
    (sliced : Sliced source (scan keywords source) ⟨before.width, before.width + run.width⟩) :
    ∃ c body, run = c :: body ∧ cut keywords slice source.width first c before.width =
      some (.ofWord keywords run, before.width + run.width) := by
  obtain ⟨c, body, rfl⟩ := List.exists_cons_of_ne_nil alone.nonempty
  refine ⟨c, body, rfl, ?_⟩
  have within : ∀ a ∈ body, (!endsWord a) = true := by
    intro a member
    simp [alone.goes a (List.mem_cons_of_mem _ member)]
  have outside : ∀ a ∈ rest.head?, (!endsWord a) = false := by
    intro a member
    simp [alone.ends a member]
  have reaches : skip slice source.width (!endsWord ·) (before.width + c.utf8Size) =
      some (before.width + Text.width (c :: body)) := by
    have wider : source = (before ++ [c]) ++ (body ++ rest) := by simp [whole]
    have further := skip_run known wider within outside
    simpa [Nat.add_assoc] using further
  have spelled : slice ⟨before.width, before.width + Text.width (c :: body)⟩ =
      some (c :: body) := by
    rw [known _ sliced]
    exact Text.slice?_of_eq before (c :: body) rest (by simp [whole]) rfl rfl
  have goes := alone.goes c List.mem_cons_self
  simp only [endsWord, Bool.or_eq_false_iff, beq_eq_false_iff_ne] at goes
  obtain ⟨⟨⟨-, left⟩, right⟩, equals⟩ := goes
  have inside : (first && c == '[') = false := by
    simpa using alone.inside c rfl
  rw [cut, if_neg left, if_neg right, if_neg equals, if_neg (Bool.eq_false_iff.mp inside),
    if_neg (Bool.eq_false_iff.mp (alone.unquoted c rfl)), reaches, Option.bind_eq_bind,
    Option.bind_some, spelled]
  rfl

/-- The token that starts with a lexeme in its place. -/
theorem cut_lexeme (member : token ∈ scan keywords source)
    (is : Lexeme keywords first token.kind token.lexeme rest)
    (whole : source = before ++ (token.lexeme ++ rest)) (start : token.start = before.width) :
    ∃ c body, token.lexeme = c :: body ∧ cut keywords slice source.width first c token.start =
      some (token.kind, token.stop) := by
  have sliced : Sliced source (scan keywords source) token.span := by
    obtain ⟨earlier, later, tokens⟩ := List.append_of_mem member
    have inside : scan keywords source = earlier ++ (token :: [] ++ later) := tokens
    exact .run inside
  obtain ⟨kind, gap, lexeme, place⟩ := token
  simp only at is whole start
  subst start
  cases is with
  | leftParen => exact ⟨'(', [], rfl, rfl⟩
  | rightParen => exact ⟨')', [], rfl, rfl⟩
  | equals => exact ⟨'=', [], rfl, rfl⟩
  | @quoted _ q body _ quote absent =>
    have one := utf8Size_of_isQuote quote
    refine ⟨q, body ++ [q], rfl, ?_⟩
    rw [cut_quote quote]
    exact delimited_of_closed known member (.inl rfl) rfl one one absent whole rfl
  | @openQuote _ q _ quote absent =>
    refine ⟨q, [], rfl, ?_⟩
    rw [cut_quote quote]
    have wider : source = (before ++ [q]) ++ rest := by simpa using whole
    exact delimited_of_notMem known wider (by simp) absent
  | @label body _ absent =>
    refine ⟨'[', body ++ [']'], rfl, ?_⟩
    exact delimited_of_closed known member (.inr rfl) rfl rfl rfl absent whole rfl
  | @openLabel body absent =>
    have wider : source = (before ++ ['[']) ++ body := by simpa using whole
    have closing : cut keywords slice source.width true '[' before.width =
        some (.openLabel, source.width) := delimited_of_notMem known wider (by simp) absent
    refine ⟨'[', body, rfl, closing.trans ?_⟩
    simp [stop, whole]
  | keyword alone reserved =>
    obtain ⟨c, body, shape, made⟩ := cut_run known alone whole sliced
    exact ⟨c, body, shape, by rw [made, Kind.ofWord, reserved]; rfl⟩
  | word alone free =>
    obtain ⟨c, body, shape, made⟩ := cut_run known alone whole sliced
    exact ⟨c, body, shape, by rw [made, Kind.ofWord, free]; rfl⟩

theorem tokens_blank {start : Nat} (whole : source = before ++ after)
    (here : start = before.width) (blank : ∀ c ∈ after, isBlank c = true) :
    tokens keywords slice source.width first start = some [] := by
  have run : source = before ++ (after ++ []) := by simpa using whole
  have skipped : skip slice source.width isBlank start = some (before ++ after).width := by
    rw [here]
    exact skip_run known run blank (by simp)
  have all : source = (before ++ after) ++ [] := by simpa using whole
  have ended : peek slice source.width (before ++ after).width = some none := peek_ahead known all
  rw [tokens, skipped, Option.bind_eq_bind, Option.bind_some, ended]
  rfl

/-- From where a token was found the scanner goes on behind it. -/
theorem tokens_token {start : Nat} (member : token ∈ scan keywords source)
    (is : Lexeme keywords first token.kind token.lexeme rest)
    (blank : ∀ c ∈ token.gap, isBlank c = true) (head : token.lexeme = c :: body)
    (solid : isBlank c = false) (whole : source = before ++ token.gap ++ (token.lexeme ++ rest))
    (here : start = before.width) (place : token.start = (before ++ token.gap).width) :
    tokens keywords slice source.width first start =
      (tokens keywords slice source.width false token.stop).map (placed token :: ·) := by
  have skipped : skip slice source.width isBlank start = some token.start := by
    rw [List.append_assoc] at whole
    rw [here, place]
    apply skip_run known whole blank
    simpa [head] using solid
  have next : peek slice source.width token.start = some (some c) := by
    rw [place, peek_ahead known whole, head]
    rfl
  obtain ⟨c', body', head', made⟩ := cut_lexeme known member is whole place
  obtain ⟨rfl, -⟩ := List.cons.inj (head.symm.trans head')
  have positive := is.width_pos
  have onwards : start < token.stop ∧ token.stop ≤ source.width := by
    rw [stop, place, here, whole]
    simp only [Text.width_append]
    omega
  rw [tokens]
  simp only [skipped, next, made, dif_pos onwards, Option.bind_eq_bind, Option.bind_some,
    Option.map_eq_bind]
  rfl

theorem tokens_scanFrom {start : Nat} {earlier : List Token} (whole : source = before ++ input)
    (here : start = before.width)
    (scanned : scan keywords source = earlier ++ scanFrom keywords first start input) :
    tokens keywords slice source.width first start =
      some ((scanFrom keywords first start input).map placed) := by
  induction first, start, input using scanFrom_induction keywords generalizing before earlier with
  | blank first start input blank =>
    rw [tokens_blank known whole here blank, scanFrom_blank blank]
    rfl
  | token first start gap c rest blank solid ih =>
    rw [scanFrom_append_cons blank solid] at scanned ⊢
    have is : Lexeme keywords first (Token.cut keywords first c rest).kind _ _ := lexeme_cut solid
    have parts := cut_append keywords first c rest
    obtain ⟨d, body, head, -, -⟩ := is.exists_cut
    generalize Token.cut keywords first c rest = made at *
    obtain rfl : d = c := by
      rw [head, List.cons_append] at parts
      exact (List.cons.inj parts).1
    rw [← parts] at whole
    have member : ⟨made.kind, gap, made.lexeme, start + gap.width⟩ ∈ scan keywords source := by
      simp [scanned]
    have found := tokens_token known member is blank head solid (by simpa using whole) here
      (by simp [here])
    have further : source = (before ++ gap ++ made.lexeme) ++ made.rest := by simpa using whole
    have others := ih further (by simp [here, Nat.add_assoc]) (by rw [scanned, List.append_cons])
    rw [found, stop, others]
    rfl

end Found

end InPlace

/-- Knowing those slices of the source alone, the scanner by positions finds all its tokens. -/
theorem tokens_eq_scan {slice : Span → Option Text}
    (known : ∀ span, Sliced source (scan keywords source) span →
      slice span = source.slice? span) :
    InPlace.tokens keywords slice source.width true 0 =
      some ((scan keywords source).map placed) := by
  have whole : source = [] ++ source := rfl
  have scanned : scan keywords source = [] ++ scanFrom keywords true 0 source := rfl
  exact InPlace.tokens_scanFrom known whole rfl scanned

end BroadcastQuery.Token
