import BroadcastQuery.Proofs.Lexemes

/-!
Texts inside of larger texts. The tokens at the start of a text are judged with the characters
that follow them, so it shows what other characters may follow instead: those that end the same
words and close no quotation mark that was left open. Where a text starts only moves its tokens.
-/
namespace BroadcastQuery.Token

/-- The tokens at the start of a text that goes on with `rest`. -/
inductive Prefix (keywords : Keywords) :
    (first : Bool) → (start : Nat) → (tokens : List Token) → (rest : Text) → Prop
  | done {first : Bool} {start : Nat} {rest : Text} : Prefix keywords first start [] rest
  | token {first : Bool} {start : Nat} {kind : Kind} {gap lexeme rest : Text}
      {tokens : List Token} (blank : ∀ c ∈ gap, isBlank c = true)
      (is : Lexeme keywords first kind lexeme (spell tokens ++ rest))
      (others : Prefix keywords false (start + gap.width + lexeme.width) tokens rest) :
      Prefix keywords first start (⟨kind, gap, lexeme, start + gap.width⟩ :: tokens) rest

variable {keywords : Keywords} {first : Bool} {start : Nat} {kind : Kind} {c : Char}
  {lexeme input rest rest' : Text} {before after tokens : List Token}

/-- Scanning finds the tokens, and goes on with the rest. -/
theorem Prefix.scanFrom (leads : Prefix keywords first start tokens rest) :
    scanFrom keywords first start (spell tokens ++ rest) = tokens ++
      Token.scanFrom keywords (first && tokens.isEmpty) (start + (spell tokens).width) rest := by
  induction leads with
  | done => simp
  | @token first start kind gap lexeme rest tokens blank is others ih =>
    obtain ⟨c, body, rfl, solid, made⟩ := is.exists_cut
    have whole : spell (⟨kind, gap, c :: body, start + gap.width⟩ :: tokens) ++ rest =
        gap ++ c :: (body ++ (spell tokens ++ rest)) := by simp
    rw [whole, scanFrom_append_cons blank solid, made, ih]
    simp [Nat.add_assoc]

/-- What is scanned first stands at the start. -/
theorem exists_prefix (scanned : scanFrom keywords first start input = before ++ after) :
    ∃ rest, input = spell before ++ rest ∧ Prefix keywords first start before rest ∧
      scanFrom keywords (first && before.isEmpty) (start + (spell before).width) rest = after := by
  -- The tokens of the rest follow by cancelling those before.
  suffices leads : ∃ rest, input = spell before ++ rest ∧ Prefix keywords first start before rest by
    obtain ⟨rest, rfl, leads⟩ := leads
    exact ⟨rest, rfl, leads, List.append_cancel_left (leads.scanFrom.symm.trans scanned)⟩
  induction first, start, input using scanFrom_induction keywords generalizing before with
  | blank first start input blank =>
    rw [scanFrom_blank blank] at scanned
    obtain ⟨rfl, -⟩ := List.append_eq_nil_iff.mp scanned.symm
    exact ⟨input, rfl, .done⟩
  | token first start gap c input blank solid ih =>
    rw [scanFrom_append_cons blank solid] at scanned
    cases before with
    | nil => exact ⟨gap ++ c :: input, rfl, .done⟩
    | cons token before =>
      obtain ⟨rfl, others⟩ := List.cons.inj scanned
      obtain ⟨rest, shape, leads⟩ := ih others
      have is : Lexeme keywords first (cut keywords first c input).kind
          (cut keywords first c input).lexeme (cut keywords first c input).rest := lexeme_cut solid
      refine ⟨rest, ?_, .token blank (shape ▸ is) leads⟩
      rw [spell_cons, List.append_assoc, ← shape, List.append_assoc, cut_append]

/-! Other characters after the tokens. -/

/-- A quotation mark that is open before the one rest is open before the other. -/
def KeepsOpen (rest rest' : Text) : Prop :=
  ∀ quote, isQuote quote = true → quote ∉ rest → quote ∉ rest'

theorem keepsOpen_of_unquoted (unquoted : Unquoted rest') : KeepsOpen rest rest' := by
  intro quote is _ member
  have other := unquoted quote member
  rw [is] at other
  contradiction

theorem KeepsOpen.append_left (keeps : KeepsOpen rest rest') (s : Text) :
    KeepsOpen (s ++ rest) (s ++ rest') := by
  intro quote is absent member
  rcases List.mem_append.mp member with member | member
  · exact absent (List.mem_append_left _ member)
  · exact keeps quote is (fun member => absent (List.mem_append_right _ member)) member

theorem wordEnds_append_left (words : WordEnds rest → WordEnds rest') {s : Text}
    (ends : WordEnds (s ++ rest)) : WordEnds (s ++ rest') := by
  cases s with
  | nil => exact words ends
  | cons c s => exact ends

theorem Lexeme.change (is : Lexeme keywords first kind lexeme rest) (closed : kind ≠ .openLabel)
    (words : WordEnds rest → WordEnds rest') (quotes : kind = .openQuote → KeepsOpen rest rest') :
    Lexeme keywords first kind lexeme rest' := by
  cases is with
  | leftParen => exact .leftParen
  | rightParen => exact .rightParen
  | equals => exact .equals
  | quoted quote absent => exact .quoted quote absent
  | openQuote quote absent => exact .openQuote quote (quotes rfl _ quote absent)
  | label absent => exact .label absent
  | openLabel => contradiction
  | keyword alone reserved => exact .keyword { alone with ends := words alone.ends } reserved
  | word alone free => exact .word { alone with ends := words alone.ends } free

/-- Tokens stay when other characters follow that end the same words and, where a quotation mark is
open, leave it open. -/
theorem Prefix.change (leads : Prefix keywords first start tokens rest)
    (closed : ∀ token ∈ tokens, token.kind ≠ .openLabel) (words : WordEnds rest → WordEnds rest')
    (quotes : (∃ token ∈ tokens, token.kind = .openQuote) → KeepsOpen rest rest') :
    Prefix keywords first start tokens rest' := by
  induction leads with
  | done => exact .done
  | token blank is others ih =>
    have here := closed _ List.mem_cons_self
    have opens (kind : _ = Kind.openQuote) := quotes ⟨_, List.mem_cons_self, kind⟩
    refine .token blank (is.change here (wordEnds_append_left words)
      fun kind => (opens kind).append_left _) (ih ?_ words ?_)
    · intro token member
      exact closed token (List.mem_cons_of_mem _ member)
    · rintro ⟨token, member, kind⟩
      exact quotes ⟨token, List.mem_cons_of_mem _ member, kind⟩

theorem Prefix.kind_ne_openLabel (leads : Prefix keywords false start tokens rest) :
    ∀ token ∈ tokens, token.kind ≠ .openLabel := by
  -- The induction needs a variable; behind the first token it stays false.
  generalize inside : false = first at leads
  induction leads with
  | done => simp
  | token blank is others ih =>
    subst inside
    intro token member
    rcases List.mem_cons.mp member with rfl | member
    · rintro (rfl : _ = Kind.openLabel)
      cases is
    · exact ih rfl token member

/-- Only the first token can be a bracket that is never closed. -/
theorem Prefix.closed (leads : Prefix keywords first start tokens rest)
    (head : ∀ token ∈ tokens.head?, token.kind ≠ .openLabel) :
    ∀ token ∈ tokens, token.kind ≠ .openLabel := by
  cases leads with
  | done => simp
  | token blank is others => exact List.forall_mem_cons.mpr ⟨head _ rfl, others.kind_ne_openLabel⟩

/-! A part of a text alone. -/

/-- Without a bracket at its start a lexeme is the same at the start of a text and inside of it. -/
theorem Lexeme.anywhere (is : Lexeme keywords first kind lexeme rest)
    (other : ∀ c ∈ lexeme.head?, c ≠ '[') (first' : Bool) :
    Lexeme keywords first' kind lexeme rest := by
  have label (text : Text) (is : lexeme = '[' :: text) : False :=
    other '[' (by rw [is]; rfl) rfl
  cases is with
  | leftParen => exact .leftParen
  | rightParen => exact .rightParen
  | equals => exact .equals
  | quoted quote absent => exact .quoted quote absent
  | openQuote quote absent => exact .openQuote quote absent
  | label absent => exact (label _ rfl).elim
  | openLabel absent => exact (label _ rfl).elim
  | keyword alone reserved =>
    exact .keyword { alone with inside := fun c head _ => other c head } reserved
  | word alone free => exact .word { alone with inside := fun c head _ => other c head } free

/-- Neighbouring tokens, cut out of their text, are scanned alike there. -/
theorem scanFrom_cut_out {token : Token} {more : List Token}
    (scanned : scanFrom keywords first start input = before ++ (token :: more ++ after))
    (other : ∀ c ∈ token.lexeme.head?, c ≠ '[') :
    scanFrom keywords true token.start (token.lexeme ++ spell more) =
      { token with gap := [] } :: more := by
  obtain ⟨rest, -, -, inside⟩ := exists_prefix scanned
  obtain ⟨after, -, leads, -⟩ := exists_prefix inside
  generalize start + (spell before).width = start at leads
  cases leads with
  | @token _ _ kind gap lexeme _ _ blank is others =>
    have alone : Prefix keywords true (start + gap.width)
        (⟨kind, [], lexeme, start + gap.width⟩ :: more) after :=
      .token (by simp) (is.anywhere other true) others
    have ended : Prefix keywords true (start + gap.width)
        (⟨kind, [], lexeme, start + gap.width⟩ :: more) [] := by
      apply alone.change
      · refine List.forall_mem_cons.mpr ⟨?_, others.kind_ne_openLabel⟩
        rintro (rfl : kind = .openLabel)
        cases is.anywhere other false
      · intro _
        exact wordEnds_nil
      · intro _
        exact keepsOpen_of_unquoted (by decide)
    simpa using ended.scanFrom

/-! Other places. -/

def move (n : Nat) (token : Token) : Token := { token with start := token.start + n }

theorem scanFrom_move (keywords : Keywords) (first : Bool) (start : Nat) (input : Text) (n : Nat) :
    scanFrom keywords first (start + n) input =
      (scanFrom keywords first start input).map (move n) := by
  induction first, start, input using scanFrom_induction keywords with
  | blank first start input blank => simp [scanFrom_blank blank]
  | token first start gap c rest blank solid ih =>
    rw [scanFrom_append_cons blank solid, scanFrom_append_cons blank solid, List.map_cons, ← ih]
    simp only [move, Nat.add_right_comm]

theorem cut_inside (first : Bool) (other : c ≠ '[') :
    cut keywords false c rest = cut keywords first c rest := by
  have noLabel (first : Bool) : (first && c == '[') = false := by simp [other]
  simp only [cut, noLabel]

/-- Only a bracket is read in another way inside of a text than at its start. -/
theorem scanFrom_inside (first : Bool) (other : ∀ c ∈ (input.dropWhile isBlank).head?, c ≠ '[') :
    scanFrom keywords false start input = scanFrom keywords first start input := by
  rw [← List.takeWhile_append_dropWhile (p := isBlank) (l := input)]
  have blank := List.all_eq_true.mp (List.all_takeWhile (p := isBlank) (l := input))
  cases shape : input.dropWhile isBlank with
  | nil => simp [scanFrom_blank blank]
  | cons c rest =>
    rw [shape] at other
    have solid := head_dropWhile_isBlank shape
    rw [scanFrom_append_cons blank solid, scanFrom_append_cons blank solid,
      cut_inside first (other c rfl)]

/-- A bracket at the start is the first token, closed or not. -/
theorem kind_of_bracket (keywords : Keywords) (start : Nat)
    (head : '[' ∈ (input.dropWhile isBlank).head?) :
    ∃ token ∈ (scanFrom keywords true start input).head?,
      (∃ text, token.kind = .label text) ∨ token.kind = .openLabel := by
  obtain ⟨rest, shape⟩ := List.head?_eq_some_iff.mp head
  rw [← List.takeWhile_append_dropWhile (p := isBlank) (l := input), shape,
    scanFrom_append_cons (List.all_eq_true.mp List.all_takeWhile) rfl]
  refine ⟨_, rfl, ?_⟩
  cases found : Text.breakAt ']' rest with
  | none => exact .inr (by simp [cut, delimited, found])
  | some parts => exact .inl ⟨parts.1, by simp [cut, delimited, found]⟩

/-! Parentheses around a text. -/

theorem blank_of_scanFrom (nothing : scanFrom keywords first start input = []) :
    ∀ c ∈ input, isBlank c = true := by
  obtain ⟨blanks, blank, whole⟩ := exists_spell_scanFrom keywords first start input
  rw [nothing, spell_nil, List.nil_append] at whole
  exact whole ▸ blank

theorem wordEnds_blanks {blanks : Text} (blank : ∀ c ∈ blanks, isBlank c = true)
    (ends : WordEnds rest) : WordEnds (blanks ++ rest) := by
  cases blanks with
  | nil => exact ends
  | cons c blanks => exact wordEnds_cons (by simp [endsWord, blank c List.mem_cons_self])

/-- A text before a closing parenthesis has its own tokens; what follows is scanned as before,
unless it could close a quotation mark. -/
theorem scanFrom_closed (quotes : (∃ token ∈ scanFrom keywords false start input,
    token.kind = .openQuote) → Unquoted rest) :
    ∃ closing : Token, closing.kind = .rightParen ∧
      scanFrom keywords false start (input ++ ')' :: rest) =
        scanFrom keywords false start input ++
          closing :: scanFrom keywords false (start + input.width + Text.width [')']) rest := by
  obtain ⟨blanks, shape, leads, nothing⟩ :=
    exists_prefix (List.append_nil (scanFrom keywords false start input)).symm
  have blank := blank_of_scanFrom nothing
  have closed : Prefix keywords false start (scanFrom keywords false start input)
      (blanks ++ ')' :: rest) := by
    apply leads.change leads.kind_ne_openLabel
    · intro _
      exact wordEnds_blanks blank (wordEnds_cons rfl)
    · intro opens
      apply keepsOpen_of_unquoted
      apply unquoted_append (unquoted_of_blank blank)
      exact List.forall_mem_cons.mpr ⟨rfl, quotes opens⟩
  have whole : input ++ ')' :: rest =
      spell (scanFrom keywords false start input) ++ (blanks ++ ')' :: rest) := by
    rw [← List.append_assoc, ← shape]
  have width : input.width =
      (spell (scanFrom keywords false start input)).width + blanks.width := by
    rw [← Text.width_append, ← shape]
  refine ⟨⟨.rightParen, blanks, [')'], start + input.width⟩, rfl, ?_⟩
  rw [whole, closed.scanFrom, Bool.false_and, scanFrom_append_cons blank rfl, cut_rightParen]
  simp [width, Nat.add_assoc]

end BroadcastQuery.Token
