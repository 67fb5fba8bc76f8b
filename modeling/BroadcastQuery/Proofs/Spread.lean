import BroadcastQuery.Proofs.Chains
import BroadcastQuery.Proofs.Lexemes

/-!
Where the pairs of a query stand in its source: one after another, with no quotation mark between
them.
-/
namespace BroadcastQuery

namespace Token

/-- What the kind of a token says about its characters. -/
def Spells (keywords : Keywords) : Kind → Text → Prop
  | .keyword keyword, lexeme => keywords.classify lexeme = some keyword
  | .word text, lexeme => lexeme = text ∧ ∃ c rest, text = c :: rest ∧ isQuote c = false
  | .quoted text, lexeme => ∃ quote, isQuote quote = true ∧ quote ∉ text ∧
      lexeme = quote :: text ++ [quote]
  | .label text, lexeme => ']' ∉ text ∧ lexeme = '[' :: text ++ [']']
  | .leftParen, lexeme => lexeme = ['(']
  | .rightParen, lexeme => lexeme = [')']
  | .equals, lexeme => lexeme = ['=']
  | .openQuote, lexeme => ∃ quote, isQuote quote = true ∧ lexeme = [quote]
  | .openLabel, lexeme => ∃ rest, lexeme = '[' :: rest

variable {keywords : Keywords} {first : Bool} {start : Nat}

theorem WordRun.head_unquoted {run rest : Text} (alone : WordRun first run rest) :
    ∃ c body, run = c :: body ∧ isQuote c = false := by
  obtain ⟨c, body, rfl⟩ := List.exists_cons_of_ne_nil alone.nonempty
  exact ⟨c, body, rfl, alone.unquoted c rfl⟩

theorem Lexeme.spells {kind : Kind} {lexeme rest : Text}
    (is : Lexeme keywords first kind lexeme rest) : Spells keywords kind lexeme := by
  cases is with
  | leftParen | rightParen | equals => rfl
  | quoted quote absent => exact ⟨_, quote, absent, rfl⟩
  | openQuote quote absent => exact ⟨_, quote, rfl⟩
  | label absent => exact ⟨absent, rfl⟩
  | openLabel absent => exact ⟨_, rfl⟩
  | keyword alone reserved => exact reserved
  | word alone free => exact ⟨rfl, alone.head_unquoted⟩

/-- A token has blanks before it and the characters of its kind. -/
def Spelled (keywords : Keywords) (token : Token) : Prop :=
  (∀ c ∈ token.gap, isBlank c = true) ∧ Spells keywords token.kind token.lexeme

theorem spelled_of_mem_scanFrom {input : Text} : ∀ token ∈ scanFrom keywords first start input,
    token.Spelled keywords := by
  induction first, start, input using scanFrom_induction keywords with
  | blank first start input blank => simp [scanFrom_blank blank]
  | token first start gap c rest blank solid ih =>
    rw [scanFrom_append_cons blank solid]
    intro token member
    rcases List.mem_cons.mp member with rfl | member
    · exact ⟨blank, (lexeme_cut solid).spells⟩
    · exact ih token member

end Token

/-- How a value may be written: between marks that it does not have, or as it is, when it does not
start with a mark. -/
def Writes (written value : Text) : Prop :=
  (∃ quote, Token.isQuote quote = true ∧ quote ∉ value ∧ written = quote :: value ++ [quote]) ∨
    (written = value ∧ ∃ c rest, value = c :: rest ∧ Token.isQuote c = false)

/-- Pairs stand in a text one after another, each as a name, an equals sign and a written value. -/
inductive Spread : List (Text × Text) → Text → Prop
  | none {rest : Text} (unquoted : Unquoted rest) : Spread [] rest
  | pair {before name gap gap' written value rest : Text} {pairs : List (Text × Text)}
      (unquoted : Unquoted before) (blank : ∀ c ∈ gap, isBlank c = true)
      (blank' : ∀ c ∈ gap', isBlank c = true) (writes : Writes written value)
      (others : Spread pairs rest) :
      Spread ((name, value) :: pairs)
        (before ++ (name ++ (gap ++ '=' :: (gap' ++ (written ++ rest)))))

namespace Spread

variable {pairs pairs' : List (Text × Text)} {s t : Text}

theorem append_left (unquoted : Unquoted s) (spread : Spread pairs t) : Spread pairs (s ++ t) := by
  cases spread with
  | none rest => exact .none (unquoted_append unquoted rest)
  | pair before blank blank' writes others =>
    rw [← List.append_assoc]
    exact .pair (unquoted_append unquoted before) blank blank' writes others

theorem append (first : Spread pairs s) (second : Spread pairs' t) :
    Spread (pairs ++ pairs') (s ++ t) := by
  induction first with
  | none unquoted => exact append_left unquoted second
  | pair before blank blank' writes others ih =>
    simp only [List.append_assoc, List.cons_append]
    exact .pair before blank blank' writes ih

theorem append_right (spread : Spread pairs s) (unquoted : Unquoted t) : Spread pairs (s ++ t) := by
  have whole := spread.append (.none unquoted)
  rwa [List.append_nil] at whole

end Spread

/-! The pairs of a derivation are spread over what its tokens spell. -/

theorem unquoted_of_sameFold {t word : Text} (plain : Unquoted word.foldAscii)
    (same : t.sameFold word = true) : Unquoted t := by
  intro c member
  apply Bool.eq_false_iff.mpr
  intro quote
  have inside : c.toLower ∈ word.foldAscii :=
    (beq_iff_eq.mp same : t.foldAscii = word.foldAscii) ▸ List.mem_map_of_mem member
  have unquoted := plain _ inside
  rcases Token.eq_of_isQuote quote with rfl | rfl <;> contradiction

theorem unquoted_of_classify {t : Text} {keyword : Keyword}
    (found : Keywords.standard.classify t = some keyword) : Unquoted t := by
  unfold Keywords.classify at found
  split at found
  · next same => exact unquoted_of_sameFold (by decide) same
  split at found
  · next same => exact unquoted_of_sameFold (by decide) same
  split at found
  · next same => exact unquoted_of_sameFold (by decide) same
  split at found
  · next same => exact unquoted_of_sameFold (by decide) same
  · contradiction

namespace Grammar

variable {keywords : Keywords}

theorem Written.exists_writes {value : Written} (valid : value.Valid)
    (tokens : ∀ token ∈ value.tokens, token.Spelled keywords) :
    ∃ gap written : Text, (∀ c ∈ gap, isBlank c = true) ∧
      Token.spell value.tokens = gap ++ written ∧ Writes written (value.text spelled) := by
  cases value with
  | quoted token text =>
    obtain ⟨blank, spells⟩ := tokens token List.mem_cons_self
    rw [show token.kind = .quoted text from valid] at spells
    exact ⟨token.gap, token.lexeme, blank, List.append_nil _, .inl spells⟩
  | bare first more =>
    obtain ⟨blank, spells⟩ := tokens first List.mem_cons_self
    refine ⟨first.gap, spelled first more, blank, List.append_assoc _ _ _, .inr ⟨rfl, ?_⟩⟩
    have starts := valid.1
    unfold StartsBare at starts
    split at starts
    case h_1 text kind =>
      rw [kind] at spells
      obtain ⟨same, c, rest, shape, unquoted⟩ := spells
      exact ⟨c, rest ++ Token.spell more, by rw [Written.text, spelled, same, shape]; rfl, unquoted⟩
    case h_2 kind =>
      rw [kind] at spells
      exact ⟨'=', Token.spell more, congrArg (· ++ Token.spell more) spells, rfl⟩
    case h_3 => exact starts.elim

theorem pairs_draft (level : Level) :
    (level.draft spelled).pairs = Draft.pairsIn (level.chain spelled) := by
  cases level with
  | last item => exact (List.append_nil _).symm
  | more item connective joint rest => rfl

mutual

theorem Item.spread (item : Item) (valid : item.Valid)
    (tokens : ∀ token ∈ item.tokens, token.Spelled .standard) :
    Spread (item.draft spelled).pairs (Token.spell item.tokens) := by
  match item with
  | .pair key name sign value =>
    obtain ⟨word, equals, written⟩ := valid
    obtain ⟨blank, spells⟩ := tokens key (by simp [Item.tokens])
    obtain ⟨blank', spells'⟩ := tokens sign (by simp [Item.tokens])
    rw [word] at spells
    rw [equals] at spells'
    obtain ⟨gap, text, blank'', whole, writes⟩ := Written.exists_writes written
      fun token member => tokens token (by simp [Item.tokens, member])
    have spelling : Token.spell (Item.tokens (.pair key name sign value)) =
        key.gap ++ (name ++ (sign.gap ++ '=' :: (gap ++ (text ++ [])))) := by
      simp only [Item.tokens, Token.spell_cons, whole]
      rw [show key.lexeme = name from spells.1, show sign.lexeme = ['='] from spells']
      simp
    rw [spelling]
    exact .pair (unquoted_of_blank blank) blank' blank'' writes (.none (by decide))
  | .group opening level closing =>
    obtain ⟨left, ⟨connective, inner⟩, right⟩ := valid
    obtain ⟨blank, spells⟩ := tokens opening (by simp [Item.tokens])
    obtain ⟨blank', spells'⟩ := tokens closing (by simp [Item.tokens])
    rw [left] at spells
    rw [right] at spells'
    have inside := level.spread inner fun token member =>
      tokens token (by simp [Item.tokens, member])
    have spelling : Token.spell (Item.tokens (.group opening level closing)) =
        (opening.gap ++ ['(']) ++ (Token.spell level.tokens ++ (closing.gap ++ [')'])) := by
      simp only [Item.tokens, Token.spell_cons, Token.spell_append, Token.spell_nil]
      rw [show opening.lexeme = ['('] from spells, show closing.lexeme = [')'] from spells']
      simp
    rw [spelling, Item.draft, pairs_draft]
    exact (inside.append_right (unquoted_append (unquoted_of_blank blank') (by decide))).append_left
      (unquoted_append (unquoted_of_blank blank) (by decide))

theorem Level.spread (level : Level) {connective : Connective} (valid : level.Valid connective)
    (tokens : ∀ token ∈ level.tokens, token.Spelled .standard) :
    Spread (Draft.pairsIn (level.chain spelled)) (Token.spell level.tokens) := by
  match level with
  | .last item =>
    have whole := item.spread valid tokens
    rwa [← List.append_nil (item.draft spelled).pairs] at whole
  | .more item own joint rest =>
    obtain ⟨first, rfl, kind, others⟩ := valid
    have here := item.spread first fun token member => tokens token (by simp [Level.tokens, member])
    have following := rest.spread others fun token member =>
      tokens token (by simp [Level.tokens, member])
    obtain ⟨blank, spells⟩ := tokens joint (by simp [Level.tokens])
    rw [kind] at spells
    rw [Level.tokens, Token.spell_append, Token.spell_cons]
    exact here.append (following.append_left
      (unquoted_append (unquoted_of_blank blank) (unquoted_of_classify spells)))

end

/-- The pairs of a query are spread over its source. -/
theorem spread_of_level {source : Text} {level : Level} {connective : Connective}
    (valid : level.Valid connective) (tokens : level.tokens = Token.scan .standard source) :
    Spread (level.draft spelled).pairs source := by
  obtain ⟨blanks, blank, whole⟩ := Token.exists_spell_scanFrom .standard true 0 source
  have sound : ∀ token ∈ level.tokens, token.Spelled .standard := by
    rw [tokens]
    exact Token.spelled_of_mem_scanFrom
  rw [pairs_draft, whole, ← Token.scan, ← tokens]
  exact (level.spread valid sound).append_right (unquoted_of_blank blank)

end Grammar
end BroadcastQuery
