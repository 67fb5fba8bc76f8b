import BroadcastQuery.Proofs.Embedding

/-!
Blanks between tokens do not matter. The lexemes of a source, in their order and with a blank at
least between two of them, make a text of the same kinds of tokens: no word goes on behind a blank,
and blanks neither close a quotation mark nor put a bracket at the start.
-/
namespace BroadcastQuery.Token

/-- Texts one behind the other with blanks before, between and after them. The `first` text may have
no blank before it, the others have one at least. -/
inductive Spaced : (first : Bool) → (parts : List Text) → (text : Text) → Prop
  | done {first : Bool} {blanks : Text} (blank : ∀ c ∈ blanks, isBlank c = true) :
      Spaced first [] blanks
  | part {first : Bool} {gap part text : Text} {parts : List Text}
      (blank : ∀ c ∈ gap, isBlank c = true) (apart : first = false → gap ≠ [])
      (rest : Spaced false parts text) : Spaced first (part :: parts) (gap ++ (part ++ text))

variable {keywords : Keywords} {first : Bool} {start : Nat} {parts : List Text}
  {text source rest : Text} {token : Token} {tokens : List Token} {c : Char}

theorem Spaced.wordEnds (spaced : Spaced false parts text) : WordEnds text := by
  cases spaced with
  | done blank => simpa using wordEnds_blanks blank wordEnds_nil
  | @part _ gap part text parts blank apart rest =>
    obtain ⟨b, gap, rfl⟩ := List.exists_cons_of_ne_nil (apart rfl)
    exact wordEnds_cons (by simp [endsWord, blank b List.mem_cons_self])

theorem Spaced.blank_or_mem (spaced : Spaced first parts text) (member : c ∈ text) :
    isBlank c = true ∨ ∃ part ∈ parts, c ∈ part := by
  induction spaced with
  | done blank => exact .inl (blank c member)
  | part blank apart rest ih =>
    rcases List.mem_append.mp member with inside | member
    · exact .inl (blank c inside)
    · rcases List.mem_append.mp member with inside | member
      · exact .inr ⟨_, List.mem_cons_self, inside⟩
      · rcases ih member with inside | ⟨part, among, inside⟩
        · exact .inl inside
        · exact .inr ⟨part, List.mem_cons_of_mem _ among, inside⟩

/-- What closes no quotation mark before the tokens, closes none before their lexemes. -/
theorem Spaced.keepsOpen (spaced : Spaced first (tokens.map lexeme) text) (rest : Text) :
    KeepsOpen (spell tokens ++ rest) text := by
  intro quote is absent member
  rcases spaced.blank_or_mem member with blank | ⟨part, among, inside⟩
  · rw [isBlank_eq_false_of_isQuote is] at blank
    contradiction
  · obtain ⟨token, listed, rfl⟩ := List.mem_map.mp among
    refine absent (List.mem_append_left _ (List.mem_flatMap.mpr ⟨token, listed, ?_⟩))
    exact List.mem_append_right _ inside

/-- A bracket that is never closed takes the rest of the text. -/
theorem Lexeme.openLabel_rest {part : Text} (is : Lexeme keywords first .openLabel part rest) :
    rest = [] := by
  cases is
  rfl

/-- A bracket that is never closed takes the blanks behind its token too. -/
theorem Lexeme.openLabel_append {part blanks : Text}
    (is : Lexeme keywords first .openLabel part rest) (blank : ∀ c ∈ blanks, isBlank c = true) :
    Lexeme keywords first .openLabel (part ++ blanks) [] := by
  cases is with
  | openLabel absent =>
    refine .openLabel fun member => ?_
    rcases List.mem_append.mp member with inside | inside
    · exact absent inside
    · exact absurd (blank _ inside) (by decide)

theorem Prefix.eq_nil (leads : Prefix keywords first start tokens rest)
    (nothing : spell tokens = []) : tokens = [] := by
  cases leads with
  | done => rfl
  | token blank is others =>
    obtain ⟨c, body, rfl, -, -⟩ := is.exists_cut
    simp at nothing

/-- Tokens of the same kinds stand at the start of the other text, and only blanks behind them. -/
theorem Prefix.respaced (leads : Prefix keywords first start tokens rest)
    (spaced : Spaced first (tokens.map lexeme) text) (start' : Nat) :
    ∃ made blanks, made.map kind = tokens.map kind ∧ (∀ c ∈ blanks, isBlank c = true) ∧
      text = spell made ++ blanks ∧ Prefix keywords first start' made blanks := by
  induction leads generalizing text start' with
  | done =>
    cases spaced with
    | done blank => exact ⟨[], text, rfl, blank, rfl, .done⟩
  | @token first start kind gap lexeme rest tokens blank is others ih =>
    cases spaced with
    | @part _ gap' _ text _ blank' apart following =>
      -- A bracket left open takes the blanks behind it into its lexeme; all others stay the same.
      by_cases opens : kind = .openLabel
      · subst opens
        obtain rfl := others.eq_nil (List.append_eq_nil_iff.mp is.openLabel_rest).1
        cases following with
        | done solid =>
          exact ⟨[⟨.openLabel, gap', lexeme ++ text, start' + gap'.width⟩], [], rfl, by simp,
            by simp, .token blank' (is.openLabel_append solid) .done⟩
      · obtain ⟨made, blanks, kinds, solid, rfl, leads⟩ :=
          ih following (start' + gap'.width + lexeme.width)
        have is' : Lexeme keywords first kind lexeme (spell made ++ blanks) :=
          is.change opens (fun _ => following.wordEnds) fun _ => following.keepsOpen rest
        refine ⟨⟨kind, gap', lexeme, start' + gap'.width⟩ :: made, blanks, ?_, solid, ?_,
          .token blank' is' leads⟩
        · simp only [List.map_cons, kinds]
        · simp

theorem slice?_of_mem_scan (member : token ∈ scan keywords source) :
    source.slice? token.span = some token.lexeme := by
  obtain ⟨before, after, shape⟩ := List.append_of_mem member
  have inside : scan keywords source = before ++ (token :: [] ++ after) := shape
  simpa [span] using slice?_scan inside

/-- The slices that the tokens of a source name make a text of the same kinds of tokens again, with
any blanks around them and some between two of them. -/
theorem scan_respaced (keywords : Keywords) (source : Text) :
    ∃ parts : List Text,
      (scan keywords source).map (fun token => source.slice? token.span) = parts.map some ∧
      ∀ text, Spaced true parts text →
        (scan keywords text).map kind = (scan keywords source).map kind := by
  refine ⟨(scan keywords source).map lexeme, ?_, fun text spaced => ?_⟩
  · rw [List.map_map]
    exact List.map_congr_left fun token member => slice?_of_mem_scan member
  · obtain ⟨rest, -, leads, -⟩ := exists_prefix (List.append_nil (scan keywords source)).symm
    obtain ⟨made, blanks, kinds, blank, rfl, again⟩ := leads.respaced spaced 0
    rw [scan, again.scanFrom, scanFrom_blank blank, List.append_nil, kinds]

/-- A label, a word, a sign and a quotation mark left open, none of them apart in the source. -/
theorem scan_respaced_open :
    Spaced true ["[a]".toList, "b".toList, "=".toList, "'".toList, "c".toList]
      " [a]\tb = ' c ".toList ∧
    (scan .standard " [a]\tb = ' c ".toList).map kind =
      (scan .standard "[a]b='c".toList).map kind := by
  have spaced : Spaced true ["[a]".toList, "b".toList, "=".toList, "'".toList, "c".toList]
      " [a]\tb = ' c ".toList :=
    @Spaced.part _ " ".toList _ _ _ (by simp [isBlank]) (by simp) <|
    @Spaced.part _ "\t".toList _ _ _ (by simp [isBlank]) (by simp) <|
    @Spaced.part _ " ".toList _ _ _ (by simp [isBlank]) (by simp) <|
    @Spaced.part _ " ".toList _ _ _ (by simp [isBlank]) (by simp) <|
    @Spaced.part _ " ".toList _ _ _ (by simp [isBlank]) (by simp) <|
    @Spaced.done _ " ".toList (by simp [isBlank])
  have slices : (scan .standard "[a]b='c".toList).map
      (fun token => Text.slice? "[a]b='c".toList token.span) =
        ["[a]".toList, "b".toList, "=".toList, "'".toList, "c".toList].map some := by
    decide +kernel
  obtain ⟨parts, named, alike⟩ := scan_respaced .standard "[a]b='c".toList
  obtain rfl := (List.map_inj_right fun _ _ => Option.some.inj).mp (slices.symm.trans named)
  exact ⟨spaced, alike _ spaced⟩

end BroadcastQuery.Token
