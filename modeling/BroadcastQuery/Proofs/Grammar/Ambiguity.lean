import BroadcastQuery.Proofs.Grammar
import BroadcastQuery.Proofs.Runs

/-!
The grammar is unambiguous. A derivation of the front of some tokens is determined by them as soon
as what follows can neither go on with a bare value nor, after a level, with that level.
-/
namespace BroadcastQuery.Grammar

theorem extendsBare_iff {token : Token} :
    ExtendsBare token.kind ↔ token.continuesValue = true := by
  unfold ExtendsBare Token.continuesValue
  cases token.kind <;> simp

/-- No bare value goes on with these tokens. -/
def EndsValue (rest : List Token) : Prop := ∀ token ∈ rest.head?, token.continuesValue = false

/-- No level goes on with these tokens. -/
def EndsLevel (rest : List Token) : Prop :=
  ∀ token ∈ rest.head?, ∀ connective, token.kind ≠ .keyword (.connective connective)

theorem endsValue_cons {token : Token} {rest : List Token} (ends : ¬ExtendsBare token.kind) :
    EndsValue (token :: rest) := by
  rintro other ⟨⟩
  exact Bool.eq_false_iff.mpr ((not_congr extendsBare_iff).mp ends)

theorem endsLevel_nil : EndsLevel [] := by
  rintro token ⟨⟩

theorem endsLevel_cons {token : Token} {rest : List Token}
    (ends : ∀ connective, token.kind ≠ .keyword (.connective connective)) :
    EndsLevel (token :: rest) := by
  rintro other ⟨⟩
  exact ends

theorem endsValue_joint {token : Token} {rest : List Token} {connective : Connective}
    (joint : token.kind = .keyword (.connective connective)) : EndsValue (token :: rest) :=
  endsValue_cons (by simp [ExtendsBare, joint])

theorem endsValue_rightParen {token : Token} {rest : List Token}
    (close : token.kind = .rightParen) : EndsValue (token :: rest) :=
  endsValue_cons (by simp [ExtendsBare, close])

theorem endsLevel_rightParen {token : Token} {rest : List Token}
    (close : token.kind = .rightParen) : EndsLevel (token :: rest) :=
  endsLevel_cons (by simp [close])

theorem StartsBare.ne_quoted {kind : Token.Kind} (starts : StartsBare kind) (text : Text) :
    kind ≠ .quoted text := by
  rintro rfl
  exact starts

theorem Written.append_inj {value value' : Written} {rest rest' : List Token}
    (valid : value.Valid) (valid' : value'.Valid) (ends : EndsValue rest) (ends' : EndsValue rest')
    (same : value.tokens ++ rest = value'.tokens ++ rest') : value = value' ∧ rest = rest' := by
  cases value with
  | quoted token text =>
    cases value' with
    | quoted token' text' =>
      obtain ⟨rfl, rests⟩ := List.cons.inj same
      exact ⟨by rw [Token.Kind.quoted.inj (valid.symm.trans valid')], rests⟩
    | bare first more =>
      obtain ⟨rfl, -⟩ := List.cons.inj same
      exact absurd valid (valid'.1.ne_quoted text)
  | bare first more =>
    cases value' with
    | quoted token' text' =>
      obtain ⟨rfl, -⟩ := List.cons.inj same
      exact absurd valid' (valid.1.ne_quoted text')
    | bare first' more' =>
      obtain ⟨rfl, tails⟩ := List.cons.inj same
      obtain ⟨rfl, rests⟩ := run_inj (p := Token.continuesValue) tails
        (fun token inside => extendsBare_iff.mp (valid.2 token inside)) ends
        (fun token inside => extendsBare_iff.mp (valid'.2 token inside)) ends'
      exact ⟨rfl, rests⟩

mutual

theorem Item.append_inj {item item' : Item} {rest rest' : List Token} (valid : item.Valid)
    (valid' : item'.Valid) (ends : EndsValue rest) (ends' : EndsValue rest')
    (same : item.tokens ++ rest = item'.tokens ++ rest') : item = item' ∧ rest = rest' := by
  match item, item' with
  | .pair key name sign value, .pair key' name' sign' value' =>
    obtain ⟨word, -, written⟩ := valid
    obtain ⟨word', -, written'⟩ := valid'
    obtain ⟨rfl, tails⟩ := List.cons.inj same
    obtain ⟨rfl, values⟩ := List.cons.inj tails
    obtain ⟨rfl, rests⟩ := Written.append_inj written written' ends ends' values
    exact ⟨by rw [Token.Kind.word.inj (word.symm.trans word')], rests⟩
  | .pair key name sign value, .group opening level closing =>
    obtain ⟨rfl, -⟩ := List.cons.inj same
    exact absurd (valid.1.symm.trans valid'.1) (by simp)
  | .group opening level closing, .pair key name sign value =>
    obtain ⟨rfl, -⟩ := List.cons.inj same
    exact absurd (valid.1.symm.trans valid'.1) (by simp)
  | .group opening level closing, .group opening' level' closing' =>
    obtain ⟨-, ⟨connective, inner⟩, close⟩ := valid
    obtain ⟨-, ⟨connective', inner'⟩, close'⟩ := valid'
    simp only [Item.tokens, List.cons_append, List.append_assoc, List.nil_append,
      List.cons.injEq] at same
    obtain ⟨rfl, tails⟩ := same
    obtain ⟨rfl, closings⟩ := level.append_inj inner inner' (endsValue_rightParen close)
      (endsValue_rightParen close') (endsLevel_rightParen close) (endsLevel_rightParen close') tails
    obtain ⟨rfl, rests⟩ := List.cons.inj closings
    exact ⟨rfl, rests⟩

theorem Level.append_inj {level level' : Level} {connective connective' : Connective}
    {rest rest' : List Token} (valid : level.Valid connective) (valid' : level'.Valid connective')
    (ends : EndsValue rest) (ends' : EndsValue rest') (last : EndsLevel rest)
    (last' : EndsLevel rest') (same : level.tokens ++ rest = level'.tokens ++ rest') :
    level = level' ∧ rest = rest' := by
  match level, level' with
  | .last item, .last item' =>
    obtain ⟨rfl, rests⟩ := item.append_inj valid valid' ends ends' same
    exact ⟨rfl, rests⟩
  | .last item, .more item' own' joint' following' =>
    obtain ⟨first', -, kind', -⟩ := valid'
    rw [Level.tokens, Level.tokens, List.append_assoc] at same
    obtain ⟨-, rfl⟩ := item.append_inj valid first' ends (endsValue_joint kind') same
    exact absurd kind' (last _ rfl _)
  | .more item own joint following, .last item' =>
    obtain ⟨first, -, kind, -⟩ := valid
    rw [Level.tokens, Level.tokens, List.append_assoc] at same
    obtain ⟨-, rfl⟩ := item.append_inj first valid' (endsValue_joint kind) ends' same
    exact absurd kind (last' _ rfl _)
  | .more item own joint following, .more item' own' joint' following' =>
    obtain ⟨first, rfl, kind, others⟩ := valid
    obtain ⟨first', rfl, kind', others'⟩ := valid'
    rw [Level.tokens, Level.tokens, List.append_assoc, List.append_assoc] at same
    obtain ⟨rfl, joints⟩ :=
      item.append_inj first first' (endsValue_joint kind) (endsValue_joint kind') same
    obtain ⟨rfl, tails⟩ := List.cons.inj joints
    obtain ⟨rfl, rests⟩ := following.append_inj others others' ends ends' last last' tails
    obtain rfl : own = own' := by simpa using kind.symm.trans kind'
    exact ⟨rfl, rests⟩

end

def OpensItem : Token.Kind → Prop
  | .word _ | .leftParen => True
  | _ => False

theorem Item.exists_first {item : Item} (valid : item.Valid) :
    ∃ token rest, item.tokens = token :: rest ∧ OpensItem token.kind := by
  cases item with
  | pair key name sign value => exact ⟨key, _, rfl, by simp [OpensItem, valid.1]⟩
  | group opening level closing => exact ⟨opening, _, rfl, by simp [OpensItem, valid.1]⟩

theorem Level.exists_first {level : Level} {connective : Connective}
    (valid : level.Valid connective) :
    ∃ token rest, level.tokens = token :: rest ∧ OpensItem token.kind := by
  cases level with
  | last item => exact Item.exists_first valid
  | more item own joint following =>
    obtain ⟨token, rest, shape, opens⟩ := Item.exists_first valid.1
    exact ⟨token, rest ++ joint :: following.tokens, by rw [Level.tokens, shape]; rfl, opens⟩

/-- A query may go on with these tokens after its main level. -/
def ModifierOrEnd (rest : List Token) : Prop :=
  ∀ token ∈ rest.head?, ∃ modifier, token.kind = .keyword (.modifier modifier)

theorem modifierOrEnd_nil : ModifierOrEnd [] := by
  rintro token ⟨⟩

theorem modifierOrEnd_cons {token : Token} {rest : List Token} {modifier : Modifier}
    (kind : token.kind = .keyword (.modifier modifier)) : ModifierOrEnd (token :: rest) := by
  rintro other ⟨⟩
  exact ⟨modifier, kind⟩

theorem ModifierOrEnd.endsValue {rest : List Token} (follows : ModifierOrEnd rest) :
    EndsValue rest := by
  intro token head
  obtain ⟨modifier, kind⟩ := follows token head
  simp [Token.continuesValue, kind]

theorem ModifierOrEnd.endsLevel {rest : List Token} (follows : ModifierOrEnd rest) :
    EndsLevel rest := by
  intro token head connective joint
  obtain ⟨modifier, kind⟩ := follows token head
  exact absurd (joint.symm.trans kind) (by simp)

theorem ModifierOrEnd.ne_level {rest rest' : List Token} {level : Level} {connective : Connective}
    (follows : ModifierOrEnd rest) (valid : level.Valid connective) :
    rest ≠ level.tokens ++ rest' := by
  rintro rfl
  obtain ⟨token, tail, shape, opens⟩ := Level.exists_first valid
  obtain ⟨modifier, kind⟩ := follows token (by simp [shape])
  rw [kind] at opens
  exact opens

theorem levelTokens_append_inj {level level' : Option Level} {rest rest' : List Token}
    (valid : LevelValid level) (valid' : LevelValid level') (follows : ModifierOrEnd rest)
    (follows' : ModifierOrEnd rest')
    (same : levelTokens level ++ rest = levelTokens level' ++ rest') :
    level = level' ∧ rest = rest' := by
  cases level with
  | none =>
    cases level' with
    | none => exact ⟨rfl, same⟩
    | some present' =>
      obtain ⟨connective, inner⟩ := valid' present' rfl
      exact absurd same (follows.ne_level inner)
  | some present =>
    obtain ⟨connective, inner⟩ := valid present rfl
    cases level' with
    | none => exact absurd same.symm (follows'.ne_level inner)
    | some present' =>
      obtain ⟨connective', inner'⟩ := valid' present' rfl
      obtain ⟨rfl, rests⟩ := present.append_inj inner inner' follows.endsValue
        follows'.endsValue follows.endsLevel follows'.endsLevel same
      exact ⟨rfl, rests⟩

theorem Derivation.Valid.modifierOrEnd {derivation : Derivation} (valid : derivation.Valid) :
    ModifierOrEnd (secondaryTokens derivation.secondary) := by
  cases present : derivation.secondary with
  | none => exact modifierOrEnd_nil
  | some secondary => exact modifierOrEnd_cons (valid.secondary secondary present).1

/-- After its label a query goes on with an item or a modifier, if at all. -/
theorem Derivation.Valid.head_cases {derivation : Derivation} (valid : derivation.Valid) :
    ∀ token ∈ (levelTokens derivation.main ++ secondaryTokens derivation.secondary).head?,
      OpensItem token.kind ∨ ∃ modifier, token.kind = .keyword (.modifier modifier) := by
  intro token head
  cases main : derivation.main with
  | none =>
    rw [main] at head
    exact .inr (valid.modifierOrEnd token head)
  | some level =>
    obtain ⟨connective, inner⟩ := valid.main level main
    obtain ⟨first, tail, tokens, opens⟩ := Level.exists_first inner
    simp only [main, levelTokens, Option.map_some, Option.getD_some, tokens, List.cons_append,
      List.head?_cons, Option.mem_some_iff] at head
    exact .inl (head ▸ opens)

theorem Derivation.Valid.kind_ne_label {derivation : Derivation} (valid : derivation.Valid)
    {token : Token}
    (head : token ∈ (levelTokens derivation.main ++ secondaryTokens derivation.secondary).head?)
    (text : Text) : token.kind ≠ .label text := by
  intro label
  rcases valid.head_cases token head with opens | ⟨modifier, kind⟩
  · rw [label] at opens
    exact opens
  · exact absurd (label.symm.trans kind) (by simp)

theorem secondaryTokens_inj {secondary secondary' : Option (Token × Modifier × Option Level)}
    (valid : ∀ present ∈ secondary,
      present.1.kind = .keyword (.modifier present.2.1) ∧ LevelValid present.2.2)
    (valid' : ∀ present ∈ secondary',
      present.1.kind = .keyword (.modifier present.2.1) ∧ LevelValid present.2.2)
    (same : secondaryTokens secondary = secondaryTokens secondary') : secondary = secondary' := by
  match secondary, secondary' with
  | none, none => rfl
  | none, some _ => exact absurd same.symm (List.cons_ne_nil _ _)
  | some _, none => exact absurd same (List.cons_ne_nil _ _)
  | some (token, modifier, level), some (token', modifier', level') =>
    obtain ⟨kind, inner⟩ := valid _ rfl
    obtain ⟨kind', inner'⟩ := valid' _ rfl
    obtain ⟨rfl, tails⟩ := List.cons.inj same
    obtain ⟨rfl, -⟩ := levelTokens_append_inj inner inner' modifierOrEnd_nil modifierOrEnd_nil
      (congrArg (· ++ []) tails)
    obtain rfl : modifier = modifier' := by simpa using kind.symm.trans kind'
    rfl

/-- A list of tokens has one derivation at most. -/
theorem Derivation.eq_of_tokens_eq {d d' : Derivation} (valid : d.Valid) (valid' : d'.Valid)
    (same : d.tokens = d'.tokens) : d = d' := by
  have labels : d.label = d'.label ∧ levelTokens d.main ++ secondaryTokens d.secondary =
      levelTokens d'.main ++ secondaryTokens d'.secondary := by
    rw [tokens, tokens] at same
    cases label : d.label with
    | none =>
      cases label' : d'.label with
      | none => simpa [label, label'] using same
      | some found =>
        simp only [label, label', Option.map_none, Option.map_some, Option.toList_none,
          Option.toList_some, List.nil_append, List.cons_append] at same
        exact absurd (valid'.label found label').1 (valid.kind_ne_label (by simp [same]) _)
    | some found =>
      cases label' : d'.label with
      | none =>
        simp only [label, label', Option.map_none, Option.map_some, Option.toList_none,
          Option.toList_some, List.nil_append, List.cons_append] at same
        exact absurd (valid.label found label).1 (valid'.kind_ne_label (by simp [← same]) _)
      | some found' =>
        simp only [label, label', Option.map_some, Option.toList_some, List.nil_append,
          List.cons_append, List.cons.injEq] at same
        have kinds := (valid.label found label).1.symm.trans
          ((congrArg Token.kind same.1).trans (valid'.label found' label').1)
        exact ⟨congrArg some (Prod.ext same.1 (Token.Kind.label.inj kinds)), same.2⟩
  obtain ⟨mains, seconds⟩ := levelTokens_append_inj valid.main valid'.main valid.modifierOrEnd
    valid'.modifierOrEnd labels.2
  have secondaries := secondaryTokens_inj valid.secondary valid'.secondary seconds
  obtain ⟨label, main, secondary⟩ := d
  obtain ⟨label', main', secondary'⟩ := d'
  simp only at labels mains secondaries
  rw [labels.1, mains, secondaries]

end BroadcastQuery.Grammar
