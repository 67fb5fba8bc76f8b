import BroadcastQuery.Draft.Reading
import BroadcastQuery.Proofs.Grammar.Ambiguity
import BroadcastQuery.Proofs.Scanning

/-!
The reader follows derivations. Over the tokens of an item it comes to stand after the draft of
that item, whatever level it is filling; and a run that ends in a draft has gone over the tokens
of an item, or of a level, first.
-/
namespace BroadcastQuery.Grammar

open Draft (Reader)

def spelled (first : Token) (more : List Token) : Text := first.lexeme ++ Token.spell more

variable {limit : Nat} {level : Draft.Level} {outer : List Draft.Frame} {rest : List Token}

theorem run_take {reader next : Reader} {token : Token} (moves : reader.step token = .take next) :
    reader.run limit (token :: rest) = next.run limit rest := by
  rw [Reader.run, moves]

/-- A bare value ends where it does not go on. -/
theorem run_more_end {key : Token} {name value : Text} {stop : Nat} (ends : EndsValue rest) :
    Reader.run limit ⟨level, outer, .more key name value stop⟩ rest =
      Reader.run limit ⟨level, outer, .link (Reader.pair key name value stop)⟩ rest := by
  cases rest with
  | nil => rfl
  | cons token rest =>
    have stops := ends token rfl
    rw [Reader.run, Reader.run, Reader.step, Reader.step]
    simp only [stops, Bool.false_eq_true, if_false]
    rfl

/-- A reader that has had the whole of a bare value stands after its item. -/
theorem run_more {key first : Token} {name value : Text} {more : List Token}
    (goes : ∀ token ∈ more, token.continuesValue = true) (ends : EndsValue rest) :
    Reader.run limit ⟨level, outer, .more key name value first.stop⟩ (more ++ rest) =
      Reader.run limit ⟨level, outer, .link (Reader.pair key name (value ++ Token.spell more)
        ((first :: more).getLast (List.cons_ne_nil _ _)).stop)⟩ rest := by
  induction more generalizing value first with
  | nil =>
    rw [Token.spell_nil, List.append_nil, List.nil_append, List.getLast_singleton]
    exact run_more_end ends
  | cons token more ih =>
    have continues := goes token List.mem_cons_self
    have step : Reader.step ⟨level, outer, .more key name value first.stop⟩ token =
        .take ⟨level, outer, .more key name (value ++ token.gap ++ token.lexeme) token.stop⟩ := by
      simp [Reader.step, continues]
    rw [List.cons_append, run_take step,
      ih fun other member => goes other (List.mem_cons_of_mem _ member)]
    simp [List.append_assoc]

/-- The level and its last child when a reader that is filling `level` has gone over more of it. -/
def reach (level : Draft.Level) : Level → Draft.Level × Draft
  | .last item => (level, item.draft spelled)
  | .more item connective _ rest =>
    reach ⟨some connective, item.draft spelled :: level.children⟩ rest

/-- A level may go on with a connective. -/
def Fits (level : Draft.Level) (connective : Connective) : Prop :=
  ∀ own ∈ level.connective, own = connective

theorem fits_fresh (connective : Connective) : Fits .fresh connective := by
  rintro own ⟨⟩

theorem fits_some {connective : Connective} {children : List Draft} :
    Fits ⟨some connective, children⟩ connective := by
  rintro own ⟨⟩
  rfl

theorem step_atItem_leftParen {opening : Draft.Opening} {token : Token}
    (kind : token.kind = .leftParen) :
    Reader.step ⟨level, outer, .item opening⟩ token =
      .take ⟨.fresh, ⟨token, level⟩ :: outer, .item (.paren token)⟩ := by
  cases opening <;> simp [Reader.step, Reader.atItem, kind]

theorem step_atItem_word {opening : Draft.Opening} {token : Token} {name : Text}
    (kind : token.kind = .word name) :
    Reader.step ⟨level, outer, .item opening⟩ token =
      .take ⟨level, outer, .equals token name⟩ := by
  cases opening <;> simp [Reader.step, Reader.atItem, kind]

theorem step_equals {key token : Token} {name : Text} (kind : token.kind = .equals) :
    Reader.step ⟨level, outer, .equals key name⟩ token =
      .take ⟨level, outer, .value key name token⟩ := by
  simp [Reader.step, kind]

theorem step_link_connective {item : Draft} {token : Token} {connective : Connective}
    (kind : token.kind = .keyword (.connective connective)) (fits : Fits level connective) :
    Reader.step ⟨level, outer, .link item⟩ token =
      .take ⟨⟨some connective, item :: level.children⟩, outer, .item (.connective token)⟩ := by
  have unmixed : level.connective.any (· != connective) = false := by
    cases own : level.connective with
    | none => rfl
    | some present => simp [fits present own]
  simp [Reader.step, Reader.afterItem, kind, unmixed]

theorem step_link_rightParen {item : Draft} {token : Token} {frame : Draft.Frame}
    (kind : token.kind = .rightParen) :
    Reader.step ⟨level, frame :: outer, .link item⟩ token =
      .take ⟨frame.level, outer, .link (level.close item)⟩ := by
  simp [Reader.step, Reader.afterItem, kind]

theorem step_quoted {key sign token : Token} {name text : Text} (kind : token.kind = .quoted text) :
    Reader.step ⟨level, outer, .value key name sign⟩ token =
      .take ⟨level, outer, .link (Reader.pair key name text token.stop)⟩ := by
  simp [Reader.step, kind]

theorem step_bare {key sign token : Token} {name : Text} (starts : StartsBare token.kind) :
    Reader.step ⟨level, outer, .value key name sign⟩ token =
      .take ⟨level, outer, .more key name token.lexeme token.stop⟩ := by
  unfold StartsBare at starts
  split at starts
  case h_1 kind => simp [Reader.step, kind]
  case h_2 kind => simp [Reader.step, kind]
  case h_3 => exact starts.elim

theorem run_written {key sign : Token} {name : Text} {value : Written} (valid : value.Valid)
    (ends : EndsValue rest) :
    Reader.run limit ⟨level, outer, .value key name sign⟩ (value.tokens ++ rest) =
      Reader.run limit ⟨level, outer, .link
        (Reader.pair key name (value.text spelled) value.stop)⟩ rest := by
  cases value with
  | quoted token text => exact run_take (step_quoted valid)
  | bare first more =>
    obtain ⟨starts, goes⟩ := valid
    rw [Written.tokens, List.cons_append, run_take (step_bare starts)]
    exact run_more (fun token member => extendsBare_iff.mp (goes token member)) ends

theorem link_concat (connective : Connective) (children : List Draft) (last : Draft) :
    Draft.link connective (children ++ [last]) =
      children.flatMap (fun child => [.inl child, .inr connective]) ++ [.inl last] := by
  induction children with
  | nil => rfl
  | cons child rest ih =>
    rw [List.cons_append, Draft.link, ih]
    · rfl
    · simp

theorem close_reach_some {connective : Connective} {children : List Draft} (following : Level)
    (valid : following.Valid connective) :
    (reach ⟨some connective, children⟩ following).1.close
        (reach ⟨some connective, children⟩ following).2 =
      .chain (children.reverse.flatMap (fun child => [.inl child, .inr connective]) ++
        following.chain spelled) := by
  match following with
  | .last item => exact congrArg Draft.chain (link_concat connective children.reverse _)
  | .more item own joint rest =>
    obtain ⟨-, rfl, -, others⟩ := valid
    rw [reach, close_reach_some rest others]
    simp [Level.chain]

/-- A level read from its start is closed to its draft. -/
theorem close_reach_fresh {connective : Connective} {read : Level}
    (valid : read.Valid connective) :
    (reach .fresh read).1.close (reach .fresh read).2 = read.draft spelled := by
  cases read with
  | last item => rfl
  | more item own joint following =>
    obtain ⟨-, rfl, -, others⟩ := valid
    rw [reach, Draft.Level.fresh, close_reach_some following others]
    rfl

mutual

theorem run_item (item : Item) {opening : Draft.Opening} {level : Draft.Level}
    {outer : List Draft.Frame} {rest : List Token} (valid : item.Valid) (ends : EndsValue rest) :
    Reader.run limit ⟨level, outer, .item opening⟩ (item.tokens ++ rest) =
      Reader.run limit ⟨level, outer, .link (item.draft spelled)⟩ rest := by
  match item with
  | .pair key name sign value =>
    obtain ⟨word, equals, written⟩ := valid
    rw [Item.tokens, List.cons_append, List.cons_append, run_take (step_atItem_word word),
      run_take (step_equals equals), run_written written ends]
    rfl
  | .group opening' inner closing =>
    obtain ⟨paren, ⟨connective, inside⟩, close⟩ := valid
    rw [Item.tokens, List.cons_append, List.append_assoc, List.singleton_append,
      run_take (step_atItem_leftParen paren),
      run_level inner inside (fits_fresh connective) (endsValue_rightParen close),
      run_take (step_link_rightParen close), close_reach_fresh inside]
    rfl

theorem run_level (read : Level) {connective : Connective} {opening : Draft.Opening}
    {level : Draft.Level} {outer : List Draft.Frame} {rest : List Token}
    (valid : read.Valid connective) (fits : Fits level connective) (ends : EndsValue rest) :
    Reader.run limit ⟨level, outer, .item opening⟩ (read.tokens ++ rest) =
      Reader.run limit ⟨(reach level read).1, outer, .link (reach level read).2⟩ rest := by
  match read with
  | .last item => exact run_item item valid ends
  | .more item own joint following =>
    obtain ⟨first, rfl, kind, others⟩ := valid
    rw [Level.tokens, List.append_assoc, List.cons_append,
      run_item item first (endsValue_joint kind), run_take (step_link_connective kind fits),
      run_level following others fits_some ends]
    rfl

end

end BroadcastQuery.Grammar
