import BroadcastQuery.Proofs.Grammar.Completion

/-!
Where errors point. A reader holds the tokens that it may still report, all of which it has taken;
an error is about one of them, about the token at hand, or about the end. What stands before the
reported place has been read without an error and starts a query.
-/
namespace BroadcastQuery

/-- The error names the place and the characters of the token. -/
def PointsAt (error : SyntaxError) (token : Token) : Prop :=
  error.span = token.span ∧ error.fragment = token.lexeme

theorem pointsAt_problem (token : Token) (what : Problem) : PointsAt (token.problem what) token :=
  ⟨rfl, rfl⟩

/-- The error is about the first of the tokens, or, where there is none, about the end of a source
of `limit` bytes. -/
def Blames (limit : Nat) (error : SyntaxError) : List Token → Prop
  | [] => error.span = ⟨limit, limit⟩ ∧ error.fragment = []
  | token :: _ => PointsAt error token

/-! The tokens that may be reported later. -/

@[simp] def Draft.Opening.held : Draft.Opening → List Token
  | start => []
  | paren token | connective token => [token]

@[simp] def Draft.Due.held : Draft.Due → List Token
  | item opening => opening.held
  | equals key _ => [key]
  | value _ _ sign => [sign]
  | more _ _ _ _ | link _ => []

/-- What is due was announced by a token, and each level was opened by one. -/
@[simp] def Draft.Reader.held (reader : Draft.Reader) : List Token :=
  reader.due.held ++ reader.outer.map Draft.Frame.paren

namespace Grammar

open Draft (Reader)

variable {limit : Nat} {reader : Reader} {token : Token} {tokens : List Token}
  {error : SyntaxError}

/-- The error is about a token that the reader has at hand or holds. -/
def Justified (reader : Reader) (token : Token) (error : SyntaxError) : Prop :=
  ∃ reported ∈ token :: reader.held, PointsAt error reported

/-- A move at a token: afterwards nothing else is held than before and the token, and an error is
justified. -/
def Accounted (reader : Reader) (token : Token) : Draft.Move → Prop
  | .take next => next.held ⊆ token :: reader.held
  | .stop (.error error) _ => Justified reader token error
  | .stop (.ok _) _ => True

theorem justified_token (reader : Reader) (token : Token) (what : Problem) :
    Justified reader token (token.problem what) :=
  ⟨token, List.mem_cons_self, pointsAt_problem token what⟩

theorem justified_held {other : Token} (held : other ∈ reader.held) (what : Problem) :
    Justified reader token (other.problem what) :=
  ⟨other, List.mem_cons_of_mem _ held, pointsAt_problem other what⟩

theorem accounted_take {next : Reader} (covered : ∀ other ∈ next.held,
    other = token ∨ other ∈ reader.held) : Accounted reader token (.take next) :=
  fun other member => List.mem_cons.mpr (covered other member)

theorem accounted_atItem (level : Draft.Level) (outer : List Draft.Frame)
    (opening : Draft.Opening) (token : Token) :
    Accounted ⟨level, outer, .item opening⟩ token
      (Reader.atItem ⟨level, outer, .item opening⟩ opening token) := by
  unfold Reader.atItem
  split
  · exact justified_held (by simp) _
  · exact justified_held (by simp) _
  · exact justified_held (by simp) _
  · exact accounted_take (by simp +contextual)
  · exact accounted_take (by simp +contextual)
  · exact justified_token _ _ _

theorem accounted_afterItem (reader : Reader) (item : Draft) (token : Token) :
    Accounted reader token (reader.afterItem item token) := by
  obtain ⟨level, outer, due⟩ := reader
  unfold Reader.afterItem
  split
  · split
    · exact justified_token _ _ _
    · exact accounted_take (by simp +contextual)
  · trivial
  · exact accounted_take (by simp_all)
  · exact justified_token _ _ _
  · exact justified_token _ _ _

/-- One move accounts for what it holds and reports. -/
theorem accounted_step (reader : Reader) (token : Token) :
    Accounted reader token (reader.step token) := by
  obtain ⟨level, outer, due⟩ := reader
  unfold Reader.step
  cases due with
  | item opening => exact accounted_atItem level outer opening token
  | equals key name =>
    dsimp only
    split
    · exact accounted_take (by simp +contextual)
    · exact justified_token _ _ _
  | value key name sign =>
    dsimp only
    split
    · exact accounted_take (by simp +contextual)
    · exact justified_token _ _ _
    · exact accounted_take (by simp +contextual)
    · exact accounted_take (by simp +contextual)
    · exact justified_held (by simp) _
  | more key name value stop =>
    dsimp only
    split
    · exact accounted_take (by simp +contextual)
    · exact accounted_afterItem _ _ token
  | link item => exact accounted_afterItem _ item token

/-- At the end of the tokens a held one is reported, or the end. -/
theorem blames_of_finish (failed : reader.finish limit = .error error) :
    (∃ reported ∈ reader.held, PointsAt error reported) ∨ Blames limit error [] := by
  obtain ⟨level, outer, due⟩ := reader
  have unclosed (item : Draft)
      (failed : Reader.endAfterItem ⟨level, outer, due⟩ item = .error error) :
      ∃ reported ∈ outer.map Draft.Frame.paren, PointsAt error reported := by
    cases outer with
    | nil => simp [Reader.endAfterItem] at failed
    | cons frame outer =>
      obtain rfl := Except.error.inj failed
      exact ⟨frame.paren, List.mem_cons_self, pointsAt_problem _ _⟩
  unfold Reader.finish at failed
  split at failed
  case h_1 sign due =>
    obtain rfl := Except.error.inj failed
    exact .inl ⟨sign, by simp_all, pointsAt_problem _ _⟩
  case h_2 =>
    obtain rfl := Except.error.inj failed
    exact .inr ⟨rfl, rfl⟩
  case h_3 key name due =>
    obtain rfl := Except.error.inj failed
    exact .inl ⟨key, by simp_all, pointsAt_problem _ _⟩
  case h_4 key name sign due =>
    obtain rfl := Except.error.inj failed
    exact .inl ⟨sign, by simp_all, pointsAt_problem _ _⟩
  case h_5 =>
    obtain ⟨reported, member, points⟩ := unclosed _ failed
    exact .inl ⟨reported, List.mem_append_right _ member, points⟩
  case h_6 =>
    obtain ⟨reported, member, points⟩ := unclosed _ failed
    exact .inl ⟨reported, List.mem_append_right _ member, points⟩

/-- A run that fails reports a token that was held from the start, or a place before which it has
taken all tokens. -/
theorem blames_of_run (failed : (reader.run limit tokens).answer = .error error) :
    (∃ reported ∈ reader.held, PointsAt error reported) ∨
      ∃ before last after, tokens = before ++ after ∧ Takes reader before last ∧
        Blames limit error after := by
  -- What the next reader holds is the token just taken or was held before it: so a report from
  -- there on is about that token, about what was held, or about a later place.
  induction tokens generalizing reader with
  | nil =>
    rcases blames_of_finish failed with held | atEnd
    · exact .inl held
    · exact .inr ⟨[], reader, [], rfl, .done, atEnd⟩
  | cons token rest ih =>
    have here {other : Token} (points : PointsAt error other) (same : other = token) :
        ∃ before last after, token :: rest = before ++ after ∧ Takes reader before last ∧
          Blames limit error after :=
      ⟨[], reader, token :: rest, rfl, .done, same ▸ points⟩
    have accounted := accounted_step reader token
    cases moves : reader.step token with
    | take next =>
      rw [Reader.run, moves] at failed
      rw [moves] at accounted
      rcases ih failed with ⟨reported, member, points⟩ | ⟨before, last, after, rfl, takes, blames⟩
      · rcases List.mem_cons.mp (accounted member) with same | held
        · exact .inr (here points same)
        · exact .inl ⟨reported, held, points⟩
      · exact .inr ⟨token :: before, last, after, rfl, .token moves takes, blames⟩
    | stop answer taken =>
      rw [Reader.run, moves] at failed
      rw [moves, show answer = .error error from failed] at accounted
      obtain ⟨reported, member, points⟩ := accounted
      rcases List.mem_cons.mp member with same | held
      · exact .inr (here points same)
      · exact .inl ⟨reported, held, points⟩

/-! Errors of a query. -/

theorem error_of_andThen {α β : Type} {reading : Reading α} {next : α → List Token → Reading β}
    (failed : (reading.andThen next).answer = .error error) :
    reading.answer = .error error ∨
      ∃ value rest, reading = ⟨.ok value, rest⟩ ∧ (next value rest).answer = .error error := by
  obtain ⟨answer, rest⟩ := reading
  cases answer with
  | error found => exact .inl (congrArg Except.error (Except.error.inj failed))
  | ok value => exact .inr ⟨value, rest, rfl, failed⟩

theorem blames_of_read? (failed : (Draft.read? limit tokens).answer = .error error) :
    ∃ before after, tokens = before ++ after ∧ StartsLevel before ∧ Blames limit error after := by
  unfold Draft.read? at failed
  split at failed
  · contradiction
  · next token rest =>
    split at failed
    · contradiction
    · rcases error_of_andThen failed with failed | ⟨tree, rest, -, failed⟩
      · rcases blames_of_run failed with
          ⟨reported, held, -⟩ | ⟨before, last, after, shape, takes, blames⟩
        · contradiction
        · exact ⟨before, after, shape, takes.startsLevel, blames⟩
      · contradiction

theorem blames_of_label? (failed : (DraftQuery.label? tokens).answer = .error error) :
    Blames limit error tokens := by
  unfold DraftQuery.label? at failed
  split at failed
  · contradiction
  · split at failed
    · split at failed
      · exact Except.error.inj failed ▸ pointsAt_problem _ _
      · contradiction
    · exact Except.error.inj failed ▸ pointsAt_problem _ _
    · contradiction

theorem pointsAt_excess (token : Token) : PointsAt (DraftQuery.excess token) token := by
  unfold DraftQuery.excess
  split <;> exact pointsAt_problem _ _

theorem blames_of_complete {query : DraftQuery}
    (failed : (DraftQuery.complete query tokens).answer = .error error) :
    Blames limit error tokens := by
  cases tokens with
  | nil => contradiction
  | cons token rest => exact Except.error.inj failed ▸ pointsAt_excess token

/-- The tokens before the place that an error is about start a query. -/
theorem blames_of_read (failed : (DraftQuery.read limit tokens).answer = .error error) :
    ∃ before after, tokens = before ++ after ∧ StartsQuery before ∧ Blames limit error after := by
  have unlabelled : LabelValid none := by
    rintro label ⟨⟩
  rcases error_of_andThen failed with failed | ⟨label, afterLabel, readLabel, failed⟩
  · exact ⟨[], tokens, rfl, startsQuery_main unlabelled startsLevel_nil, blames_of_label? failed⟩
  obtain ⟨label, labelled, rfl, rfl⟩ := exists_label_of_label? readLabel
  rcases error_of_andThen failed with failed | ⟨main, afterMain, readMain, failed⟩
  · obtain ⟨before, after, rfl, starts, blames⟩ := blames_of_read? failed
    exact ⟨_, after, (List.append_assoc _ _ _).symm, startsQuery_main labelled starts, blames⟩
  obtain ⟨main, valid, rfl, rfl⟩ := exists_level_of_read? readMain
  have whole := startsQuery_main labelled (startsLevel_levelTokens valid)
  cases afterMain with
  | nil => contradiction
  | cons token rest =>
    cases modifies : token.modifier? with
    | none =>
      simp only [modifies] at failed
      exact ⟨_, token :: rest, (List.append_assoc _ _ _).symm, whole, blames_of_complete failed⟩
    | some modifier =>
      simp only [modifies] at failed
      have kind := kind_of_modifier? modifies
      rcases error_of_andThen failed with failed | ⟨tree, afterTree, readTree, exceeds⟩
      · obtain ⟨before, after, rfl, starts, blames⟩ := blames_of_read? failed
        exact ⟨_, after, by simp, startsQuery_secondary labelled valid kind starts, blames⟩
      · obtain ⟨second, inner, rfl, -⟩ := exists_level_of_read? readTree
        exact ⟨_, afterTree, by simp, startsQuery_secondary labelled valid kind
          (startsLevel_levelTokens inner), blames_of_complete exceeds⟩

end Grammar
end BroadcastQuery
