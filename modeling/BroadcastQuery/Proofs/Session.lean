import Mathlib.Data.List.Induction
import BroadcastQuery.Console
import BroadcastQuery.Proofs.Chains
import BroadcastQuery.Proofs.QueryString

/-!
What a session keeps. Each of the settings in force at a line is the one that the last accepted
command for it before that line has set, and nothing else passes from one line to the next.
-/
namespace BroadcastQuery.Console

inductive Adjustment where
  | mode (mode : Mode)
  | range (range : DateRange)
  | aggregation (aggregation : Aggregation)

def modeWord : Mode → Text
  | .strict => "strict".toList
  | .lenient => "lenient".toList

/-- The words of an accepted command and what it sets. Words that are left over do not matter. -/
inductive Accepted : List Text → Adjustment → Prop
  | mode {name : Text} {others : List Text} {mode : Mode} (named : name = modeWord mode) :
      Accepted (name :: others) (.mode mode)
  | range {name start stop : Text} {others : List Text} {range : DateRange}
      (named : name = "range".toList) (first : Date.ofText start = .ok range.start)
      (last : Date.ofText stop = .ok range.stop) :
      Accepted (name :: start :: stop :: others) (.range range)
  | aggregation {name text : Text} {others : List Text} {aggregation : Aggregation}
      (named : name = "agg".toList) (known : text.foldAscii = aggregation.name.toList) :
      Accepted (name :: text :: others) (.aggregation aggregation)

/-- The words after the colon at the start of a line, once its backspaces are done. -/
def commandWords? (input : Text) : Option (List Text) :=
  match input.typed?.map Text.trim with
  | some (c :: rest) => if c = ':' then some (Text.words rest) else none
  | _ => none

/-- A line is an accepted command with that adjustment. -/
def Sets (input : Text) (adjustment : Adjustment) : Prop :=
  ∃ words, commandWords? input = some words ∧ Accepted words adjustment

/-- The value that the last of the lines to set one has set, or else the initial one. -/
def Latest {α : Type} (sets : Text → α → Prop) (initial : α) (inputs : List Text) (value : α) :
    Prop :=
  (∃ earlier input later, inputs = earlier ++ input :: later ∧ sets input value ∧
    ∀ other ∈ later, ∀ another, ¬sets other another) ∨
  (value = initial ∧ ∀ input ∈ inputs, ∀ another, ¬sets input another)

/-- The settings that lines leave behind: strict, the ten years from 2010 on, and months, where no
command has set another. -/
structure InForce (inputs : List Text) (settings : Settings) : Prop where
  mode : Latest (fun input mode => Sets input (.mode mode)) .strict inputs settings.mode
  range : Latest (fun input range => Sets input (.range range))
    ⟨⟨2010, 1, 1, by decide⟩, ⟨2019, 12, 31, by decide⟩, by decide⟩ inputs settings.range
  aggregation : Latest (fun input aggregation => Sets input (.aggregation aggregation)) .month
    inputs settings.aggregation

/-! The last value. -/

section

variable {α : Type} {sets : Text → α → Prop} {initial value : α} {inputs : List Text}
  {input : Text}

theorem latest_nil_iff : Latest sets initial [] value ↔ value = initial := by
  simp [Latest]

/-- A line more is the last to set a value, or leaves open which line was. -/
theorem latest_concat_iff : Latest sets initial (inputs ++ [input]) value ↔
    sets input value ∨
      (Latest sets initial inputs value ∧ ∀ another, ¬sets input another) := by
  constructor
  · rintro (⟨earlier, setter, later, shape, here, after⟩ | ⟨same, nowhere⟩)
    · rcases List.eq_nil_or_concat later with rfl | ⟨later, last, rfl⟩
      · obtain ⟨-, same⟩ := List.append_inj' shape rfl
        obtain ⟨rfl, -⟩ := List.cons.inj same
        exact .inl here
      · have whole : inputs ++ [input] = (earlier ++ setter :: later) ++ [last] := by
          rw [shape, List.concat_eq_append, List.append_assoc, List.cons_append]
        obtain ⟨rfl, same⟩ := List.append_inj' whole rfl
        obtain ⟨rfl, -⟩ := List.cons.inj same
        refine .inr ⟨.inl ⟨earlier, setter, later, rfl, here, fun other member => ?_⟩, ?_⟩
        · exact after other (by simp [member])
        · exact after input (by simp)
    · refine .inr ⟨.inr ⟨same, fun other member => ?_⟩, ?_⟩
      · exact nowhere other (List.mem_append_left _ member)
      · exact nowhere input (by simp)
  · rintro (here | ⟨⟨earlier, setter, later, rfl, here, after⟩ | ⟨same, nowhere⟩, none⟩)
    · exact .inl ⟨inputs, input, [], rfl, here, by simp⟩
    · refine .inl ⟨earlier, setter, later ++ [input], by simp, here, fun other member => ?_⟩
      rcases List.mem_append.mp member with member | member
      · exact after other member
      · exact List.mem_singleton.mp member ▸ none
    · refine .inr ⟨same, fun other member => ?_⟩
      rcases List.mem_append.mp member with member | member
      · exact nowhere other member
      · exact List.mem_singleton.mp member ▸ none

end

/-! One line. -/

def Settings.adjust (settings : Settings) : Adjustment → Settings
  | .mode mode => { settings with mode }
  | .range range => { settings with range }
  | .aggregation aggregation => { settings with aggregation }

theorem modeWord_inj {mode mode' : Mode} (same : modeWord mode = modeWord mode') :
    mode = mode' := by
  revert same
  cases mode <;> cases mode' <;> decide

theorem modeWord_ne (mode : Mode) :
    modeWord mode ≠ "range".toList ∧ modeWord mode ≠ "agg".toList := by
  cases mode <;> decide

theorem Aggregation.ofText_eq_ok_iff {text : Text} {aggregation : Aggregation} :
    Aggregation.ofText text = .ok aggregation ↔ text.foldAscii = aggregation.name.toList := by
  constructor
  · intro read
    unfold Aggregation.ofText at read
    split at read
    · next found =>
      obtain rfl := Except.ok.inj read
      have same := List.find?_some found
      exact (beq_iff_eq.mp same).symm
    · contradiction
  · intro known
    rw [Aggregation.ofText, known]
    cases aggregation <;> rfl

theorem eq_ok_of_mapError {α ε ε' : Type} {answer : Except ε α} {f : ε → ε'} {value : α}
    (done : answer.mapError f = .ok value) : answer = .ok value := by
  cases answer with
  | error error => contradiction
  | ok found => exact congrArg Except.ok (Except.ok.inj done)

/-- Two texts are a range when they are dates, and the first is not the later one. -/
theorem readRange_eq_ok_iff {start stop : Text} {range : DateRange} :
    readRange start stop = .ok range ↔
      Date.ofText start = .ok range.start ∧ Date.ofText stop = .ok range.stop := by
  constructor
  · intro read
    obtain ⟨first, readFirst, read⟩ := Checker.exists_of_bind_ok read
    obtain ⟨last, readLast, made⟩ := Checker.exists_of_bind_ok read
    have made := eq_ok_of_mapError made
    unfold DateRange.ofDates at made
    split at made
    · obtain rfl := Except.ok.inj made
      exact ⟨eq_ok_of_mapError readFirst, eq_ok_of_mapError readLast⟩
    · contradiction
  · rintro ⟨first, last⟩
    have made : DateRange.ofDates range.start range.stop = .ok range := dif_pos range.ordered
    rw [readRange, first, last]
    exact congrArg (Except.mapError RangeError.reversed) made

/-- Words are one accepted command at most. -/
theorem Accepted.unique {words : List Text} {a b : Adjustment} (one : Accepted words a)
    (another : Accepted words b) : a = b := by
  cases one with
  | mode named =>
    cases another with
    | mode named' => rw [modeWord_inj (named.symm.trans named')]
    | range named' => exact absurd (named.symm.trans named') (modeWord_ne _).1
    | aggregation named' => exact absurd (named.symm.trans named') (modeWord_ne _).2
  | range named first last =>
    cases another with
    | mode named' => exact absurd (named'.symm.trans named) (modeWord_ne _).1
    | range named' first' last' =>
      have read := readRange_eq_ok_iff.mpr ⟨first, last⟩
      have read' := readRange_eq_ok_iff.mpr ⟨first', last'⟩
      rw [Except.ok.inj (read.symm.trans read')]
    | aggregation named' => exact absurd (named.symm.trans named') (by decide)
  | aggregation named known =>
    cases another with
    | mode named' => exact absurd (named'.symm.trans named) (modeWord_ne _).2
    | range named' => exact absurd (named.symm.trans named') (by decide)
    | aggregation named' known' => rw [Aggregation.name_inj (known.symm.trans known')]

theorem obey_of_accepted {words : List Text} {adjustment : Adjustment}
    (accepted : Accepted words adjustment) (settings : Settings) :
    (settings.obey (.ofWords words)).1 = settings.adjust adjustment := by
  cases accepted with
  | @mode name others mode named =>
    subst named
    cases mode <;> rfl
  | @range name start stop others range named first last =>
    subst named
    have command : Command.ofWords ("range".toList :: start :: stop :: others) =
        .range start stop := rfl
    rw [command, Settings.obey, readRange_eq_ok_iff.mpr ⟨first, last⟩]
    rfl
  | @aggregation name text others aggregation named known =>
    subst named
    have command : Command.ofWords ("agg".toList :: text :: others) = .aggregation text := rfl
    rw [command, Settings.obey, Aggregation.ofText_eq_ok_iff.mpr known]
    rfl

/-- Words that are not accepted change nothing. -/
theorem accepted_or_obey_eq (words : List Text) : (∃ adjustment, Accepted words adjustment) ∨
    ∀ settings : Settings, (settings.obey (.ofWords words)).1 = settings := by
  unfold Command.ofWords
  split
  · exact .inr fun _ => rfl
  next name arguments =>
  split
  · exact .inr fun _ => rfl
  split
  · next named => exact .inl ⟨.mode .strict, .mode named⟩
  split
  · next named => exact .inl ⟨.mode .lenient, .mode named⟩
  split
  · exact .inr fun _ => rfl
  next first others =>
  split
  · next named =>
    cases read : Aggregation.ofText first with
    | ok aggregation => exact .inl ⟨_, .aggregation named (Aggregation.ofText_eq_ok_iff.mp read)⟩
    | error unknown => exact .inr fun _ => by simp [Settings.obey, read]
  split
  · exact .inr fun _ => rfl
  next second _ =>
  split
  · next named =>
    cases read : readRange first second with
    | ok range =>
      obtain ⟨start, stop⟩ := readRange_eq_ok_iff.mp read
      exact .inl ⟨_, .range named start stop⟩
    | error error => exact .inr fun _ => by simp [Settings.obey, read]
  · exact .inr fun _ => rfl

theorem ofText_cases (input : Text) :
    (∃ words, commandWords? input = some words ∧ Line.ofText input = .command (.ofWords words)) ∨
    (commandWords? input = none ∧ ∀ command, Line.ofText input ≠ .command command) := by
  unfold commandWords? Line.ofText
  cases input.typed? with
  | none => simp
  | some text =>
    simp only [Option.map_some]
    cases text.trim with
    | nil => simp
    | cons c rest => by_cases colon : c = ':' <;> simp [colon]

/-- A line sets one setting, or nothing. -/
theorem step_cases (checker : Checker) (input : Text) :
    (∃ adjustment, (∀ other, Sets input other ↔ other = adjustment) ∧
      ∀ settings : Settings, (settings.step checker (.ofText input)).1 =
        settings.adjust adjustment) ∨
    ((∀ adjustment, ¬Sets input adjustment) ∧
      ∀ settings : Settings, (settings.step checker (.ofText input)).1 = settings) := by
  rcases ofText_cases input with ⟨words, found, command⟩ | ⟨absent, other⟩
  · rw [command]
    by_cases accepted : ∃ adjustment, Accepted words adjustment
    · obtain ⟨adjustment, accepted⟩ := accepted
      refine .inl ⟨adjustment, fun other => ⟨?_, ?_⟩, obey_of_accepted accepted⟩
      · rintro ⟨words', found', also⟩
        obtain rfl := Option.some.inj (found.symm.trans found')
        exact also.unique accepted
      · rintro rfl
        exact ⟨words, found, accepted⟩
    · refine .inr ⟨?_, (accepted_or_obey_eq words).resolve_left accepted⟩
      rintro adjustment ⟨words', found', also⟩
      obtain rfl := Option.some.inj (found.symm.trans found')
      exact accepted ⟨adjustment, also⟩
  · refine .inr ⟨?_, fun settings => ?_⟩
    · rintro adjustment ⟨words, found, -⟩
      rw [absent] at found
      contradiction
    · cases line : Line.ofText input with
      | command command => exact absurd line (other command)
      | empty | query | unusable => rfl

/-! All lines of a session. -/

def Settings.following (checker : Checker) (settings : Settings) (lines : List Line) : Settings :=
  lines.foldl (fun settings line => (settings.step checker line).1) settings

theorem following_concat (checker : Checker) (settings : Settings) (before : List Line)
    (line : Line) : settings.following checker (before ++ [line]) =
      ((settings.following checker before).step checker line).1 := by
  simp [Settings.following]

/-- A part of the settings is what the last line to set it has made of it, if that is what an
adjustment of the part does and no other adjustment changes it. -/
theorem latest_following_iff {α : Type} (set : α → Adjustment) (part : Settings → α)
    (own : ∀ (settings : Settings) value, part (settings.adjust (set value)) = value)
    (foreign : ∀ (settings : Settings) adjustment, (∀ value, adjustment ≠ set value) →
      part (settings.adjust adjustment) = part settings)
    (checker : Checker) (settings : Settings) (inputs : List Text) (value : α) :
    Latest (fun input value => Sets input (set value)) (part settings) inputs value ↔
      value = part (settings.following checker (inputs.map Line.ofText)) := by
  have distinct : ∀ {one another : α}, set one = set another ↔ one = another := by
    intro one another
    refine ⟨fun same => ?_, congrArg set⟩
    rw [← own settings one, same, own]
  -- From the end: a line that sets the part decides alone, any other leaves it to those before.
  induction inputs using List.reverseRecOn with
  | nil => exact latest_nil_iff
  | append_singleton inputs input ih =>
    rw [latest_concat_iff, iff_iff_eq.mp ih, List.map_append, List.map_singleton,
      following_concat]
    rcases step_cases checker input with ⟨adjustment, only, made⟩ | ⟨none, same⟩
    · rw [made]
      by_cases mine : ∃ value, adjustment = set value
      · obtain ⟨value, rfl⟩ := mine
        simp [only, own, distinct]
      · have others : ∀ value, adjustment ≠ set value := fun value same => mine ⟨value, same⟩
        simp [only, foreign _ _ others, fun value => (others value).symm]
    · rw [same]
      simp [none]

/-- There is one value of each setting, and it is the one that the lines leave. -/
theorem inForce_iff (checker : Checker) (inputs : List Text) (settings : Settings) :
    InForce inputs settings ↔
      settings = Settings.initial.following checker (inputs.map Line.ofText) := by
  have mode := latest_following_iff Adjustment.mode Settings.mode
    (fun _ _ => rfl) (fun settings adjustment other => by
      cases adjustment with
      | mode mode => exact absurd rfl (other mode)
      | range | aggregation => rfl) checker .initial inputs settings.mode
  have range := latest_following_iff Adjustment.range Settings.range
    (fun _ _ => rfl) (fun settings adjustment other => by
      cases adjustment with
      | range range => exact absurd rfl (other range)
      | mode | aggregation => rfl) checker .initial inputs settings.range
  have aggregation := latest_following_iff Adjustment.aggregation Settings.aggregation
    (fun _ _ => rfl) (fun settings adjustment other => by
      cases adjustment with
      | aggregation aggregation => exact absurd rfl (other aggregation)
      | mode | range => rfl) checker .initial inputs settings.aggregation
  constructor
  · rintro ⟨modes, ranges, aggregations⟩
    have sameMode := mode.mp modes
    have sameRange := range.mp ranges
    have sameAggregation := aggregation.mp aggregations
    cases settings
    simp_all
  · rintro rfl
    exact ⟨mode.mpr rfl, range.mpr rfl, aggregation.mpr rfl⟩

theorem Transcript.after_after (transcript : Transcript) (first second : List String) :
    (transcript.after second).after first = transcript.after (first ++ second) := by
  simp [Transcript.after]

theorem run_cons {line : Line} (goes : line.ending = none) (checker : Checker)
    (settings : Settings) (after : List Line) : run checker settings (line :: after) =
      (run checker (settings.step checker line).1 after).after
        (settings.step checker line).2 := by
  rw [run, goes]

/-- Lines that do not end the session hand their settings to the lines after them, and nothing
else. -/
theorem run_append {before : List Line} (running : ∀ line ∈ before, line.ending = none)
    (checker : Checker) (settings : Settings) (after : List Line) :
    run checker settings (before ++ after) =
      (run checker (settings.following checker before) after).after
        (run checker settings before).printed := by
  induction before generalizing settings with
  | nil => rfl
  | cons line before ih =>
    have goes := running line List.mem_cons_self
    have rest := ih fun other member => running other (List.mem_cons_of_mem _ member)
    rw [List.cons_append, run_cons goes, run_cons goes, rest, Transcript.after_after]
    rfl

/-- Before any line that is reached, the settings are those of the last accepted commands, the range
being in order. What was printed apart, the session goes on as one that starts with these settings:
a line that is no accepted command leaves them, and so does a query, whose answer they decide. -/
theorem settings_in_force (checker : Checker) {before : List Text}
    (running : ∀ input ∈ before, (Line.ofText input).ending = none) :
    ∃ settings : Settings, (∀ other, InForce before other ↔ other = settings) ∧
      settings.range.start.le settings.range.stop = true ∧
      ∃ printed : List String,
        (∀ after : List Text, run checker .initial ((before ++ after).map Line.ofText) =
          (run checker settings (after.map Line.ofText)).after printed) ∧
        (∀ input, (Line.ofText input).ending = none → (∀ adjustment, ¬Sets input adjustment) →
          ∃ more : List String, ∀ after : List Text,
            run checker .initial ((before ++ input :: after).map Line.ofText) =
              (run checker settings (after.map Line.ofText)).after (printed ++ more)) ∧
        ∀ input source, Line.ofText input = .query source → ∀ after : List Text,
          run checker .initial ((before ++ input :: after).map Line.ofText) =
            (run checker settings (after.map Line.ofText)).after
              (printed ++ answer checker settings source) := by
  have goes : ∀ line ∈ before.map Line.ofText, line.ending = none := by
    simpa using running
  refine ⟨Settings.initial.following checker (before.map Line.ofText),
    inForce_iff checker before, DateRange.ordered _,
    (run checker .initial (before.map Line.ofText)).printed, fun after => ?_, ?_, ?_⟩
  · rw [List.map_append, run_append goes]
  · intro input goesOn none
    obtain ⟨adjustment, only, -⟩ | ⟨-, same⟩ := step_cases checker input
    · exact absurd ((only adjustment).mpr rfl) (none adjustment)
    · let settings := Settings.initial.following checker (before.map Line.ofText)
      refine ⟨(settings.step checker (.ofText input)).2, fun after => ?_⟩
      rw [List.map_append, run_append goes, List.map_cons, run_cons goesOn, same,
        Transcript.after_after]
  · intro input source query after
    rw [List.map_append, run_append goes, List.map_cons, query]
    exact Transcript.after_after _ _ _

/-- A range in the wrong order and a query without a value are passed over, and words that follow a
command do not matter. -/
theorem settings_in_force_refusals :
    let before := [":lenient now", ":range 2015-02-01 2014-01-01", ":agg YEAR", "channel=",
      ": range 2001-1-1 2001-12-31 x", ":agg hour", ":Strict", ""].map String.toList
    let settings : Settings := ⟨.lenient,
      ⟨⟨2001, 1, 1, by decide⟩, ⟨2001, 12, 31, by decide⟩, by decide⟩, .year⟩
    (∀ input ∈ before, (Line.ofText input).ending = none) ∧
      (∀ other, InForce before other ↔ other = settings) ∧
      ∃ printed : List String, ∀ after : List Text,
        run (.ofConfig .standard) .initial
            ((before ++ "channel=cnn".toList :: after).map Line.ofText) =
          (run (.ofConfig .standard) settings (after.map Line.ofText)).after
            (printed ++ answer (.ofConfig .standard) settings "channel=cnn".toList) := by
  intro before settings
  have running : ∀ input ∈ before, (Line.ofText input).ending = none := by decide +kernel
  obtain ⟨left, only, -, printed, -, -, query⟩ :=
    settings_in_force (.ofConfig .standard) running
  have inForce : InForce before settings :=
    (inForce_iff (.ofConfig .standard) before settings).mpr (by decide +kernel)
  obtain rfl := (only settings).mp inForce
  exact ⟨running, only, printed, query _ _ (by decide +kernel)⟩

end BroadcastQuery.Console
