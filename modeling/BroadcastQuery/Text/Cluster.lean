import BroadcastQuery.Text.Basic
import BroadcastQuery.Text.ClusterTable
import BroadcastQuery.Text.MarkTable

/-!
Clusters: what a reader takes for one character, such as a letter with its accents, a syllable, a
flag or a joined picture (extended grapheme clusters). Whether two neighbours belong together hangs
on their roles and on what the text before them has left open, so one pass from left to right cuts
a text. Putting the clusters together gives the text back.
-/
namespace BroadcastQuery

namespace Cluster

/-- What a character is where clusters are concerned. -/
inductive Role where
  | carriageReturn
  | lineFeed
  | control
  | extending
  | joiner
  | spacing
  | leading
  | openingJamo
  | vowel
  | closingJamo
  | openSyllable
  | closedSyllable
  | indicator
  | pictograph
  | consonant
  | other
deriving DecidableEq

def zeroWidthJoiner : Char := Char.ofNat 0x200D
def zeroWidthNonJoiner : Char := Char.ofNat 0x200C

/-- The syllables of Hangul that are one character; every twenty-eighth has no closing part. -/
def syllables : Ranges := [(0xAC00, 0xD7A3)]

def Role.ofChar (c : Char) : Role :=
  if c = '\r' then .carriageReturn
  else if c = '\n' then .lineFeed
  else if 0x20 ≤ c.toNat && c.toNat < 0x7F then .other
  else if c = zeroWidthJoiner then .joiner
  else if Ranges.hold ClusterTable.controls c then .control
  else if Ranges.hold marks c || Ranges.hold ClusterTable.modifiers c then .extending
  else if Ranges.hold ClusterTable.spacing c then .spacing
  else if Ranges.hold ClusterTable.leading c then .leading
  else if Ranges.hold ClusterTable.openingJamo c then .openingJamo
  else if Ranges.hold ClusterTable.vowels c then .vowel
  else if Ranges.hold ClusterTable.closingJamo c then .closingJamo
  else if Ranges.hold syllables c then
    if (c.toNat - 0xAC00) % 28 = 0 then .openSyllable else .closedSyllable
  else if Ranges.hold ClusterTable.indicators c then .indicator
  else if Ranges.hold ClusterTable.pictographs c then .pictograph
  else if Ranges.hold ClusterTable.consonants c then .consonant
  else .other

def Role.isAlone : Role → Bool
  | .carriageReturn | .lineFeed | .control => true
  | _ => false

def Role.isTrailing : Role → Bool
  | .extending | .joiner | .spacing => true
  | _ => false

/-- The second role may follow the first within a syllable of Hangul. -/
def Role.isSyllable : Role → Role → Bool
  | .openingJamo, .openingJamo | .openingJamo, .vowel => true
  | .openingJamo, .openSyllable | .openingJamo, .closedSyllable => true
  | .vowel, .vowel | .vowel, .closingJamo => true
  | .openSyllable, .vowel | .openSyllable, .closingJamo => true
  | .closedSyllable, .closingJamo | .closingJamo, .closingJamo => true
  | _, _ => false

/-- What matters of the text before a place. -/
structure Context where
  /-- The role of the last character. -/
  role : Role
  /-- The indicators at the end are odd in number. -/
  unpaired : Bool
  /-- The end is a pictograph with what extends it. -/
  pictured : Bool
  /-- The end is such a pictograph and a joiner. -/
  bridged : Bool
  /-- The end is a consonant with what extends it. -/
  based : Bool
  /-- The end is such a consonant, and among what extends it is a linker. -/
  linked : Bool
deriving DecidableEq

namespace Context

def start : Context := ⟨.control, false, false, false, false, false⟩

def next (before : Context) (c : Char) : Context :=
  let role := Role.ofChar c
  let attaches := (role == .extending || role == .joiner) && c != zeroWidthNonJoiner
  { role
    unpaired := role == .indicator && !before.unpaired
    pictured := role == .pictograph || (role == .extending && before.pictured)
    bridged := role == .joiner && before.pictured
    based := role == .consonant || (attaches && before.based)
    linked := attaches && before.based && (Ranges.hold ClusterTable.linkers c || before.linked) }

/-- The character belongs to the cluster that the text before it ends with. -/
def joins (before : Context) (c : Char) : Bool :=
  let role := Role.ofChar c
  if before.role.isAlone || role.isAlone then
    before.role == .carriageReturn && role == .lineFeed
  else
    role.isTrailing || before.role == .leading || before.role.isSyllable role ||
      (role == .consonant && before.linked) || (role == .pictograph && before.bridged) ||
      (role == .indicator && before.unpaired)

end Context

/-- The clusters of a text, of which the first goes on from `gathered`, its characters so far with
the last one first. -/
def gather (before : Context) (gathered : Text) : Text → List Text
  | [] => [gathered.reverse]
  | c :: rest =>
    if before.joins c then gather (before.next c) (c :: gathered) rest
    else gathered.reverse :: gather (before.next c) [c] rest

theorem flatten_gather (before : Context) (gathered t : Text) :
    (gather before gathered t).flatten = gathered.reverse ++ t := by
  induction t generalizing before gathered with
  | nil => simp [gather]
  | cons c rest ih =>
    rw [gather]
    split
    · rw [ih, List.reverse_cons, List.append_assoc, List.singleton_append]
    · rw [List.flatten_cons, ih, List.reverse_singleton, List.singleton_append]

end Cluster

namespace Text

def clusters : Text → List Text
  | [] => []
  | c :: rest => Cluster.gather (Cluster.Context.start.next c) [c] rest

@[simp] theorem flatten_clusters (t : Text) : t.clusters.flatten = t := by
  cases t with
  | nil => rfl
  | cons c rest =>
    rw [clusters, Cluster.flatten_gather, List.reverse_singleton, List.singleton_append]

end Text
end BroadcastQuery
