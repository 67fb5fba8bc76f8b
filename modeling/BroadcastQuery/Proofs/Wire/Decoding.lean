import Mathlib.Data.List.Forall2
import BroadcastQuery.Proofs.CanonicalForm
import BroadcastQuery.Proofs.Pieces

/-!
Reading the wire form of a tree back, one character at a time. The arrays that are open stand on a
stack; where one closes, its parts are put together to a leaf, a group or a list of children. The
key of a leaf tells the type of its value. What is read is the tree that was written, if each of
its values is told by its key.
-/
namespace BroadcastQuery

def Connective.ofName? (name : Text) : Option Connective :=
  [and, or].find? (·.name.toList == name)

namespace Wire

inductive Part where
  | text (text : Text)
  | number (n : Nat)
  | node (node : Node)
  | nodes (nodes : List Node)

namespace Part

def node? : Part → Option Node
  | node tree => some tree
  | _ => none

/-- The value that a part is under a key. -/
def value? : Key → Part → Option Value
  | .text, text t | .hour, text t | .dayOfWeek, text t | .video, text t => some (.text t)
  | .faceName, text t | .channel, text t | .program, text t => some (.member t)
  | .faceTag, text t => some (.tags (pieces (· == ',') t))
  | .textWindow, number n | .faceCount, number n => some (.count n)
  | _, _ => none

def ofArray? : List Part → Option Part
  | [text name, nodes children] => do return node (.group (← Connective.ofName? name) children)
  | [text name, part] => do
    let key ← Key.ofName? name
    return node (.leaf ⟨key, ← part.value? key⟩)
  | parts => do return nodes (← parts.mapM node?)

end Part

/-- What the next character belongs to. The characters read of a string stand last first. -/
inductive Place where
  | item
  | string (read : Text)
  | escape (read : Text)
  /-- The number of a character, of which so many digits are still to come. -/
  | code (read : Text) (value digits : Nat)
  | number (n : Nat)
  | mark

structure Reader where
  place : Place
  /-- The parts of the innermost open array, last first, and those of the arrays around it. -/
  parts : List Part
  outer : List (List Part)

/-- The character that stands for itself or, if it is a letter, for a control character. -/
def unescaped (c : Char) : Char :=
  if c = 'b' then '\x08' else if c = 'f' then '\x0c' else if c = 'n' then '\n'
  else if c = 'r' then '\r' else if c = 't' then '\t' else c

namespace Reader

def start : Reader := ⟨.item, [], []⟩

def go (reader : Reader) (place : Place) : Reader := { reader with place := place }

def push (reader : Reader) (part : Part) : Reader := ⟨.mark, part :: reader.parts, reader.outer⟩

/-- The innermost open array ends. -/
def close (reader : Reader) : Option Reader :=
  match reader.outer with
  | [] => none
  | parts :: outer => do return push ⟨.mark, parts, outer⟩ (← Part.ofArray? reader.parts.reverse)

/-- The character after an item. -/
def next (reader : Reader) (c : Char) : Option Reader :=
  if c = ',' then reader.go .item else if c = ']' then reader.close else none

def step (reader : Reader) (c : Char) : Option Reader :=
  match reader.place with
  | .item =>
    if c = '\x22' then reader.go (.string [])
    else if c = '[' then some ⟨.item, [], reader.parts :: reader.outer⟩
    else if c = ']' then reader.close
    else if c.isDigit then reader.go (.number (c.toNat - '0'.toNat))
    else none
  | .string read =>
    if c = '\x22' then reader.push (.text read.reverse)
    else if c = '\\' then reader.go (.escape read)
    else reader.go (.string (c :: read))
  | .escape read =>
    if c = 'u' then reader.go (.code read 0 3) else reader.go (.string (unescaped c :: read))
  | .code read value 0 => reader.go (.string (Char.ofNat (value * 16 + hexValue c) :: read))
  | .code read value (digits + 1) => reader.go (.code read (value * 16 + hexValue c) digits)
  | .number n =>
    if c.isDigit then reader.go (.number (10 * n + (c.toNat - '0'.toNat)))
    else (reader.push (.number n)).next c
  | .mark => reader.next c

def run (reader : Reader) (t : Text) : Option Reader := t.foldlM step reader

end Reader
end Wire

def Node.ofWire? (t : Text) : Option Node :=
  match Wire.Reader.start.run t with
  | some ⟨.mark, [.node node], []⟩ => some node
  | _ => none

namespace Wire

variable {c : Char} {s t read rest : Text} {part : Part} {parts : List Part} {reader : Reader}

namespace Reader

@[simp] theorem run_nil : reader.run [] = some reader := rfl

theorem run_cons : reader.run (c :: t) = (reader.step c).bind (run · t) := rfl

theorem run_append : reader.run (s ++ t) = (reader.run s).bind (run · t) :=
  List.foldlM_append

/-! Strings. -/

theorem run_escape : (reader.go (.string read)).run (escape c) =
    some (reader.go (.string (c :: read))) := by
  unfold escape
  split
  case isTrue quote => subst quote; rfl
  split
  case isTrue backslash => subst backslash; rfl
  split
  case isTrue backspace => subst backspace; rfl
  split
  case isTrue feed => subst feed; rfl
  split
  case isTrue newline => subst newline; rfl
  split
  case isTrue carriage => subst carriage; rfl
  split
  case isTrue tab => subst tab; rfl
  split
  case isTrue control =>
    have value : hexValue (Nat.digitChar (c.toNat / 16)) * 16 +
        hexValue (Nat.digitChar (c.toNat % 16)) = c.toNat := by
      rw [hexValue_digitChar (by omega), hexValue_digitChar (by omega)]
      omega
    have zero : hexValue '0' = 0 := rfl
    simp [run_cons, step, go, zero, value]
  case isFalse => simp_all [run_cons, step, go]

theorem run_flatMap_escape :
    (reader.go (.string read)).run (t.flatMap escape) =
      some (reader.go (.string (t.reverse ++ read))) := by
  induction t generalizing read with
  | nil => rfl
  | cons c t ih =>
    rw [List.flatMap_cons, run_append, run_escape, Option.bind_some, ih]
    simp

end Reader

/-- Where an item is due, reading the text adds the part. -/
def Reads (t : Text) (part : Part) : Prop :=
  ∀ parts outer c rest, isMark c = true →
    (Reader.mk .item parts outer).run (t ++ c :: rest) =
      (Reader.mk .mark (part :: parts) outer).run (c :: rest)

theorem reads_string (t : Text) : Reads (string t) (.text t) := by
  intro parts outer c rest _
  have opened : (Reader.mk .item parts outer).step '\x22' =
      some ((Reader.mk .item parts outer).go (.string [])) := rfl
  have shape : string t ++ c :: rest = '\x22' :: (t.flatMap escape ++ '\x22' :: c :: rest) := by
    simp [string]
  rw [shape, Reader.run_cons, opened, Option.bind_some, Reader.run_append,
    Reader.run_flatMap_escape, Option.bind_some]
  simp [Reader.run_cons, Reader.step, Reader.go, Reader.push]

/-- Digits add to a number until another character comes. -/
theorem Reader.run_digits (reader : Reader) (n : Nat) (digits : ∀ d ∈ t, d.isDigit = true) :
    (reader.go (.number n)).run t =
      some (reader.go (.number (t.foldl (fun n c => 10 * n + (c.toNat - '0'.toNat)) n))) := by
  induction t generalizing n with
  | nil => rfl
  | cons d t ih =>
    have digit := digits d List.mem_cons_self
    have next : (reader.go (.number n)).step d =
        some (reader.go (.number (10 * n + (d.toNat - '0'.toNat)))) := by
      simp [step, go, digit]
    rw [run_cons, next, Option.bind_some,
      ih _ fun e member => digits e (List.mem_cons_of_mem _ member), List.foldl_cons]

theorem reads_number (n : Nat) : Reads (Text.ofNat n) (.number n) := by
  intro parts outer c rest mark
  have digits : ∀ d ∈ Text.ofNat n, d.isDigit = true := fun d => isDigit_of_mem_ofNat
  have opened : (Reader.mk .item parts outer).run (Text.ofNat n ++ c :: rest) =
      (Reader.mk (.number 0) parts outer).run (Text.ofNat n ++ c :: rest) := by
    obtain ⟨d, more, shape⟩ := List.exists_cons_of_ne_nil (Nat.toDigits_ne_nil (b := 10) (n := n))
    have shape : Text.ofNat n = d :: more := shape
    have digit : d.isDigit = true := digits d (by simp [shape])
    rw [shape, List.cons_append, Reader.run_cons, Reader.run_cons]
    simp [Reader.step, Reader.go, digit, ne_of_isDigit digit]
  have closed : (Reader.mk (.number n) parts outer).step c =
      (Reader.mk .mark (.number n :: parts) outer).step c := by
    have plain : c.isDigit = false := by
      apply Bool.eq_false_iff.mpr
      intro digit
      rw [isMark_eq_false_of_isDigit digit] at mark
      contradiction
    simp [Reader.step, Reader.push, plain]
  have read : (Reader.mk (.number 0) parts outer).run (Text.ofNat n) =
      some (Reader.mk (.number n) parts outer) := by
    have number : (Text.ofNat n).number = n := Nat.ofDigitChars_ten_toDigits
    have made := (Reader.mk .item parts outer).run_digits 0 digits
    rw [← Text.number, number] at made
    exact made
  rw [opened, Reader.run_append, read, Option.bind_some, Reader.run_cons, Reader.run_cons, closed]

/-! Arrays. -/

theorem run_items {texts : List Text} {made : List Part} (each : List.Forall₂ Reads texts made)
    (parts : List Part) (outer : List (List Part)) (rest : Text) :
    (Reader.mk .item parts outer).run (items texts ++ rest) =
      (Reader.mk .mark (made.reverse ++ parts) outer).close.bind (Reader.run · rest) := by
  induction each generalizing parts with
  | nil => rfl
  | @cons text part texts made first others ih =>
    obtain ⟨c, tail, mark, shape, after⟩ := items_cons text texts
    rw [shape, List.append_assoc, List.cons_append, first parts outer c _ mark, Reader.run_cons]
    rcases after with ⟨rfl, rfl, rfl⟩ | ⟨rfl, rfl, more⟩
    · obtain rfl := List.forall₂_nil_left_iff.mp others
      rfl
    · have comma : (Reader.mk .mark (part :: parts) outer).step ',' =
          some ⟨.item, part :: parts, outer⟩ := rfl
      rw [comma, Option.bind_some, ih, List.reverse_cons, List.append_assoc]
      rfl

/-- Reading an array adds what its parts are together. -/
theorem run_array {texts : List Text} {made : List Part} (each : List.Forall₂ Reads texts made)
    (together : Part.ofArray? made = some part) (outer : List (List Part)) :
    (Reader.mk .item parts outer).run (array texts ++ rest) =
      (Reader.mk .mark (part :: parts) outer).run rest := by
  have opened : (Reader.mk .item parts outer).step '[' = some ⟨.item, [], parts :: outer⟩ := rfl
  rw [array_eq_items, List.cons_append, Reader.run_cons, opened, Option.bind_some, run_items each]
  simp [Reader.close, Reader.push, together]

end Wire

/-! Trees. -/

open Wire (Part Reader Reads)

def Value.part : Value → Part
  | .count n => .number n
  | value => .text value.plain

theorem Value.reads_wire (value : Value) : Reads value.wire value.part := by
  cases value with
  | count n => exact Wire.reads_number n
  | text | tags | member => exact Wire.reads_string _

/-- The value of a leaf is told by its key. -/
def Leaf.Told (leaf : Leaf) : Prop := leaf.value.part.value? leaf.key = some leaf.value

theorem Leaf.ofArray?_parts {leaf : Leaf} (told : leaf.Told) :
    Part.ofArray? [.text leaf.key.name.toList, leaf.value.part] = some (.node (.leaf leaf)) := by
  obtain ⟨key, value⟩ := leaf
  have told : value.part.value? key = some value := told
  cases value <;> simp only [Value.part] at told ⊢ <;>
    simp [Part.ofArray?, Key.ofName?_name, told]

theorem Connective.ofName?_name (connective : Connective) :
    ofName? connective.name.toList = some connective := by
  cases connective <;> decide

theorem Wire.Part.mapM_node?_map (children : List Node) :
    (children.map Part.node).mapM Part.node? = some children := by
  induction children with
  | nil => rfl
  | cons child rest ih => simp [List.mapM_cons, ih, Part.node?]

theorem Wire.Part.ofArray?_map_node (children : List Node) :
    Part.ofArray? (children.map .node) = some (.nodes children) := by
  cases children with
  | nil => rfl
  | cons child rest =>
    have parts := Part.mapM_node?_map (child :: rest)
    rw [List.map_cons] at parts ⊢
    simp [Part.ofArray?, parts]

namespace Node

theorem wire_group (connective : Connective) (children : List Node) :
    (group connective children).wire =
      Wire.array [Wire.string connective.name.toList, Wire.array (children.map wire)] := by
  simp only [wire, fold_group]

theorem run_wire {node : Node} (told : ∀ l ∈ node.leaves, l.Told) (parts : List Part)
    (outer : List (List Part)) (rest : Text) :
    (Reader.mk .item parts outer).run (node.wire ++ rest) =
      (Reader.mk .mark (.node node :: parts) outer).run rest := by
  induction node using Node.induction generalizing parts outer rest with
  | leaf l =>
    have told : l.Told := told l List.mem_cons_self
    exact Wire.run_array (.cons (Wire.reads_string _) (.cons l.value.reads_wire .nil))
      (Leaf.ofArray?_parts told) outer
  | group connective children ih =>
    have each : List.Forall₂ Reads (children.map wire) (children.map .node) := by
      refine List.forall₂_map_left_iff.mpr (List.forall₂_map_right_iff.mpr ?_)
      refine List.forall₂_same.mpr fun child member => ?_
      intro parts outer c rest _
      refine ih child member (fun l inside => told l ?_) parts outer (c :: rest)
      rw [leaves_group]
      exact List.mem_flatMap.mpr ⟨child, member, inside⟩
    have inner : Reads (Wire.array (children.map wire)) (.nodes children) :=
      fun parts outer c rest _ => Wire.run_array each (Part.ofArray?_map_node children) outer
    rw [wire_group]
    refine Wire.run_array (.cons (Wire.reads_string _) (.cons inner .nil)) ?_ outer
    simp [Part.ofArray?, Connective.ofName?_name]

/-- A tree is read back from its wire form if each of its values is told by its key. -/
theorem ofWire?_of_told {node : Node} (told : ∀ l ∈ node.leaves, l.Told) :
    ofWire? node.wire = some node := by
  have read := run_wire told [] [] []
  rw [List.append_nil] at read
  rw [ofWire?, Reader.start, read]
  rfl

end Node
end BroadcastQuery
