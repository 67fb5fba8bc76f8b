import BroadcastQuery.Text.Form
import BroadcastQuery.Proofs.Pieces
import BroadcastQuery.Proofs.Scanning

/-!
Reading forms. Whatever characters names and values have, the marks of a form do not stand in their
encodings, so a form is cut where it was put together and every part is read back.
-/
namespace BroadcastQuery.Form

def digitValue? (c : Char) : Option Nat :=
  if c.isDigit then some (c.toNat - '0'.toNat)
  else if 'A' ≤ c ∧ c ≤ 'F' then some (c.toNat - 'A'.toNat + 10)
  else if 'a' ≤ c ∧ c ≤ 'f' then some (c.toNat - 'a'.toNat + 10)
  else none

/-- The bytes that a text stands for: a plus sign for a blank, a percent sign with two hexadecimal
digits for a byte, and anything else for its own UTF-8 form. -/
def bytes : Text → List UInt8
  | [] => []
  | '+' :: rest => String.utf8EncodeChar ' ' ++ bytes rest
  | '%' :: high :: low :: rest =>
    match digitValue? high, digitValue? low with
    | some sixteens, some ones => .ofNat (16 * sixteens + ones) :: bytes rest
    | _, _ => String.utf8EncodeChar '%' ++ bytes (high :: low :: rest)
  | c :: rest => String.utf8EncodeChar c ++ bytes rest

/-- The text that was encoded, if the bytes are UTF-8. -/
def decode? (t : Text) : Option Text := (bytes t).toByteArray.utf8Decode?.map Array.toList

/-- A name and a value: what stands before the first equals sign and after it. -/
def decodePair? (t : Text) : Option (Text × Text) := do
  let parts := (t.breakAt '=').getD (t, [])
  return (← decode? parts.1, ← decode? parts.2)

def decodePairs? (t : Text) : Option (List (Text × Text)) :=
  ((pieces (· == '&') t).filter (!·.isEmpty)).mapM decodePair?

/-! One part. -/

theorem digitValue?_hexDigit {n : Nat} (bound : n < 16) : digitValue? (hexDigit n) = some n := by
  revert n
  decide

theorem bytes_percent (byte : UInt8) (rest : Text) :
    bytes (percent byte ++ rest) = byte :: bytes rest := by
  have small := byte.toNat_lt
  have value : 16 * (byte.toNat / 16) + byte.toNat % 16 = byte.toNat := Nat.div_add_mod _ _
  simp only [percent, List.cons_append, List.nil_append, bytes,
    digitValue?_hexDigit (show byte.toNat / 16 < 16 by omega),
    digitValue?_hexDigit (show byte.toNat % 16 < 16 by omega), value, UInt8.ofNat_toNat]

theorem bytes_flatMap_percent (octets : List UInt8) (rest : Text) :
    bytes (octets.flatMap percent ++ rest) = octets ++ bytes rest := by
  induction octets with
  | nil => rfl
  | cons byte octets ih => rw [List.flatMap_cons, List.append_assoc, bytes_percent, ih]; rfl

theorem bytes_encodeChar (c : Char) (rest : Text) :
    bytes (encodeChar c ++ rest) = String.utf8EncodeChar c ++ bytes rest := by
  unfold encodeChar
  split
  case isTrue plain =>
    rw [List.singleton_append, bytes]
    · rintro rfl
      contradiction
    · rintro high low more rfl
      contradiction
  split
  case isTrue blank => rw [blank, List.singleton_append, bytes]
  case isFalse => exact bytes_flatMap_percent _ _

theorem bytes_encode (t : Text) : bytes (encode t) = t.flatMap String.utf8EncodeChar := by
  induction t with
  | nil => rfl
  | cons c t ih =>
    rw [encode, List.flatMap_cons, bytes_encodeChar, List.flatMap_cons, ← ih]
    rfl

/-- Every text is read back from its encoding. -/
theorem decode?_encode (t : Text) : decode? (encode t) = some t := by
  rw [decode?, bytes_encode, ← List.utf8Encode, List.utf8Decode?_utf8Encode]
  rfl

/-! Cutting. -/

theorem hexDigit_ne {n : Nat} (bound : n < 16) : hexDigit n ≠ '&' ∧ hexDigit n ≠ '=' := by
  revert n
  decide

/-- Neither of the marks of a form. -/
theorem ne_of_mem_encode {t : Text} {c : Char} (member : c ∈ encode t) : c ≠ '&' ∧ c ≠ '=' := by
  obtain ⟨d, -, inside⟩ := List.mem_flatMap.mp member
  unfold encodeChar at inside
  split at inside
  case isTrue plain =>
    obtain rfl := List.mem_singleton.mp inside
    constructor
    · rintro rfl
      contradiction
    · rintro rfl
      contradiction
  split at inside
  case isTrue =>
    obtain rfl := List.mem_singleton.mp inside
    decide
  case isFalse =>
    obtain ⟨byte, -, digit⟩ := List.mem_flatMap.mp inside
    have small := byte.toNat_lt
    simp only [percent, List.mem_cons, List.not_mem_nil, or_false] at digit
    rcases digit with rfl | rfl | rfl
    · decide
    · exact hexDigit_ne (by omega)
    · exact hexDigit_ne (by omega)

def encodePair (pair : Text × Text) : Text := encode pair.1 ++ '=' :: encode pair.2

theorem decodePair?_encodePair (pair : Text × Text) :
    decodePair? (encodePair pair) = some pair := by
  have cut : (encodePair pair).breakAt '=' = some (encode pair.1, encode pair.2) :=
    Token.breakAt_append fun member => (ne_of_mem_encode member).2 rfl
  simp [decodePair?, cut, decode?_encode]

/-- Every list of pairs is read back from its form. -/
theorem decodePairs?_encodePairs (pairs : List (Text × Text)) :
    decodePairs? (encodePairs pairs) = some pairs := by
  have parts : (pieces (· == '&') (encodePairs pairs)).filter (!·.isEmpty) =
      pairs.map encodePair := by
    by_cases empty : pairs = []
    · rw [empty]
      rfl
    · have free : ∀ part ∈ pairs.map encodePair, ∀ c ∈ part, (c == '&') = false := by
        intro part member c inside
        obtain ⟨pair, -, rfl⟩ := List.mem_map.mp member
        rw [beq_eq_false_iff_ne]
        rcases List.mem_append.mp inside with inside | inside
        · exact (ne_of_mem_encode inside).1
        · rcases List.mem_cons.mp inside with rfl | inside
          · decide
          · exact (ne_of_mem_encode inside).1
      have cut : pieces (· == '&') (encodePairs pairs) = pairs.map encodePair :=
        Text.pieces_join (p := (· == '&')) rfl (by simpa using empty) free
      rw [cut, List.filter_eq_self]
      intro part member
      obtain ⟨pair, -, rfl⟩ := List.mem_map.mp member
      simp [encodePair]
  have each : decodePair? ∘ encodePair = fun pair => pure (id pair) := funext decodePair?_encodePair
  rw [decodePairs?, parts, List.mapM_map, each, List.mapM_pure, List.map_id]
  rfl

end BroadcastQuery.Form
