import BroadcastQuery.Text.Basic

/-!
Blank characters, trimming and words. A character is blank when it has the Unicode property
White_Space, so zero-width and other format characters are not.
-/
namespace BroadcastQuery

/-- The characters with the Unicode property White_Space. -/
def isBlank (c : Char) : Bool :=
  let n := c.toNat
  n == 0x20 || (0x09 ≤ n && n ≤ 0x0D) || n == 0x85 || n == 0xA0 || n == 0x1680 ||
    (0x2000 ≤ n && n ≤ 0x200A) || n == 0x2028 || n == 0x2029 || n == 0x202F || n == 0x205F ||
    n == 0x3000

theorem isBlank_of_isDigit {c : Char} (digit : c.isDigit = true) : isBlank c = false := by
  have bounds : 48 ≤ c.toNat ∧ c.toNat ≤ 57 := by
    simpa [Char.isDigit, UInt32.le_iff_toNat_le] using digit
  simp only [isBlank, Bool.or_eq_false_iff, Bool.and_eq_false_iff, beq_eq_false_iff_ne,
    decide_eq_false_iff_not]
  omega

namespace Text

def trimStart (t : Text) : Text := t.dropWhile isBlank

def trim (t : Text) : Text := (t.trimStart.reverse.dropWhile isBlank).reverse

/-- The maximal runs of characters that are not blank. -/
def words (t : Text) : List Text := (pieces isBlank t).filter (!·.isEmpty)

end Text
end BroadcastQuery
