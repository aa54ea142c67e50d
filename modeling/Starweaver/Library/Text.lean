import Mathlib.Data.List.DropRight

namespace Starweaver.Library.Text

/-- The characters with the Unicode property White_Space. -/
def isWhitespace (c : Char) : Bool :=
  let n := c.toNat
  (9 ≤ n && n ≤ 13) || n == 32 || n == 0x85 || n == 0xA0 || n == 0x1680 || (0x2000 ≤ n && n ≤ 0x200A) ||
    n == 0x2028 || n == 0x2029 || n == 0x202F || n == 0x205F || n == 0x3000

def trimChars (text : List Char) : List Char :=
  ((text.dropWhile isWhitespace).reverse.dropWhile isWhitespace).reverse

def trim (text : String) : String := String.ofList (trimChars text.toList)

theorem trimChars_eq (text : List Char) : trimChars text = (text.dropWhile isWhitespace).rdropWhile isWhitespace := rfl

/-- Blanks at the end are dropped without laying blanks bare at the start. -/
theorem dropWhile_trimChars (text : List Char) : (trimChars text).dropWhile isWhitespace = trimChars text := by
  rw [List.dropWhile_eq_self_iff]
  intro hlength
  have hbegins : trimChars text <+: text.dropWhile isWhitespace := List.rdropWhile_prefix isWhitespace _
  have hlong : 0 < (text.dropWhile isWhitespace).length := lt_of_lt_of_le hlength hbegins.length_le
  rw [hbegins.getElem hlength]
  exact List.dropWhile_get_zero_not isWhitespace text hlong

theorem trimChars_trimChars (text : List Char) : trimChars (trimChars text) = trimChars text := by
  rw [trimChars_eq (trimChars text), dropWhile_trimChars, trimChars_eq text]
  exact List.rdropWhile_idempotent isWhitespace _

theorem trim_trim (text : String) : trim (trim text) = trim text := by
  simp [trim, trimChars_trimChars]

example : trim " a b\n" = "a b" := by decide

end Starweaver.Library.Text
