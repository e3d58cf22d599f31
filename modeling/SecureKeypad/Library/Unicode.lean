import Mathlib

/-!
# Unicode Character Properties

The character properties the models in this project test.
-/

namespace Unicode

/-- General category `Cc`. -/
def isControl (c : Char) : Bool :=
  c.val ≤ 0x1F || (0x7F ≤ c.val && c.val ≤ 0x9F)

/-- The property `White_Space`. -/
def isWhiteSpace (c : Char) : Bool :=
  (0x09 ≤ c.val && c.val ≤ 0x0D) || c.val == 0x20 || c.val == 0x85 || c.val == 0xA0 ||
    c.val == 0x1680 || (0x2000 ≤ c.val && c.val ≤ 0x200A) || c.val == 0x2028 ||
    c.val == 0x2029 || c.val == 0x202F || c.val == 0x205F || c.val == 0x3000

/-- General category `Cf`. -/
def isFormat (c : Char) : Bool :=
  c.val == 0xAD || (0x600 ≤ c.val && c.val ≤ 0x605) || c.val == 0x61C || c.val == 0x6DD ||
    c.val == 0x70F || (0x890 ≤ c.val && c.val ≤ 0x891) || c.val == 0x8E2 || c.val == 0x180E ||
    (0x200B ≤ c.val && c.val ≤ 0x200F) || (0x202A ≤ c.val && c.val ≤ 0x202E) ||
    (0x2060 ≤ c.val && c.val ≤ 0x2064) || (0x2066 ≤ c.val && c.val ≤ 0x206F) ||
    c.val == 0xFEFF || (0xFFF9 ≤ c.val && c.val ≤ 0xFFFB) || c.val == 0x110BD ||
    c.val == 0x110CD || (0x13430 ≤ c.val && c.val ≤ 0x1343F) ||
    (0x1BCA0 ≤ c.val && c.val ≤ 0x1BCA3) || (0x1D173 ≤ c.val && c.val ≤ 0x1D17A) ||
    c.val == 0xE0001 || (0xE0020 ≤ c.val && c.val ≤ 0xE007F)

end Unicode
