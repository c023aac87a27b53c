/-!
# Blank characters
-/

namespace PagePrelude.Text

/-- Characters with Unicode's property White_Space. -/
def isSpace (c : Char) : Bool :=
  let n := c.toNat
  (9 ≤ n && n ≤ 13) || n == 0x20 || n == 0x85 || n == 0xA0 || n == 0x1680 ||
    (0x2000 ≤ n && n ≤ 0x200A) || n == 0x2028 || n == 0x2029 || n == 0x202F ||
    n == 0x205F || n == 0x3000

/-- Whether a text holds nothing but blank characters. -/
def isBlank (text : String) : Bool :=
  text.toList.all isSpace

/-- A list of characters without the blank ones at its end. -/
def trimEnd (chars : List Char) : List Char :=
  (chars.reverse.dropWhile isSpace).reverse

end PagePrelude.Text
