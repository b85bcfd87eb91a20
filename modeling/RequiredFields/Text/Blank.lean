/-!
# Blanks

The white space of Unicode, and trimming it from the ends of a text. Everything the library trims
it trims by this class: the 25 characters with the property `White_Space`. A zero width space, a
word joiner and the information separators are not among them.
-/

namespace RequiredFields.Text

/-- The characters with the property `White_Space`. -/
def isBlank (c : Char) : Bool :=
  let n := c.toNat
  (0x9 ≤ n && n ≤ 0xD) || n == 0x20 || n == 0x85 || n == 0xA0 || n == 0x1680 ||
    (0x2000 ≤ n && n ≤ 0x200A) || n == 0x2028 || n == 0x2029 || n == 0x202F || n == 0x205F ||
    n == 0x3000

/-- The text without the blanks it starts with. -/
def trimStart (text : List Char) : List Char :=
  text.dropWhile isBlank

/-- The text without the blanks it ends with. -/
def trimEnd (text : List Char) : List Char :=
  (text.reverse.dropWhile isBlank).reverse

/-- The text without the blanks at either end. -/
def trim (text : List Char) : List Char :=
  trimEnd (trimStart text)

/-- Whether a text has no character but blanks. -/
def isBlankText (text : List Char) : Bool :=
  text.all isBlank

end RequiredFields.Text
