/-!
# Blank text

The property `White_Space` of the Unicode Character Database, and what it decides here: whether a
help text says anything, and where a drawing of a tree ends.

* `isBlank` is the property, `isBlankText` says that a text consists of such characters.
* `trimEndBlank` drops them from the end of a text.
-/

namespace CommandTree

/-- Whether a character is white space: the control characters from tab to carriage return, the
space, the next-line control, and the spaces and separators of general punctuation. -/
def isBlank (c : Char) : Bool :=
  let n := c.toNat
  (0x9 ≤ n && n ≤ 0xD) || n == 0x20 || n == 0x85 || n == 0xA0 || n == 0x1680 ||
    (0x2000 ≤ n && n ≤ 0x200A) || n == 0x2028 || n == 0x2029 || n == 0x202F || n == 0x205F ||
    n == 0x3000

/-- Whether a text has no character that can be seen. -/
def isBlankText (text : String) : Bool :=
  text.toList.all isBlank

/-- A text without the white space at its end. -/
def trimEndBlank (text : String) : String :=
  String.ofList (text.toList.reverse.dropWhile isBlank).reverse

end CommandTree
