/-!
# Character classes of YAML

* `isSpaceOrTab` and `isLineBreak` separate words and lines; `endsWord` says whether a word ends
  before some characters.
* `isWordChar` is a character of an anchor, a handle or a directive, `isUriChar` one of a tag.
* `isAllowed` is a character that may stand in a text at all, `isVisible` one that a text shows
  without an escape.
* `unifyLineBreaks` replaces the spellings of a line break that are not kept apart.
-/

namespace CommandTree

namespace Yaml

/-- Whether a character separates words on a line. -/
def isSpaceOrTab (c : Char) : Bool :=
  c == ' ' || c == '\t'

/-- Whether a character ends a line: a line feed, or the line or paragraph separator.  The other
spellings of a line break have been replaced by line feeds. -/
def isLineBreak (c : Char) : Bool :=
  c == '\n' || c == '\u2028' || c == '\u2029'

/-- Whether a word ends before the given characters. -/
def endsWord : List Char → Bool
  | [] => true
  | c :: _ => isSpaceOrTab c || isLineBreak c

/-- Whether a character may stand in an anchor, a tag handle or the name of a directive. -/
def isWordChar (c : Char) : Bool :=
  c.isAlphanum || c == '_' || c == '-'

/-- Whether a character may stand in a tag.  Between angle brackets a tag may also hold commas and
square brackets. -/
def isUriChar (verbatim : Bool) (c : Char) : Bool :=
  isWordChar c || ";/?:@&=+$.%!~*'()".toList.contains c || (verbatim && ",[]".toList.contains c)

/-- Whether a character may stand in a text. -/
def isAllowed (c : Char) : Bool :=
  let n := c.toNat
  n == 0x9 || n == 0xA || n == 0xD || (0x20 ≤ n && n ≤ 0x7E) || n == 0x85 ||
    (0xA0 ≤ n && n ≤ 0xFFFD) || 0x10000 ≤ n

/-- Whether a character is written as it is.  The line feed is; the byte order mark is not. -/
def isVisible (c : Char) : Bool :=
  let n := c.toNat
  n == 0xA || (0x20 ≤ n && n ≤ 0x7E) || (0xA0 ≤ n && n ≤ 0xFFFD && n != 0xFEFF) || 0x10000 ≤ n

/-- Whether a list of characters starts with three equal ones that mark the border of a document,
followed by the end of a word. -/
def startsWithMarker (mark : Char) : List Char → Bool
  | a :: b :: c :: rest => a == mark && b == mark && c == mark && endsWord rest
  | _ => false

/-- Whether a list of characters starts with a mark that opens or closes a document. -/
def startsWithDocumentMark (chars : List Char) : Bool :=
  startsWithMarker '-' chars || startsWithMarker '.' chars

/-- Replaces every carriage return, alone or before a line feed, and every next-line control by a
line feed. -/
def unifyLineBreaks : List Char → List Char
  | '\r' :: '\n' :: rest => '\n' :: unifyLineBreaks rest
  | '\r' :: rest => '\n' :: unifyLineBreaks rest
  | '\x85' :: rest => '\n' :: unifyLineBreaks rest
  | c :: rest => c :: unifyLineBreaks rest
  | [] => []

end Yaml

end CommandTree
