import CommandTree.Yaml.Character
import CommandTree.Yaml.Plain
import CommandTree.Yaml.Token

/-!
# Choosing how a text is written as a scalar

A text is written in the plainest style that is read back as the same text.  A text of several lines
is a literal block; a text that would be read as something else than a text stands between single
quotes, and so does a text that a plain scalar cannot hold.  What neither can hold stands between
double quotes.

* `fitsPlain`, `fitsSingleQuoted` and `fitsLiteral` say which texts the styles can hold.
* `styleOf` is the style of a text.
-/

namespace CommandTree

namespace Yaml

/-! ### What the styles can hold -/

/-- Whether a space stands directly before a line break. -/
def spaceBeforeBreak : List Char → Bool
  | a :: b :: rest => (a == ' ' && isLineBreak b) || spaceBeforeBreak (b :: rest)
  | _ => false

/-- Whether a space stands directly after a line break. -/
def spaceAfterBreak : List Char → Bool
  | a :: b :: rest => (isLineBreak a && b == ' ') || spaceAfterBreak (b :: rest)
  | _ => false

/-- Whether a colon ends a word, or a number sign starts one that is not the first. -/
def hasWordMark : List Char → Bool
  | c :: rest =>
    (c == ':' && endsWord rest) ||
      (match rest with
        | next :: _ => (isSpaceOrTab c || isLineBreak c) && next == '#'
        | [] => false) ||
      hasWordMark rest
  | [] => false

/-- Whether the first characters of a text have a meaning of their own. -/
def startsWithIndicator : List Char → Bool
  | '-' :: '-' :: '-' :: _ | '.' :: '.' :: '.' :: _ => true
  | c :: rest =>
    "#,[]\x7b\x7d&*!|>'\"%@`".toList.contains c || ("?:-".toList.contains c && endsWord rest)
  | [] => false

/-- Whether all characters of a text can be shown and no line ends with a space. -/
def isShowable (chars : List Char) : Bool :=
  chars.all isVisible && !spaceBeforeBreak chars

/-- Whether a plain scalar can hold a text. -/
def fitsPlain (chars : List Char) : Bool :=
  isShowable chars && !chars.any isLineBreak && !startsWithIndicator chars &&
    !hasWordMark chars && chars.head? != some ' ' && chars.getLast? != some ' '

/-- Whether a scalar between single quotes can hold a text. -/
def fitsSingleQuoted (chars : List Char) : Bool :=
  isShowable chars && !spaceAfterBreak chars

/-- Whether a literal block can hold a text. -/
def fitsLiteral (chars : List Char) : Bool :=
  isShowable chars && chars.getLast? != some ' '

/-! ### The style of a text -/

/-- Whether a plain scalar with this text would be read as the text. -/
def isReadAsText (text : String) : Bool :=
  match PlainValue.ofText text with
  | .text => !hasLeadingZero text.toList
  | _ => false

/-- The style in which a text is written. -/
def styleOf (text : String) : ScalarStyle :=
  let chars := text.toList
  -- several lines make a block; of a single line it matters how a plain scalar would be read
  if chars.contains '\n' then if fitsLiteral chars then .literal else .doubleQuoted
  else if isReadAsText text && fitsPlain chars then .plain
  else if fitsSingleQuoted chars then .singleQuoted
  else .doubleQuoted

end Yaml

end CommandTree
