/-!
# Positions in a text

A reader that stops knows how many bytes it has consumed; people look for a line and a column.
Lines are counted from one; the column is the number of bytes consumed on the line, so it is zero
directly after a line feed.

* `Position.after` is the position reached by consuming some bytes.
* `Position.offset?` goes back from a position to the byte it designates.
-/

namespace CommandTree

/-- A place in a text. -/
structure Position where
  /-- The number of the line, from one. -/
  line : Nat
  /-- The number of bytes consumed on that line. -/
  column : Nat
  deriving DecidableEq, Repr

namespace Position

/-- The byte that ends a line. -/
def lineFeed : UInt8 := 10

/-- The bytes of a text. -/
def bytes (text : String) : List UInt8 :=
  text.toUTF8.toList

/-- The position reached after consuming the given bytes. -/
def after (consumed : List UInt8) : Position :=
  ⟨consumed.count lineFeed + 1, (consumed.reverse.takeWhile (· != lineFeed)).length⟩

/-- The lines of a text, each with the line feed that ends it.  A text that ends in a line feed has
no empty last line. -/
def lines : List UInt8 → List (List UInt8)
  | [] => []
  | byte :: rest =>
    if byte = lineFeed then [byte] :: lines rest
    else match lines rest with
      | [] => [[byte]]
      | line :: more => (byte :: line) :: more

/-- The offset of the byte that a position designates: the length of the lines before it, and the
bytes consumed before the last one on its own line.  Positions beyond the text have none, and
neither has line zero. -/
def offset? (text : List UInt8) (position : Position) : Option Nat :=
  if position.line = 0 then none
  else
    let before := (lines text).take (position.line - 1)
    let start := before.foldr (fun line count => line.length + count) 0
    let offset := start + (position.column - 1)
    if offset ≤ text.length then some offset else none

end Position

end CommandTree
