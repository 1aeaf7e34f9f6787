/-!
# Source text

A program text is written line by line; the lines of a block are indented by one unit more than its
header.

* `SourceText` is a text that is being written, with the depth at which the next line stands.
* `SourceStep` is what can be written; `SourceText.write` and `SourceText.writeAll` write it.
-/

namespace CommandTree

/-- A text that is being written. -/
structure SourceText where
  /-- What a line is indented by for each level. -/
  unit : String
  /-- The number of levels around the next line. -/
  depth : Nat
  /-- The text so far. -/
  text : String
  deriving DecidableEq, Repr

/-- What can be written. -/
inductive SourceStep where
  /-- A line. -/
  | line (text : String)
  /-- A line without any characters. -/
  | blank
  /-- A line for each item. -/
  | each (items : List String)
  /-- The steps that are made for each item. -/
  | forEach (bodies : List (List SourceStep))
  /-- A line and, one level deeper, a body. -/
  | block (header : String) (body : List SourceStep)

namespace SourceText

/-- The empty text with a unit of indentation. -/
def withUnit (unit : String) : SourceText :=
  ⟨unit, 0, ""⟩

/-- The empty text that is indented by four spaces. -/
def fourSpaces : SourceText :=
  withUnit "    "

/-- Some units of indentation. -/
def indentation (unit : String) (depth : Nat) : String :=
  String.join (List.replicate depth unit)

/-- Writes a line. -/
def line (source : SourceText) (text : String) : SourceText :=
  { source with text := source.text ++ indentation source.unit source.depth ++ text ++ "\n" }

/-- Writes a line without any characters. -/
def blank (source : SourceText) : SourceText :=
  { source with text := source.text ++ "\n" }

/-- Goes one level deeper. -/
def enter (source : SourceText) : SourceText :=
  { source with depth := source.depth + 1 }

/-- Goes back one level. -/
def leave (source : SourceText) : SourceText :=
  { source with depth := source.depth - 1 }

mutual

/-- Writes one step. -/
def write (source : SourceText) : SourceStep → SourceText
  | .line text => source.line text
  | .blank => source.blank
  | .each items => items.foldl line source
  | .forEach bodies => writeEach source bodies
  | .block header body => (writeAll (source.line header).enter body).leave

/-- Writes steps one after the other. -/
def writeAll (source : SourceText) : List SourceStep → SourceText
  | [] => source
  | step :: rest => writeAll (write source step) rest

/-- Writes the steps for each item, one item after the other. -/
def writeEach (source : SourceText) : List (List SourceStep) → SourceText
  | [] => source
  | body :: rest => writeEach (writeAll source body) rest

end

end SourceText

end CommandTree
