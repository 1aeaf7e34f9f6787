import CommandTree.Yaml.Character
import CommandTree.Yaml.Token

/-!
# Anchors, tags and directives in a YAML text

These lexemes never cross the end of a line.  The functions read from after the mark that opens
them and return what follows.

* `readAnchor` reads the name of an anchor or alias.
* `readTag` reads a tag, `readDirective` a directive.

Tags are kept as bytes, because escapes in them spell single bytes.
-/

namespace CommandTree

namespace Yaml

/-- The bytes of some characters. -/
def bytesOf (chars : List Char) : List UInt8 :=
  (String.ofList chars).toUTF8.toList

/-! ### Anchors -/

/-- Whether a name ends before the given characters. -/
def endsName (chars : List Char) : Bool :=
  endsWord chars || match chars with
    | c :: _ => "?:,]\x7d%@`".toList.contains c
    | [] => true

/-- Reads a name, which must not be empty. -/
def readAnchor (chars : List Char) : Option (String × List Char) :=
  let name := chars.takeWhile isWordChar
  let rest := chars.dropWhile isWordChar
  if name.isEmpty || !endsName rest then none else some (String.ofList name, rest)

/-! ### Tags -/

/-- The value of a hexadecimal digit. -/
def nibble? (c : Char) : Option UInt8 :=
  let n := c.toNat
  if c.isDigit then some (n - '0'.toNat).toUInt8
  else if 'a' ≤ c ∧ c ≤ 'f' then some (n - 'a'.toNat + 10).toUInt8
  else if 'A' ≤ c ∧ c ≤ 'F' then some (n - 'A'.toNat + 10).toUInt8
  else none

/-- How many bytes follow a byte that opens a character. -/
def following? (byte : UInt8) : Option Nat :=
  if byte &&& 0x80 = 0 then some 0
  else if byte &&& 0xE0 = 0xC0 then some 1
  else if byte &&& 0xF0 = 0xE0 then some 2
  else if byte &&& 0xF8 = 0xF0 then some 3
  else none

/-- Reads the characters of a tag, of which `done` stand in reverse; `pending` bytes of a character
must be escaped next. -/
def readUri (verbatim : Bool) : (done : List UInt8) → (pending : Nat) → List Char →
    Option (List UInt8 × List Char)
  | done, pending, '%' :: a :: b :: rest => do
    let byte := (← nibble? a) * 16 + (← nibble? b)
    match pending with
    | 0 => readUri verbatim (byte :: done) (← following? byte) rest
    | pending + 1 =>
      if byte &&& 0xC0 = 0x80 then readUri verbatim (byte :: done) pending rest else none
  | done, 0, c :: rest =>
    if c = '%' then none
    else if isUriChar verbatim c then readUri verbatim (c.toNat.toUInt8 :: done) 0 rest
    else some (done.reverse, c :: rest)
  | done, 0, [] => some (done.reverse, [])
  | _, _ + 1, _ => none

/-- Reads characters of a tag, of which there must be at least one. -/
def readUri? (verbatim : Bool) (chars : List Char) : Option (List UInt8 × List Char) := do
  let (bytes, rest) ← readUri verbatim [] 0 chars
  if bytes.isEmpty then none else some (bytes, rest)

/-- A tag before its handle is looked up. -/
structure RawTag where
  /-- The handle, empty if the suffix is the whole tag. -/
  handle : List UInt8
  /-- What follows the handle. -/
  suffix : List UInt8

/-- Reads a tag from after its exclamation mark: `<…>` is a whole tag, `name!…` has a handle of its
own, and everything else belongs to the handle of a single mark.  A mark alone is a whole tag. -/
def readTagText (chars : List Char) : Option (RawTag × List Char) :=
  match chars with
  | '<' :: rest => do
    let (suffix, rest) ← readUri? true rest
    match rest with
    | '>' :: rest => some (⟨[], suffix⟩, rest)
    | _ => none
  | chars =>
    let name := chars.takeWhile isWordChar
    match chars.dropWhile isWordChar with
    | '!' :: rest => do
      let (suffix, rest) ← readUri? false rest
      return (⟨bytesOf ('!' :: name ++ ['!']), suffix⟩, rest)
    | rest => do
      let (more, rest) ← readUri false [] 0 rest
      let suffix := bytesOf name ++ more
      return (if suffix.isEmpty then ⟨[], bytesOf ['!']⟩ else ⟨bytesOf ['!'], suffix⟩, rest)

/-- Reads a tag, which a word must end behind, or a comma inside brackets. -/
def readTag (flow : Bool) (chars : List Char) : Option (RawTag × List Char) := do
  let (tag, rest) ← readTagText chars
  if endsWord rest || (flow && rest.head? == some ',') then some (tag, rest) else none

/-! ### Directives -/

/-- Reads a number of at most nine digits. -/
def readVersionNumber (chars : List Char) : Option (Nat × List Char) :=
  let digits := chars.takeWhile Char.isDigit
  let value := digits.foldl (fun n c => n * 10 + (c.toNat - '0'.toNat)) 0
  if digits.isEmpty || 9 < digits.length then none else some (value, chars.dropWhile Char.isDigit)

/-- Reads the handle that a directive declares: a mark alone, or a word between two marks. -/
def readHandle (chars : List Char) : Option (List UInt8 × List Char) :=
  match chars with
  | '!' :: rest =>
    let name := rest.takeWhile isWordChar
    match rest.dropWhile isWordChar with
    | '!' :: rest => some (bytesOf ('!' :: name ++ ['!']), rest)
    | rest => if name.isEmpty then some (bytesOf ['!'], rest) else none
  | _ => none

/-- Reads what a directive of the given name says. -/
def readDirectiveValue (name : String) (chars : List Char) : Option (Token × List Char) :=
  match name with
  | "YAML" => do
    let (major, rest) ← readVersionNumber (chars.dropWhile isSpaceOrTab)
    match rest with
    | '.' :: rest => do
      let (minor, rest) ← readVersionNumber rest
      return (.version major minor, rest)
    | _ => none
  | "TAG" => do
    let (handle, rest) ← readHandle (chars.dropWhile isSpaceOrTab)
    let separated := match rest with
      | c :: _ => isSpaceOrTab c
      | [] => false
    if !separated then none
    let (expansion, rest) ← readUri? true (rest.dropWhile isSpaceOrTab)
    if endsWord rest then return (.tagHandle handle expansion, rest) else none
  | _ => none

/-- Reads a directive from after its percent sign.  Only the two that the language defines are
known. -/
def readDirective (chars : List Char) : Option (Token × List Char) := do
  let name := chars.takeWhile isWordChar
  let rest := chars.dropWhile isWordChar
  if name.isEmpty || !endsWord rest then none
  readDirectiveValue (String.ofList name) rest

end Yaml

end CommandTree
