import CommandTree.Text.LetterCase
import CommandTree.Text.Numeric

/-!
# Identifiers of generated functions

Every node of a command tree becomes a function of the generated program, and every option a
parameter of one.  Their names come from free text, so the text is brought into the form of an
identifier first: capitals open a new word, words are joined by underscores, everything that is
neither a letter nor a number becomes an underscore, and the result avoids the words that the
program needs for itself.

* `snakeCase` splits words at capitals and hyphens.
* `identifierOf` is the identifier of a text.
* `claimIdentifier` picks the first variant of an identifier that is not taken yet.
-/

namespace CommandTree

/-! ### Words and characters -/

/-- The lower-case form of a text in which every capital, except at the front, opens a new word.
Words are separated by underscores, and hyphens count as separators as well. -/
def snakeCase (text : String) : String :=
  let words := match text.toList with
    | [] => []
    | first :: rest =>
      lowercase first ++ rest.flatMap fun c =>
        if isUppercase c then '_' :: lowercase c else lowercase c
  String.ofList (words.map fun c => if c = '-' then '_' else c)

/-- Whether a character may stand in an identifier. -/
def isIdentifierChar (c : Char) : Bool :=
  isAlphanumeric c || c == '_'

/-! ### Reserved words -/

/-- Words that no identifier may be: the keywords of the generated language, and the names that
the fixed part of a generated program defines or uses. -/
def reservedWords : List String := [
  "and", "as", "assert", "async", "await", "break", "class", "continue", "def", "del", "elif",
  "else", "except", "false", "finally", "for", "from", "global", "if", "import", "in", "is",
  "lambda", "none", "nonlocal", "not", "or", "pass", "raise", "return", "true", "try", "while",
  "with", "yield", "click", "logging", "ctx", "set_context_obj", "get_logger"]

/-- The identifier of a text: its snake case with every other character replaced by an underscore,
opened by an underscore if it would start with a digit or be empty, and closed by one if it would
be a reserved word. -/
def identifierOf (text : String) : String :=
  let chars := (snakeCase text).toList.map fun c => if isIdentifierChar c then c else '_'
  match chars with
  | [] => "_"
  | first :: _ =>
    let name := String.ofList chars
    -- no reserved word starts with a digit, so one repair is enough
    if first.isDigit then "_" ++ name
    else if reservedWords.contains name then name ++ "_"
    else name

/-! ### Unique identifiers -/

/-- The variants of an identifier, in the order in which they are tried: the text itself, then the
text with the numbers from 2 on. -/
def identifierVariant (base : String) : Nat → String
  | 0 => base
  | n + 1 => base ++ "_" ++ toString (n + 2)

/-- The first variant from number `n` on that is not taken, after at most `tries` taken ones. -/
def freeVariant (taken : List String) (base : String) : (tries n : Nat) → String
  | 0, n => identifierVariant base n
  | tries + 1, n =>
    if taken.contains (identifierVariant base n) then freeVariant taken base tries (n + 1)
    else identifierVariant base n

/-- The first variant of `base` that is not taken.  As the variants differ from each other, one of
the first `taken.length + 1` is free, and no number beyond that is tried. -/
def claimIdentifier (taken : List String) (base : String) : String :=
  freeVariant taken base taken.length 0

end CommandTree
