import CommandTree.Click.Text
import CommandTree.Proofs.Schema.RoundTrip

/-!
# Reading string literals

A string literal opens with a double quote.  A backslash and the character after it stand for one
character, and the first other double quote ends the literal.  A literal stays on its line, so a
line feed or a carriage return cannot stand in it as it is, and neither can the NUL character.

* `Click.readChars` reads the characters after the opening quote, `Click.readLiteral` a literal.
* `Click.readChars_quotedChar` : one character that was written is read as itself, unless it is one
  of those that cannot stand in a literal and are not escaped.
* `Click.readLiteral_quote` : the literal of a text is read as that text, and nothing after it is
  touched, exactly if the text is without carriage returns and NUL characters.
-/

namespace CommandTree

namespace Click

/-! ### Reading -/

/-- The character that a backslash and another character stand for. -/
def escapedChar? : Char → Option Char
  | '"' => some '"'
  | '\\' => some '\\'
  | 'n' => some '\n'
  | 't' => some '\t'
  | _ => none

/-- The characters that cannot stand in a literal as they are. -/
def literalBreaks : List Char := ['\n', '\r', '\x00']

/-- Reads the characters of a literal up to its closing quote, and gives what follows the quote. -/
def readChars : List Char → Option (List Char × List Char)
  | [] => none
  | '"' :: rest => some ([], rest)
  | '\\' :: c :: rest => do
    let char ← escapedChar? c
    let (chars, rest) ← readChars rest
    return (char :: chars, rest)
  | c :: rest =>
    if c = '\\' ∨ c ∈ literalBreaks then none
    else do
      let (chars, rest) ← readChars rest
      return (c :: chars, rest)

/-- Reads a literal at the front of a text, and gives its value and what follows. -/
def readLiteral : List Char → Option (String × List Char)
  | '"' :: rest => do
    let (chars, rest) ← readChars rest
    return (String.ofList chars, rest)
  | _ => none

/-- Whether there is none of the characters that cannot stand in a literal and that are written as
they are. -/
def FitsLiteral (chars : List Char) : Prop :=
  ∀ c ∈ chars, c ≠ '\r' ∧ c ≠ '\x00'

instance (chars : List Char) : Decidable (FitsLiteral chars) :=
  List.decidableBAll _ chars

/-! ### What is written is read -/

/-- A character that is written as it is, is read as itself if it can stand in a literal. -/
theorem readChars_plain {c : Char} (hquote : c ≠ '"') (hbackslash : c ≠ '\\')
    (rest : List Char) : readChars (c :: rest) = if c ∈ literalBreaks then none else
      (readChars rest).map fun read => (c :: read.1, read.2) := by
  rw [readChars.eq_4 _ _ hquote (fun _ _ h => absurd h hbackslash)]
  simp only [hbackslash, false_or]
  split_ifs
  · rfl
  · cases readChars rest <;> rfl

/-- **One written character is read as itself**, unless it is one that a literal cannot hold. -/
theorem readChars_quotedChar (c : Char) (rest : List Char) :
    readChars (quotedChar c ++ rest) = if c = '\r' ∨ c = '\x00' then none else
      (readChars rest).map fun read => (c :: read.1, read.2) := by
  have hescaped : ∀ {c d : Char}, escapedChar? c = some d →
      readChars ('\\' :: c :: rest) = (readChars rest).map fun read => (d :: read.1, read.2) := by
    intro c d h
    rw [readChars, h]
    cases readChars rest <;> rfl
  unfold quotedChar
  split
  · exact hescaped rfl
  · exact hescaped rfl
  · exact hescaped rfl
  · exact hescaped rfl
  · rename_i hquote hbackslash hnewline _
    have hbreak : c ∈ literalBreaks ↔ c = '\r' ∨ c = '\x00' := by
      have hnewline : c ≠ '\n' := hnewline
      simp [literalBreaks, hnewline]
    rw [List.singleton_append, readChars_plain hquote hbackslash]
    simp only [hbreak]

/-- The characters of a literal are read up to its closing quote, unless there is one that a
literal cannot hold. -/
theorem readChars_flatMap (chars rest : List Char) :
    readChars (chars.flatMap quotedChar ++ '"' :: rest) =
      if FitsLiteral chars then some (chars, rest) else none := by
  induction chars with
  | nil => simp [readChars, FitsLiteral]
  | cons c chars ih =>
    rw [List.flatMap_cons, List.append_assoc, readChars_quotedChar, ih]
    by_cases hc : c = '\r' ∨ c = '\x00'
    · have hfits : ¬ FitsLiteral (c :: chars) := by
        intro h
        obtain ⟨hreturn, hnul⟩ := h c List.mem_cons_self
        exact hc.elim hreturn hnul
      rw [if_pos hc, if_neg hfits]
    · have hfits : FitsLiteral (c :: chars) ↔ FitsLiteral chars := by
        rw [FitsLiteral, List.forall_mem_cons]
        exact and_iff_right (not_or.1 hc)
      simp only [if_neg hc, hfits]
      split_ifs <;> rfl

/-- **The literal of a text is read as that text, whatever follows it, and what follows is left
alone; but a text with a carriage return or a NUL character has no literal that can be read.** -/
theorem readLiteral_quote (text : String) (rest : List Char) :
    readLiteral ((quote text).toList ++ rest) =
      if FitsLiteral text.toList then some (text, rest) else none := by
  have hquote : (quote text).toList ++ rest =
      '"' :: (text.toList.flatMap quotedChar ++ '"' :: rest) := by
    simp [quote]
  rw [hquote, readLiteral, readChars_flatMap]
  split_ifs
  · simp [String.ofList_toList]
  · rfl

/-- Escapes next to each other, at both ends, and before letters that could be escaped. -/
example : readLiteral (quote "\\\"n\\\n\t" ++ "\", \"x\"").toList =
    some ("\\\"n\\\n\t", "\", \"x\"".toList) := by decide +kernel

end Click

/-! ### A literal that cannot be read -/

/-- A command whose help has a carriage return. -/
def brokenHelp : Schema :=
  ⟨[.command ⟨"run", "a\rb", none, "False", []⟩]⟩

/-- The declaration of that command. -/
def brokenHelpDeclaration : Declaration :=
  ⟨.command, .root, "run",
    .ofList [("name", .text "run"), ("help", .text "a\rb"), ("hidden", .truth false)], []⟩

/-- The loader accepts a document with a help whose literal cannot be read. -/
theorem readLiteral_brokenHelp :
    (∃ text, Schema.ofText .json "schema.json" text = .ok brokenHelp) ∧
      brokenHelp.lower = .ok [brokenHelpDeclaration] ∧
      brokenHelpDeclaration.attributes.get? "help" = some (.text "a\rb") ∧
      Click.readLiteral (Click.literal (.text "a\rb")).toList = none := by
  have wellFormed : brokenHelp.WellFormed ∧ brokenHelp.toJson.depth ≤ 127 := by decide +kernel
  exact ⟨wellFormed.1.exists_text wellFormed.2 _, by decide +kernel, by decide +kernel,
    by decide +kernel⟩

end CommandTree
