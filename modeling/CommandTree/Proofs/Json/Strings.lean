import CommandTree.Json.Printer
import CommandTree.Json.Reader

/-!
# Strings in JSON texts

* `Json.readString_quoteChars` : a string is read back as it was written, whatever its characters
  are.
-/

namespace CommandTree

namespace Json

variable {done rest : List Char} {c : Char}

/-- An escape letter is read as the character it stands for. -/
theorem readString_letter {letter : Char} (hletter : letter ≠ 'u')
    (h : escapedChar? letter = some c) :
    readString done ('\\' :: letter :: rest) = readString (c :: done) rest := by
  rw [readString.eq_6 done letter rest hletter, h]

/-- A character that needs no escape is read as it is. -/
theorem readString_plain (hquote : c ≠ '"') (hslash : c ≠ '\\') (hcontrol : ¬ c.toNat < 0x20) :
    readString done (c :: rest) = readString (c :: done) rest := by
  rw [readString.eq_7 done c rest hquote (fun h => absurd h hslash) (fun _ h => absurd h hslash)
    (fun _ _ h => absurd h hslash), if_neg hcontrol]

theorem hexQuad?_hexDigit : ∀ n < 0x20,
    hexQuad? '0' '0' (hexDigit (n / 16)) (hexDigit (n % 16)) = some n := by
  decide

/-- A control character is read from its number. -/
theorem readString_control (hcontrol : c.toNat < 0x20) :
    readString done ('\\' :: 'u' :: '0' :: '0' :: hexDigit (c.toNat / 16) ::
      hexDigit (c.toNat % 16) :: rest) = readString (c :: done) rest := by
  have hlow : ¬ (0xDC00 ≤ c.toNat ∧ c.toNat ≤ 0xDFFF) := by omega
  have hhigh : c.toNat < 0xD800 ∨ 0xDBFF < c.toNat := by omega
  rw [readString.eq_4, hexQuad?_hexDigit c.toNat hcontrol]
  simp only [if_neg hlow, if_pos hhigh, Char.ofNat_toNat]

/-- Every character is read as it was written. -/
theorem readString_escapeChar (c : Char) (done rest : List Char) :
    readString done (escapeChar c ++ rest) = readString (c :: done) rest := by
  unfold escapeChar
  split
  · exact readString_letter (by decide) rfl
  · exact readString_letter (by decide) rfl
  · exact readString_letter (by decide) rfl
  · exact readString_letter (by decide) rfl
  · exact readString_letter (by decide) rfl
  · exact readString_letter (by decide) rfl
  · exact readString_letter (by decide) rfl
  · rename_i hquote hslash _ _ _ _ _
    by_cases hcontrol : c.toNat < 0x20
    · rw [if_pos hcontrol]
      exact readString_control hcontrol
    · rw [if_neg hcontrol]
      exact readString_plain hquote hslash hcontrol

/-- **A string is read back as it was written.** -/
theorem readString_quoteChars (text : String) (rest : List Char) :
    readString [] (text.toList.flatMap escapeChar ++ '"' :: rest) = .ok (text, rest) := by
  have hread : ∀ chars done : List Char, readString done (chars.flatMap escapeChar ++ '"' :: rest) =
      .ok (String.ofList (done.reverse ++ chars), rest) := by
    intro chars
    induction chars with
    | nil =>
      intro done
      rw [List.flatMap_nil, List.nil_append, readString.eq_2, List.append_nil]
    | cons c chars ih =>
      intro done
      rw [List.flatMap_cons, List.append_assoc, readString_escapeChar, ih]
      simp
  rw [hread, List.reverse_nil, List.nil_append, String.ofList_toList]

end Json

end CommandTree
