import CommandTree.Proofs.Json.RoundTrip
import CommandTree.Yaml.Lexer
import CommandTree.Yaml.Printer

/-!
# Characters that are written

Every character of the text of a value may stand in a text, and none of them is a line break in a
spelling that the reader replaces.

* `Yaml.all_writeValue` : only visible characters are written.
* `Yaml.ofChars?_of_visible` : the tokens of such a text are found in the text as it is.
-/

namespace CommandTree

namespace Yaml

/-! ### Visible texts -/

theorem isAllowed_of_isVisible {c : Char} (h : isVisible c = true) : isAllowed c = true := by
  simp only [isVisible, Bool.or_eq_true, Bool.and_eq_true, decide_eq_true_eq, beq_iff_eq] at h
  simp only [isAllowed, Bool.or_eq_true, Bool.and_eq_true, decide_eq_true_eq, beq_iff_eq]
  omega

theorem unifyLineBreaks_of_visible {chars : List Char} (h : chars.all isVisible = true) :
    unifyLineBreaks chars = chars := by
  induction chars with
  | nil => rfl
  | cons c chars ih =>
    rw [List.all_cons, Bool.and_eq_true] at h
    have hreturn : c ≠ '\r' := by
      rintro rfl
      exact absurd h.1 (by decide)
    have hnext : c ≠ '\x85' := by
      rintro rfl
      exact absurd h.1 (by decide)
    rw [unifyLineBreaks.eq_def]
    split
    · rename_i heq
      cases heq
      exact absurd rfl hreturn
    · rename_i heq
      cases heq
      exact absurd rfl hreturn
    · rename_i heq
      cases heq
      exact absurd rfl hnext
    · rename_i heq
      cases heq
      rw [ih h.2]
    · rename_i heq
      cases heq

/-- The tokens of a text of visible characters are found in the text as it is. -/
theorem ofChars?_of_visible {chars : List Char} (h : chars.all isVisible = true) :
    Token.ofChars? chars = Lexer.run (chars.length + 1) (Lexer.start chars) := by
  have hallowed : chars.all isAllowed = true := by
    rw [List.all_eq_true] at h ⊢
    exact fun c hc => isAllowed_of_isVisible (h c hc)
  rw [Token.ofChars?, if_pos hallowed, unifyLineBreaks_of_visible h]

/-! ### Styles -/

/-- Whether a style can hold a text on the lines that it needs. -/
def Holds (text : String) : ScalarStyle → Prop
  | .plain => isReadAsText text = true ∧ fitsPlain text.toList = true
  | .singleQuoted => fitsSingleQuoted text.toList = true ∧ '\n' ∉ text.toList
  | .doubleQuoted => True
  | .literal => fitsLiteral text.toList = true ∧ '\n' ∈ text.toList
  | .folded => False

/-- The style of a text can hold the text. -/
theorem holds_styleOf (text : String) : Holds text (styleOf text) := by
  unfold styleOf
  dsimp only
  split
  · rename_i hfeed
    split
    · rename_i hfits
      exact ⟨hfits, by simpa using hfeed⟩
    · trivial
  · rename_i hfeed
    split
    · rename_i hplain
      exact by simpa [Holds] using hplain
    · split
      · rename_i hfits
        exact ⟨hfits, by simpa using hfeed⟩
      · trivial

/-- The empty text is not written plainly. -/
theorem ne_nil_of_isReadAsText {text : String} (h : isReadAsText text = true) :
    text.toList ≠ [] := by
  intro hnil
  obtain rfl : text = "" := String.toList_inj.1 hnil
  exact absurd h (by decide)

/-! ### Scalars -/

section Scalars

variable {chars : List Char} {c : Char}

theorem all_margin (column : Nat) : (margin column).all isVisible = true := by
  simp [margin, isVisible]

theorem all_writeLines {write : Char → List Char} (hwrite : ∀ c, isVisible c = true →
      (write c).all isVisible = true) (indent : Nat) (lineStart : Bool)
    (h : chars.all isVisible = true) :
    (writeLines indent write lineStart chars).all isVisible = true := by
  induction chars generalizing lineStart with
  | nil => rfl
  | cons c chars ih =>
    rw [List.all_cons, Bool.and_eq_true] at h
    rw [writeLines]
    split
    · simp [h.1, ih true h.2]
    · split <;> simp [all_margin, hwrite c h.1, ih false h.2]

theorem all_singleQuotedChar (h : isVisible c = true) :
    (singleQuotedChar c).all isVisible = true := by
  unfold singleQuotedChar
  split
  · decide
  · simpa using h

theorem all_writeSingleQuoted (indent : Nat) (h : chars.all isVisible = true) :
    (writeSingleQuoted indent chars).all isVisible = true := by
  have hquote : isVisible '\'' = true := by decide
  have hlines := all_writeLines (fun _ => all_singleQuotedChar) indent false h
  unfold writeSingleQuoted
  split <;> simp [hquote, hlines, all_margin]

theorem all_upperHexDigit : ∀ n < 16, isVisible (upperHexDigit n) = true := by
  decide

theorem all_hexDigits (count n : Nat) : (hexDigits count n).all isVisible = true := by
  rw [hexDigits, List.all_map, List.all_eq_true]
  exact fun _ _ => all_upperHexDigit _ (Nat.mod_lt _ (by decide))

theorem all_doubleQuotedChar (c : Char) : (doubleQuotedChar c).all isVisible = true := by
  have hletters : isVisible '\\' = true ∧ isVisible 'x' = true ∧ isVisible 'u' = true ∧
      isVisible 'U' = true := by decide
  unfold doubleQuotedChar
  split
  iterate 14 decide
  split
  · simpa using ‹_›
  · split
    · simp [hletters, all_hexDigits]
    · split <;> simp [hletters, all_hexDigits]

theorem all_writeDoubleQuoted (chars : List Char) :
    (writeDoubleQuoted chars).all isVisible = true := by
  have hquote : isVisible '"' = true := by decide
  have hbody : (chars.flatMap doubleQuotedChar).all isVisible = true := by
    rw [List.all_flatMap]
    exact List.all_eq_true.2 fun c _ => all_doubleQuotedChar c
  simp only [writeDoubleQuoted, List.cons_append, List.all_cons, List.all_append, List.all_nil,
    hquote, hbody, Bool.and_self]

theorem all_chompingSign (chars : List Char) : (chompingSign chars).all isVisible = true := by
  unfold chompingSign
  split
  · decide
  · split
    · decide
    · split
      · decide
      · split <;> decide

theorem all_writeLiteral (indent : Nat) (h : chars.all isVisible = true) :
    (writeLiteral indent chars).all isVisible = true := by
  have hmarks : isVisible '|' = true ∧ isVisible '2' = true ∧ isVisible '\n' = true := by decide
  have hlines : (writeLines indent (fun c => [c]) true chars).all isVisible = true :=
    all_writeLines (by simp) indent true h
  unfold writeLiteral
  split <;> simp [hmarks, hlines, all_chompingSign, -List.all_eq_true]

theorem all_of_isShowable (h : isShowable chars = true) : chars.all isVisible = true := by
  rw [isShowable, Bool.and_eq_true] at h
  exact h.1

theorem all_writeScalar (indent : Nat) (text : String) :
    (writeScalar indent text).all isVisible = true := by
  have hholds := holds_styleOf text
  unfold writeScalar
  cases hstyle : styleOf text with
  | plain =>
    rw [hstyle, Holds, fitsPlain] at hholds
    simp only [Bool.and_eq_true] at hholds
    exact all_of_isShowable hholds.2.1.1.1.1.1
  | singleQuoted =>
    rw [hstyle, Holds, fitsSingleQuoted, Bool.and_eq_true] at hholds
    exact all_writeSingleQuoted indent (all_of_isShowable hholds.1.1)
  | doubleQuoted => exact all_writeDoubleQuoted _
  | literal =>
    rw [hstyle, Holds, fitsLiteral, Bool.and_eq_true] at hholds
    exact all_writeLiteral indent (all_of_isShowable hholds.1.1)
  | folded =>
    rw [hstyle] at hholds
    exact hholds.elim

theorem all_writeScalarLine (indent : Nat) (text : String) :
    (writeScalarLine indent text).all isVisible = true := by
  rw [writeScalarLine, List.all_append, all_writeScalar, Bool.true_and]
  split
  · rfl
  · decide

end Scalars

/-! ### Values -/

section Values

theorem all_writeKey (column : Nat) (key : String) (value : Json) :
    (writeKey column key value).all isVisible = true := by
  have hmarks : isVisible ':' = true ∧ isVisible '?' = true ∧ isVisible ' ' = true ∧
      isVisible '\n' = true := by decide
  unfold writeKey
  split
  · rw [List.all_append, all_writeScalar, List.all_cons, hmarks.1]
    split <;> simp only [List.all_cons, List.all_nil, hmarks, all_margin, Bool.and_self]
  · simp only [List.cons_append, List.all_cons, List.all_append, List.all_nil, hmarks,
      all_writeScalarLine, all_margin, Bool.and_self]

theorem all_writeItems {items : List Json}
    (h : ∀ item ∈ items, ∀ column, (writeValue column item).all isVisible = true) (column : Nat) :
    (writeItems column items).all isVisible = true := by
  have hmarks : isVisible '-' = true ∧ isVisible ' ' = true := by decide
  induction items with
  | nil => rfl
  | cons item rest ih =>
    obtain ⟨hitem, hrest⟩ := List.forall_mem_cons.1 h
    simp only [writeItems, List.all_append, List.all_cons, all_margin, hmarks, hitem, ih hrest,
      Bool.and_self]

theorem all_writeMembers {members : List (String × Json)}
    (h : ∀ member ∈ members, ∀ column, (writeValue column member.2).all isVisible = true)
    (column : Nat) : (writeMembers column members).all isVisible = true := by
  induction members with
  | nil => rfl
  | cons member rest ih =>
    obtain ⟨hmember, hrest⟩ := List.forall_mem_cons.1 h
    obtain ⟨key, value⟩ := member
    have hvalue := hmember (valueColumn column key value)
    simp only [writeMembers, List.all_append, all_margin, all_writeKey, hvalue, ih hrest,
      Bool.and_self]

/-- Only visible characters are written. -/
theorem all_writeValue {value : Json} (h : value.Readable) (column : Nat) :
    (writeValue column value).all isVisible = true := by
  induction h generalizing column with
  | null => rw [writeValue]; decide
  | bool value => cases value <;> rw [writeValue] <;> decide
  | string text => rw [writeValue]; exact all_writeScalarLine column text
  | @array items _ ih =>
    cases items with
    | nil => rw [writeValue]; decide
    | cons item rest =>
      obtain ⟨hitem, hrest⟩ := List.forall_mem_cons.1 ih
      have hmarks : isVisible '-' = true ∧ isVisible ' ' = true := by decide
      simp only [writeValue, List.cons_append, List.all_append, List.all_cons, hmarks, hitem,
        all_writeItems hrest, Bool.and_self]
  | @object members _ _ ih =>
    cases members with
    | nil => rw [writeValue]; decide
    | cons member rest =>
      obtain ⟨hmember, hrest⟩ := List.forall_mem_cons.1 ih
      obtain ⟨key, value⟩ := member
      have hvalue := hmember (valueColumn column key value)
      simp only [writeValue, List.all_append, all_writeKey, hvalue, all_writeMembers hrest,
        Bool.and_self]

end Values

end Yaml

end CommandTree
