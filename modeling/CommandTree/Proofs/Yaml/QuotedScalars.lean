import CommandTree.Proofs.Yaml.PlainScalars
import Mathlib.Tactic.Ring

/-!
# Reading quoted scalars

A quoted scalar is read back as it is written, whatever follows the closing quote.

* `readQuoted_single` reads a text between single quotes, which may have several lines.
* `readQuoted_double` reads a text between double quotes, whatever its characters are.
-/

namespace CommandTree

namespace Yaml

/-! ### Places -/

/-- The place behind some characters that were written at a place. -/
def cursorAfter (rest : List Char) : (line column : Nat) → (written : List Char) → Cursor
  | line, column, [] => ⟨rest, line, column⟩
  | line, column, c :: written =>
    if isLineBreak c then cursorAfter rest (line + 1) 0 written
    else cursorAfter rest line (column + 1) written

section CursorAfter

variable {written : List Char} (rest : List Char) (line column : Nat)

theorem cursorAfter_append (more : List Char) :
    cursorAfter rest line column (written ++ more) =
      cursorAfter rest (cursorAfter [] line column written).line
        (cursorAfter [] line column written).column more := by
  induction written generalizing line column with
  | nil => rfl
  | cons c written ih =>
    rw [List.cons_append, cursorAfter, cursorAfter]
    split
    · exact ih _ _
    · exact ih _ _

theorem cursorAfter_of_forall (h : ∀ c ∈ written, isLineBreak c = false) :
    cursorAfter rest line column written = ⟨rest, line, column + written.length⟩ := by
  induction written generalizing column with
  | nil => rfl
  | cons c written ih =>
    obtain ⟨hc, hwritten⟩ := List.forall_mem_cons.1 h
    rw [cursorAfter, hc, if_neg Bool.false_ne_true, ih _ hwritten, List.length_cons,
      Nat.add_assoc, Nat.add_comm 1]

theorem cursorAfter_rest : (cursorAfter rest line column written).rest = rest := by
  induction written generalizing line column with
  | nil => rfl
  | cons c written ih =>
    rw [cursorAfter]
    split
    · exact ih _ _
    · exact ih _ _

theorem le_line_cursorAfter : line ≤ (cursorAfter rest line column written).line := by
  induction written generalizing line column with
  | nil => exact Nat.le_refl _
  | cons c written ih =>
    rw [cursorAfter]
    split
    · exact Nat.le_trans (Nat.le_succ _) (ih _ _)
    · exact ih _ _

theorem isLineBreak_margin {width : Nat} : ∀ c ∈ margin width, isLineBreak c = false := by
  intro c hc
  rw [List.eq_of_mem_replicate hc]
  rfl

end CursorAfter

/-! ### Single quotes -/

section Quoted

variable {single : Bool} {text rest : List Char} {gap : Gap} {line column : Nat} {c : Char}

theorem readQuoted_space :
    readQuoted single text gap line column (' ' :: rest) =
      readQuoted single text (gap.addSpace ' ') line (column + 1) rest := by
  have hspace : isSpaceOrTab ' ' = true := rfl
  rw [readQuoted.eq_def]
  simp only [hspace, if_true]

theorem readQuoted_break (hc : isLineBreak c = true) :
    readQuoted single text gap line column (c :: rest) =
      readQuoted single text (gap.addBreak c) (line + 1) 0 rest := by
  have hspace := isSpaceOrTab_of_isLineBreak hc
  rw [readQuoted.eq_def]
  simp only [hspace, hc, Bool.false_eq_true, if_false, if_true]

theorem readQuoted_margin (first : Option Char) (more : List Char) (width : Nat) :
    readQuoted single text (.lines first more) line column (margin width ++ rest) =
      readQuoted single text (.lines first more) line (column + width) rest :=
  read_margin (fun _ _ => readQuoted_space) column width rest

/-- A character that is no white space, away from the start of the line, is decided by its
quotes. -/
theorem readQuoted_single_char (hspace : isSpaceOrTab c = false) (hbreak : isLineBreak c = false)
    (hcolumn : 0 < column) :
    readQuoted true text gap line column (singleQuotedChar c ++ rest) =
      readQuoted true (c :: gap.fold text) .none line (column + (singleQuotedChar c).length)
        rest := by
  have hzero : (column == 0) = false := by simpa using Nat.ne_of_gt hcolumn
  unfold singleQuotedChar
  split
  · rename_i hquote
    subst hquote
    rw [List.cons_append, List.cons_append, readQuoted.eq_def]
    simp [hspace, hbreak, hzero]
  · rename_i hquote
    rw [List.cons_append, readQuoted.eq_def]
    simp [hspace, hbreak, hzero, hquote]

theorem readQuoted_single_end (hcolumn : 0 < column) (hrest : rest.head? ≠ some '\'') :
    readQuoted true text gap line column ('\'' :: rest) =
      some (String.ofList (gap.fold text).reverse, ⟨rest, line, column + 1⟩) := by
  have hzero : (column == 0) = false := by simpa using Nat.ne_of_gt hcolumn
  rw [readQuoted.eq_def]
  cases rest with
  | nil => simp [isSpaceOrTab, isLineBreak, hzero]
  | cons next rest =>
    have hnext : next ≠ '\'' := by simpa using hrest
    simp [isSpaceOrTab, isLineBreak, hzero, hnext]

theorem isLineBreak_singleQuotedChar (hbreak : isLineBreak c = false) :
    ∀ written ∈ singleQuotedChar c, isLineBreak written = false := by
  unfold singleQuotedChar
  split
  · simp [isLineBreak]
  · simpa using hbreak

/-- What lies before the rest of the text of a scalar between single quotes. -/
inductive BeforeQuoted (column : Nat) : Gap → List Char → Prop
  | none {chars : List Char} (hcolumn : 0 < column) : BeforeQuoted column .none chars
  | space (spaces : List Char) {chars : List Char} (hcolumn : 0 < column)
      (hchars : ∀ c ∈ chars.head?, isLineBreak c = false) :
      BeforeQuoted column (.space spaces) chars
  | lines {first : Char} (hfirst : first ≠ '\n') (more : List Char) {chars : List Char}
      (hchars : chars.head? ≠ some ' ') : BeforeQuoted column (.lines (some first) more) chars

/-- The first line break of a gap is kept unless it is a line feed. -/
theorem Gap.fold_lines {first : Char} (h : first ≠ '\n') (more text : List Char) :
    (Gap.lines (some first) more).fold text = more ++ first :: text := by
  cases more <;> simp [Gap.fold, h]

/-- What indents the first character of a line. -/
def lineMargin (indent : Nat) (lineStart : Bool) : List Char :=
  if lineStart then margin indent else []

/-- The rest of a text between single quotes, as it is written up to the closing quote. -/
def singleQuotedRest (indent : Nat) : (lineStart : Bool) → List Char → List Char
  | lineStart, [] => lineMargin indent lineStart ++ ['\'']
  | lineStart, c :: rest =>
    if isLineBreak c then c :: singleQuotedRest indent true rest
    else lineMargin indent lineStart ++ (singleQuotedChar c ++ singleQuotedRest indent false rest)

/-- The margin of a line is skipped before the text of the line goes on. -/
theorem BeforeQuoted.skip_margin {chars : List Char} (h : BeforeQuoted column gap chars)
    (single : Bool) (text : List Char) (line : Nat) {indent : Nat} (hindent : 0 < indent) :
    ∃ column', 0 < column' ∧
      (∀ rest, readQuoted single text gap line column (lineMargin indent gap.isMultiline ++ rest) =
        readQuoted single text gap line column' rest) ∧
      ∀ rest written, cursorAfter rest line column (lineMargin indent gap.isMultiline ++ written) =
        cursorAfter rest line column' written := by
  cases h with
  | none hcolumn => exact ⟨column, hcolumn, fun _ => rfl, fun _ _ => rfl⟩
  | space _ hcolumn => exact ⟨column, hcolumn, fun _ => rfl, fun _ _ => rfl⟩
  | @lines first hfirst more =>
    have hmargin : lineMargin indent (Gap.lines (some first) more).isMultiline = margin indent :=
      rfl
    refine ⟨column + indent, by omega, fun rest => ?_, fun rest written => ?_⟩
    · rw [hmargin, readQuoted_margin]
    · rw [hmargin, cursorAfter_append, cursorAfter_of_forall _ _ _ isLineBreak_margin, margin,
        List.length_replicate]

/-- A line break other than a line feed stays in the text when it is folded. -/
theorem BeforeQuoted.addBreak {chars : List Char} (h : BeforeQuoted column gap (c :: chars))
    (hbreak : isLineBreak c = true) (hfeed : c ≠ '\n') (hchars : chars.head? ≠ some ' ')
    (text : List Char) :
    BeforeQuoted 0 (gap.addBreak c) chars ∧ (gap.addBreak c).fold text = c :: gap.fold text ∧
      (gap.addBreak c).isMultiline = true := by
  cases h with
  | none => exact ⟨.lines hfeed [] hchars, Gap.fold_lines hfeed [] text, rfl⟩
  | space spaces _ hc => simp [hbreak] at hc
  | @lines first hfirst more =>
    refine ⟨.lines hfirst (c :: more) hchars, ?_, rfl⟩
    rw [Gap.addBreak, Gap.fold_lines hfirst, Gap.fold_lines hfirst]
    rfl

/-- A space stays in the text, since no line starts or ends with it. -/
theorem BeforeQuoted.addSpace {chars : List Char} (h : BeforeQuoted column gap (' ' :: chars))
    (hchars : ∀ c ∈ chars.head?, isLineBreak c = false) (text : List Char) :
    BeforeQuoted (column + 1) (gap.addSpace ' ') chars ∧
      (gap.addSpace ' ').fold text = ' ' :: gap.fold text ∧
      (gap.addSpace ' ').isMultiline = false ∧ gap.isMultiline = false := by
  cases h with
  | none => exact ⟨.space [' '] (Nat.succ_pos _) hchars, rfl, rfl, rfl⟩
  | space spaces => exact ⟨.space (' ' :: spaces) (Nat.succ_pos _) hchars, rfl, rfl, rfl⟩
  | lines _ _ hspace => simp at hspace

theorem spaceBeforeBreak_cons {chars : List Char} (h : spaceBeforeBreak (c :: chars) = false) :
    spaceBeforeBreak chars = false ∧ (c = ' ' → ∀ b ∈ chars.head?, isLineBreak b = false) := by
  cases chars with
  | nil => simp [spaceBeforeBreak]
  | cons next rest =>
    simp only [spaceBeforeBreak, Bool.or_eq_false_iff] at h
    refine ⟨h.2, ?_⟩
    rintro rfl
    simpa using h.1

theorem spaceAfterBreak_cons {chars : List Char} (h : spaceAfterBreak (c :: chars) = false) :
    spaceAfterBreak chars = false ∧ (isLineBreak c = true → chars.head? ≠ some ' ') := by
  cases chars with
  | nil => simp [spaceAfterBreak]
  | cons next rest =>
    simp only [spaceAfterBreak, Bool.or_eq_false_iff] at h
    refine ⟨h.2, fun hc => ?_⟩
    simpa [hc] using h.1

/-- The rest of a text between single quotes is read back as it is. -/
theorem readQuoted_single_append {indent : Nat} (hindent : 0 < indent) {chars tail : List Char}
    (hgap : BeforeQuoted column gap chars)
    (hvisible : ∀ c ∈ chars, isVisible c = true ∧ c ≠ '\n')
    (hbefore : spaceBeforeBreak chars = false) (hafter : spaceAfterBreak chars = false)
    (htail : tail.head? ≠ some '\'') :
    readQuoted true text gap line column
        (singleQuotedRest indent gap.isMultiline chars ++ tail) =
      some (String.ofList ((gap.fold text).reverse ++ chars),
        cursorAfter tail line column (singleQuotedRest indent gap.isMultiline chars)) := by
  induction chars generalizing text gap line column with
  | nil =>
    obtain ⟨column', hcolumn', hread, hcursor⟩ :=
      hgap.skip_margin true text line hindent
    rw [singleQuotedRest, List.append_assoc, hread, hcursor, List.singleton_append,
      readQuoted_single_end hcolumn' htail, List.append_nil]
    rfl
  | cons c rest ih =>
    obtain ⟨⟨hc, hfeed⟩, hrest⟩ := List.forall_mem_cons.1 hvisible
    obtain ⟨hbefore', hspaceBefore⟩ := spaceBeforeBreak_cons hbefore
    obtain ⟨hafter', hspaceAfter⟩ := spaceAfterBreak_cons hafter
    by_cases hbreak : isLineBreak c = true
    · -- a line break is no line feed, so folding keeps it
      rw [singleQuotedRest, if_pos hbreak, List.cons_append, readQuoted_break hbreak, cursorAfter,
        if_pos hbreak]
      obtain ⟨hgap, hfold, hlines⟩ := hgap.addBreak hbreak hfeed (hspaceAfter hbreak) text
      have hnext := @ih text _ (line + 1) _ hgap hrest hbefore' hafter'
      rw [hfold, hlines] at hnext
      rw [hnext]
      simp
    · rw [singleQuotedRest, if_neg hbreak]
      by_cases hspace : c = ' '
      · subst hspace
        obtain ⟨hgap, hfold, hline, hline'⟩ := hgap.addSpace (hspaceBefore rfl) text
        have hnext := @ih text _ line _ hgap hrest hbefore' hafter'
        rw [hfold, hline] at hnext
        have hmargin : lineMargin indent false = [] := rfl
        have hwritten : singleQuotedChar ' ' = [' '] := rfl
        rw [hline', hmargin, hwritten, List.nil_append, List.singleton_append, List.cons_append,
          readQuoted_space, hnext, cursorAfter, if_neg hbreak]
        simp
      · obtain ⟨column', hcolumn', hread, hcursor⟩ :=
          hgap.skip_margin true text line hindent
        have hwritten := isLineBreak_singleQuotedChar (by simpa using hbreak)
        have hbehind : 0 < column' + (singleQuotedChar c).length := by omega
        have hnext := @ih (c :: gap.fold text) _ line _ (.none hbehind) hrest hbefore' hafter'
        rw [List.append_assoc, hread, hcursor, List.append_assoc,
          readQuoted_single_char (isSpaceOrTab_eq_false hc hspace) (by simpa using hbreak) hcolumn',
          cursorAfter_append, cursorAfter_of_forall _ _ _ hwritten]
        have hline : Gap.none.isMultiline = false := rfl
        rw [hline, Gap.fold_none] at hnext
        rw [hnext]
        simp

theorem singleQuotedRest_eq (indent : Nat) (lineStart : Bool) (chars : List Char) :
    singleQuotedRest indent lineStart chars =
      writeLines indent singleQuotedChar lineStart chars ++
        (lineMargin indent (chars.getLast?.elim lineStart isLineBreak) ++ ['\'']) := by
  induction chars generalizing lineStart with
  | nil => rfl
  | cons c rest ih =>
    have hlast (b : Bool) : (c :: rest).getLast?.elim b isLineBreak =
        rest.getLast?.elim (isLineBreak c) isLineBreak := by
      cases rest with
      | nil => rfl
      | cons next rest => simp [List.getLast?_cons]
    rw [singleQuotedRest, writeLines, hlast]
    by_cases hbreak : isLineBreak c = true
    · rw [if_pos hbreak, if_pos hbreak, ih, hbreak, List.cons_append]
    · rw [if_neg hbreak, if_neg hbreak, ih, Bool.eq_false_iff.2 hbreak, lineMargin]
      simp

theorem writeSingleQuoted_eq (indent : Nat) (chars : List Char) :
    writeSingleQuoted indent chars = '\'' :: singleQuotedRest indent false chars := by
  have hlast : chars.getLast?.elim false isLineBreak = chars.getLast?.any isLineBreak := by
    cases chars.getLast? <;> rfl
  rw [singleQuotedRest_eq, hlast, writeSingleQuoted, lineMargin, List.append_assoc,
    List.cons_append]

/-- A text between single quotes is read back as it is. -/
theorem readQuoted_single {indent : Nat} (hindent : 0 < indent) {chars tail : List Char}
    (h : fitsSingleQuoted chars = true) (hfeed : '\n' ∉ chars) (hcolumn : 0 < column)
    (htail : tail.head? ≠ some '\'') :
    readQuoted true [] .none line column (singleQuotedRest indent false chars ++ tail) =
      some (String.ofList chars,
        cursorAfter tail line column (singleQuotedRest indent false chars)) := by
  simp only [fitsSingleQuoted, isShowable, Bool.and_eq_true, List.all_eq_true,
    Bool.not_eq_true'] at h
  obtain ⟨⟨hvisible, hbefore⟩, hafter⟩ := h
  refine readQuoted_single_append hindent (.none hcolumn) (fun c hc => ⟨hvisible c hc, ?_⟩) hbefore
    hafter htail
  rintro rfl
  exact hfeed hc

/-! ### Hexadecimal digits -/

theorem hexValue?_upperHexDigit : ∀ n < 16, hexValue? (upperHexDigit n) = some n := by
  decide

theorem hexDigits_succ (count n : Nat) :
    hexDigits (count + 1) n = upperHexDigit (n / Nat.pow 16 count % 16) :: hexDigits count n := by
  simp [hexDigits, List.range_succ]

/-- Digits are read as the last digits of the number they were written for. -/
theorem foldlM_hexDigits (count n value : Nat) :
    (hexDigits count n).foldlM (fun value digit => (hexValue? digit).map (value * 16 + ·)) value =
      some (value * 16 ^ count + n % 16 ^ count) := by
  induction count generalizing value with
  | zero => simp [hexDigits, Nat.mod_one]
  | succ count ih =>
    have hdigit : n / Nat.pow 16 count % 16 < 16 := Nat.mod_lt _ (by decide)
    have hsplit : n % 16 ^ (count + 1) = n % 16 ^ count + 16 ^ count * (n / 16 ^ count % 16) :=
      Nat.mod_pow_succ
    rw [hexDigits_succ, List.foldlM_cons, hexValue?_upperHexDigit _ hdigit]
    change List.foldlM _ (value * 16 + n / 16 ^ count % 16) _ = _
    rw [ih, hsplit, Nat.pow_succ]
    congr 1
    ring

theorem hexChar?_hexDigits {count : Nat} {c : Char} (h : c.toNat < 16 ^ count) :
    hexChar? (hexDigits count c.toNat) = some c := by
  have hnumber : hexNumber? (hexDigits count c.toNat) = some c.toNat := by
    rw [hexNumber?, foldlM_hexDigits, Nat.mod_eq_of_lt h, Nat.zero_mul, Nat.zero_add]
  have hvalid : c.toNat.isValidChar := c.valid
  simp only [hexChar?, hnumber, Option.bind_eq_bind, Option.bind_some, if_pos hvalid,
    Char.ofNat_toNat]

/-! ### Double quotes -/

/-- What a backslash and a letter are read as, away from the start of a line. -/
theorem readQuoted_letter {letter : Char} (hcolumn : 0 < column)
    (hbreak : isLineBreak letter = false) (h : escapedChar? letter = some c) :
    readQuoted false text gap line column ('\\' :: letter :: rest) =
      readQuoted false (c :: gap.fold text) .none line (column + 2) rest := by
  have hzero : (column == 0) = false := by simpa using Nat.ne_of_gt hcolumn
  have hslash : isSpaceOrTab '\\' = false ∧ isLineBreak '\\' = false := ⟨rfl, rfl⟩
  rw [readQuoted.eq_def]
  simp [hslash, hzero, hbreak, h]

/-- A character with a small number is read from two digits. -/
theorem readQuoted_twoDigits (hcolumn : 0 < column) (hc : c.toNat < 0x100) :
    readQuoted false text gap line column ('\\' :: 'x' :: (hexDigits 2 c.toNat ++ rest)) =
      readQuoted false (c :: gap.fold text) .none line (column + 4) rest := by
  have hzero : (column == 0) = false := by simpa using Nat.ne_of_gt hcolumn
  have hslash : isSpaceOrTab '\\' = false ∧ isLineBreak '\\' = false := ⟨rfl, rfl⟩
  have hletter : isLineBreak 'x' = false ∧ escapedChar? 'x' = none := ⟨rfl, rfl⟩
  have hread : hexChar? (hexDigits 2 c.toNat) = some c := hexChar?_hexDigits hc
  obtain ⟨a, b, hdigits⟩ : ∃ a b, hexDigits 2 c.toNat = [a, b] := ⟨_, _, rfl⟩
  rw [hdigits] at hread ⊢
  rw [readQuoted.eq_def]
  simp only [hslash, hzero, hletter, hread, Bool.false_and, Bool.false_eq_true, if_false,
    List.cons_append, List.nil_append, Char.reduceEq, ne_eq, not_true_eq_false]

/-- A character with a larger number is read from four digits. -/
theorem readQuoted_fourDigits (hcolumn : 0 < column) (hc : c.toNat < 0x10000) :
    readQuoted false text gap line column ('\\' :: 'u' :: (hexDigits 4 c.toNat ++ rest)) =
      readQuoted false (c :: gap.fold text) .none line (column + 6) rest := by
  have hzero : (column == 0) = false := by simpa using Nat.ne_of_gt hcolumn
  have hslash : isSpaceOrTab '\\' = false ∧ isLineBreak '\\' = false := ⟨rfl, rfl⟩
  have hletter : isLineBreak 'u' = false ∧ escapedChar? 'u' = none := ⟨rfl, rfl⟩
  have hread : hexChar? (hexDigits 4 c.toNat) = some c := hexChar?_hexDigits hc
  obtain ⟨x, y, z, w, hdigits⟩ : ∃ x y z w, hexDigits 4 c.toNat = [x, y, z, w] :=
    ⟨_, _, _, _, rfl⟩
  rw [hdigits] at hread ⊢
  rw [readQuoted.eq_def]
  simp only [hslash, hzero, hletter, hread, Bool.false_and, Bool.false_eq_true, if_false,
    List.cons_append, List.nil_append, Char.reduceEq, ne_eq, not_true_eq_false]

/-- A character that is no quote and no backslash is read as it is. -/
theorem readQuoted_double_char (hspace : isSpaceOrTab c = false) (hbreak : isLineBreak c = false)
    (hcolumn : 0 < column) (hquote : c ≠ '"') (hslash : c ≠ '\\') :
    readQuoted false text gap line column (c :: rest) =
      readQuoted false (c :: gap.fold text) .none line (column + 1) rest := by
  have hzero : (column == 0) = false := by simpa using Nat.ne_of_gt hcolumn
  rw [readQuoted.eq_def]
  simp [hspace, hbreak, hzero, hquote, hslash]

theorem readQuoted_double_end (hcolumn : 0 < column) :
    readQuoted false text gap line column ('"' :: rest) =
      some (String.ofList (gap.fold text).reverse, ⟨rest, line, column + 1⟩) := by
  have hzero : (column == 0) = false := by simpa using Nat.ne_of_gt hcolumn
  have hquote : isSpaceOrTab '"' = false ∧ isLineBreak '"' = false := ⟨rfl, rfl⟩
  rw [readQuoted.eq_def]
  simp [hquote, hzero]

/-- Every character with a number of more than sixteen bits is written as it is. -/
theorem toNat_lt_of_not_isVisible (h : ¬ isVisible c = true) : c.toNat < 0x10000 := by
  simp only [isVisible, Bool.or_eq_true, decide_eq_true_eq] at h
  omega

/-- A character between double quotes is read as it was written. -/
theorem readQuoted_doubleQuotedChar (hspace : c ≠ ' ') (hcolumn : 0 < column) :
    readQuoted false text gap line column (doubleQuotedChar c ++ rest) =
      readQuoted false (c :: gap.fold text) .none line (column + (doubleQuotedChar c).length)
        rest := by
  unfold doubleQuotedChar
  split
  iterate 14 exact readQuoted_letter hcolumn rfl rfl
  rename_i hfeed _ _ _ _ hquote hslash _ hline hparagraph
  split
  · rename_i hvisible
    have hbreak : isLineBreak c = false := by
      simp only [isLineBreak, Bool.or_eq_false_iff, beq_eq_false_iff_ne]
      exact ⟨⟨hfeed, hline⟩, hparagraph⟩
    exact readQuoted_double_char (isSpaceOrTab_eq_false hvisible hspace) hbreak hcolumn hquote
      hslash
  · rename_i hvisible
    split
    · rename_i hsmall
      exact readQuoted_twoDigits hcolumn hsmall
    · have hsmall := toNat_lt_of_not_isVisible hvisible
      rw [if_pos hsmall]
      exact readQuoted_fourDigits hcolumn hsmall

/-- A text between double quotes is read back as it is, from any place in it on. -/
theorem readQuoted_double_append {chars : List Char} (hcolumn : 0 < column)
    (hgap : gap.isMultiline = false) :
    readQuoted false text gap line column (chars.flatMap doubleQuotedChar ++ '"' :: rest) =
      some (String.ofList ((gap.fold text).reverse ++ chars),
        ⟨rest, line, column + ((chars.flatMap doubleQuotedChar).length + 1)⟩) := by
  induction chars generalizing text gap column with
  | nil =>
    rw [List.flatMap_nil, List.nil_append, List.append_nil, readQuoted_double_end hcolumn]
    rfl
  | cons c chars ih =>
    rw [List.flatMap_cons, List.append_assoc, List.length_append]
    by_cases hspace : c = ' '
    · subst hspace
      have hfold : (gap.addSpace ' ').fold text = ' ' :: gap.fold text ∧
          (gap.addSpace ' ').isMultiline = false := by
        cases gap with
        | none => exact ⟨rfl, rfl⟩
        | space spaces => exact ⟨rfl, rfl⟩
        | lines => cases hgap
      have hwritten : doubleQuotedChar ' ' = [' '] := rfl
      rw [hwritten, List.singleton_append, readQuoted_space,
        ih (by omega : 0 < column + 1) hfold.2, hfold.1]
      simp only [List.reverse_cons, List.append_assoc, List.singleton_append, List.length_singleton,
        Nat.add_assoc]
    · rw [readQuoted_doubleQuotedChar hspace hcolumn, ih (by omega) rfl, Gap.fold_none]
      simp only [List.reverse_cons, List.append_assoc, List.singleton_append, Nat.add_assoc]

/-- A text between double quotes is read back as it is. -/
theorem readQuoted_double (chars : List Char) (hcolumn : 0 < column) :
    readQuoted false [] .none line column (chars.flatMap doubleQuotedChar ++ '"' :: rest) =
      some (String.ofList chars,
        ⟨rest, line, column + ((chars.flatMap doubleQuotedChar).length + 1)⟩) :=
  readQuoted_double_append hcolumn rfl

end Quoted

end Yaml

end CommandTree
