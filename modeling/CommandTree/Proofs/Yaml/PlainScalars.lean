import CommandTree.Yaml.Printer
import CommandTree.Yaml.Scalar

/-!
# Reading plain scalars

A plain scalar is read back as it is written, and ends where the writer ends it: before the colon
behind a key, or at the end of a line.

* `Below` says what may follow the lines of a value.
* `readPlain_append` : the characters of a plain scalar are read as they are, whatever follows.
* `readPlain_colon` and `readPlain_newline` : where a plain scalar ends.
-/

namespace CommandTree

namespace Yaml

/-! ### Characters -/

/-- Whether a token can start with a character. -/
def startsToken (c : Char) : Bool :=
  !isSpaceOrTab c && !isLineBreak c && c != '#' && c != '\ufeff'

/-- Of the characters that separate words only the space is written as it is. -/
theorem eq_space_of_isVisible {c : Char} (hvisible : isVisible c = true)
    (h : isSpaceOrTab c = true) : c = ' ' := by
  obtain rfl | rfl : c = ' ' ∨ c = '\t' := by simpa [isSpaceOrTab] using h
  · rfl
  · exact absurd hvisible (by decide)

theorem isSpaceOrTab_eq_false {c : Char} (hvisible : isVisible c = true) (h : c ≠ ' ') :
    isSpaceOrTab c = false :=
  Bool.eq_false_iff.2 fun hc => h (eq_space_of_isVisible hvisible hc)

theorem isSpaceOrTab_of_isLineBreak {c : Char} (h : isLineBreak c = true) :
    isSpaceOrTab c = false := by
  obtain (rfl | rfl) | rfl : (c = '\n' ∨ c = '\u2028') ∨ c = '\u2029' := by
    simpa [isLineBreak] using h
  all_goals rfl

/-- A reader that takes one space at a time takes the margin of a line. -/
theorem read_margin {α : Type} {read : Nat → List Char → α}
    (hspace : ∀ column rest, read column (' ' :: rest) = read (column + 1) rest)
    (column width : Nat) (rest : List Char) :
    read column (margin width ++ rest) = read (column + width) rest := by
  induction width generalizing column with
  | zero => rfl
  | succ width ih =>
    rw [margin, List.replicate_succ, List.cons_append, hspace, Nat.add_comm width,
      ← Nat.add_assoc]
    exact ih (column + 1)

/-! ### What follows a value -/

/-- What follows the lines of a value inside a collection at a column: nothing, or a line whose
first token is not further to the right. -/
inductive Below (indent : Int) : List Char → Prop
  | nil : Below indent []
  | line {column : Nat} {c : Char} {rest : List Char} (hcolumn : (column : Int) ≤ indent)
      (hstart : startsToken c = true) : Below indent (margin column ++ c :: rest)

theorem Below.mono {indent greater : Int} {more : List Char} (h : Below indent more)
    (hle : indent ≤ greater) : Below greater more := by
  cases h with
  | nil => exact .nil
  | line hcolumn hstart => exact .line (Int.le_trans hcolumn hle) hstart

/-- The place of the first character of a line that is not a space. -/
def lineCursor (line : Nat) (chars : List Char) : Cursor :=
  ⟨chars.dropWhile (· == ' '), line, (chars.takeWhile (· == ' ')).length⟩

theorem lineCursor_margin (line column : Nat) {c : Char} (hc : c ≠ ' ') (rest : List Char) :
    lineCursor line (margin column ++ c :: rest) = ⟨c :: rest, line, column⟩ := by
  have hspaces : ∀ x ∈ margin column, (x == ' ') = true := by simp [margin]
  rw [lineCursor, List.dropWhile_append_of_pos hspaces, List.takeWhile_append_of_pos hspaces]
  simp [hc, margin]

theorem ne_space_of_startsToken {c : Char} (h : startsToken c = true) : c ≠ ' ' := by
  rintro rfl
  exact absurd h (by decide)

/-! ### Folding -/

@[simp] theorem Gap.fold_none (text : List Char) : Gap.none.fold text = text := rfl

@[simp] theorem Gap.fold_space (spaces text : List Char) :
    (Gap.space spaces).fold text = spaces ++ text := rfl

/-! ### Plain scalars -/

/-- What a plain scalar can hold. -/
theorem fitsPlain_spec {chars : List Char} (h : fitsPlain chars = true) :
    (∀ c ∈ chars, isVisible c = true ∧ isLineBreak c = false) ∧
      startsWithIndicator chars = false ∧ hasWordMark chars = false ∧ chars.head? ≠ some ' ' ∧
      chars.getLast? ≠ some ' ' := by
  simp only [fitsPlain, isShowable, Bool.and_eq_true, Bool.not_eq_true', List.all_eq_true,
    List.any_eq_false, bne_iff_ne, Bool.not_eq_true] at h
  obtain ⟨⟨⟨⟨⟨⟨hvisible, -⟩, hbreak⟩, hindicator⟩, hmarks⟩, hhead⟩, hlast⟩ := h
  exact ⟨fun c hc => ⟨hvisible c hc, hbreak c hc⟩, hindicator, hmarks, hhead, hlast⟩

section Plain

variable {indent : Int} {text rest : List Char} {gap : Gap} {line column : Nat} {c : Char}

theorem readPlain_space :
    readPlain false indent text gap line column (' ' :: rest) =
      readPlain false indent text (gap.addSpace ' ') line (column + 1) rest := by
  simp [readPlain, isSpaceOrTab]

theorem readPlain_break (hc : isLineBreak c = true) :
    readPlain false indent text gap line column (c :: rest) =
      readPlain false indent text (gap.addBreak c) (line + 1) 0 rest := by
  simp [readPlain, isSpaceOrTab_of_isLineBreak hc, hc]

/-- A character of a word is read as it is, unless the word ends before it. -/
theorem readPlain_char (hspace : isSpaceOrTab c = false) (hbreak : isLineBreak c = false)
    (hgap : gap.isGap = true → indent < column ∧ c ≠ '#')
    (hmark : column = 0 → startsWithDocumentMark (c :: rest) = false)
    (hcolon : c = ':' → endsWord rest = false) :
    readPlain false indent text gap line column (c :: rest) =
      readPlain false indent (c :: gap.fold text) .none line (column + 1) rest := by
  have hend :
      (gap.isGap && ((!false && decide ((column : Int) ≤ indent)) || c == '#')) = false := by
    cases hg : gap.isGap with
    | false => rfl
    | true =>
      obtain ⟨hcolumn, hnumber⟩ := hgap hg
      simp [hcolumn, hnumber]
  have hdocument : (column == 0 && startsWithDocumentMark (c :: rest)) = false := by
    simpa using hmark
  have hword : (c == ':' && endsWord rest) = false := by simpa using hcolon
  simp only [readPlain, hspace, hbreak, hend, hdocument, hword, Bool.false_and, Bool.or_self,
    Bool.false_eq_true, if_false]

theorem readPlain_stop (hstart : startsToken c = true) (hgap : gap.isGap = true)
    (hcolumn : (column : Int) ≤ indent) :
    readPlain false indent text gap line column (c :: rest) =
      some ⟨String.ofList text.reverse, gap.isMultiline, ⟨c :: rest, line, column⟩⟩ := by
  simp only [startsToken, Bool.and_eq_true, Bool.not_eq_true'] at hstart
  rw [readPlain]
  simp [hstart, hgap, hcolumn]

theorem readPlain_margin (first : Option Char) (more : List Char) (width : Nat) :
    readPlain false indent text (.lines first more) line column (margin width ++ rest) =
      readPlain false indent text (.lines first more) line (column + width) rest :=
  read_margin (fun _ _ => readPlain_space) column width rest

/-- After the end of its line a plain scalar ends, if what follows does not belong to it. -/
theorem readPlain_newline {more : List Char} (h : Below indent more) :
    readPlain false indent text .none line column ('\n' :: more) =
      some ⟨String.ofList text.reverse, true, lineCursor (line + 1) more⟩ := by
  rw [readPlain_break rfl, Gap.addBreak]
  cases h with
  | nil => rfl
  | line hcolumn hstart =>
    rw [readPlain_margin, Nat.zero_add, readPlain_stop hstart rfl hcolumn,
      lineCursor_margin _ _ (ne_space_of_startsToken hstart)]
    rfl

/-- A plain scalar ends before a colon that ends a word. -/
theorem readPlain_colon (hcolumn : 0 < column) (hend : endsWord rest = true) :
    readPlain false indent text .none line column (':' :: rest) =
      some ⟨String.ofList text.reverse, false, ⟨':' :: rest, line, column⟩⟩ := by
  have hzero : (column == 0) = false := by simpa using Nat.ne_of_gt hcolumn
  have hspace : isSpaceOrTab ':' = false := rfl
  have hbreak : isLineBreak ':' = false := rfl
  rw [readPlain]
  simp [hspace, hbreak, hzero, hend, Gap.isGap, Gap.isMultiline]

/-- What lies before the rest of the text of a plain scalar, at a column beyond its collection:
nothing, or spaces before a word that does not look like a comment. -/
inductive BeforeWord (indent : Int) (column : Nat) : Gap → List Char → Prop
  | none {chars : List Char} (hcolumn : indent ≤ column) : BeforeWord indent column .none chars
  | space (spaces : List Char) {c : Char} {rest : List Char} (hcolumn : indent < column)
      (hc : c ≠ '#') : BeforeWord indent column (.space spaces) (c :: rest)

theorem endsWord_append {tail : List Char} (h : rest ≠ []) :
    endsWord (rest ++ tail) = endsWord rest := by
  cases rest with
  | nil => exact absurd rfl h
  | cons c rest => rfl

/-- The characters of a plain scalar are read as they are, whatever follows. -/
theorem readPlain_append {chars tail : List Char} (hgap : BeforeWord indent column gap chars)
    (hvisible : ∀ c ∈ chars, isVisible c = true ∧ isLineBreak c = false)
    (hmarks : hasWordMark chars = false) (hlast : chars.getLast? ≠ some ' ')
    (hstart : column = 0 → startsWithDocumentMark (chars ++ tail) = false) :
    readPlain false indent text gap line column (chars ++ tail) =
      readPlain false indent (chars.reverse ++ gap.fold text) .none line (column + chars.length)
        tail := by
  induction chars generalizing text gap column with
  | nil =>
    cases hgap
    rfl
  | cons c rest ih =>
    have hlength : column + (c :: rest).length = column + 1 + rest.length := by
      simp only [List.length_cons]
      omega
    obtain ⟨⟨hc, hbreak⟩, hrest⟩ := List.forall_mem_cons.1 hvisible
    simp only [hasWordMark, Bool.or_eq_false_iff] at hmarks
    obtain ⟨⟨hcolon, hnumber⟩, hmarks⟩ := hmarks
    have hlast' : rest.getLast? ≠ some ' ' := by
      cases rest with
      | nil => simp
      | cons next rest => simpa using hlast
    by_cases hspace : c = ' '
    · subst hspace
      -- a space is kept until the next word starts
      obtain ⟨next, rest, rfl⟩ : ∃ next more, rest = next :: more := by
        cases rest with
        | nil => simp at hlast
        | cons next more => exact ⟨next, more, rfl⟩
      have hnext : next ≠ '#' := by
        rintro rfl
        simp [isSpaceOrTab] at hnumber
      have hcolumn : indent < (column + 1 : Nat) := by
        cases hgap <;> push_cast <;> omega
      rw [List.cons_append, readPlain_space, hlength]
      cases hgap with
      | none =>
        rw [Gap.addSpace, ih (.space _ hcolumn hnext) hrest hmarks hlast' (by simp)]
        simp
      | space spaces =>
        rw [Gap.addSpace, ih (.space _ hcolumn hnext) hrest hmarks hlast' (by simp)]
        simp
    · have hcolumn : indent ≤ (column + 1 : Nat) := by
        cases hgap <;> push_cast <;> omega
      have hword : c = ':' → endsWord (rest ++ tail) = false := by
        rintro rfl
        have hend : endsWord rest = false := by simpa using hcolon
        rwa [endsWord_append]
        rintro rfl
        cases hend
      have hgap' : gap.isGap = true → indent < column ∧ c ≠ '#' := by
        cases hgap with
        | none => simp [Gap.isGap]
        | space _ hcolumn hc => exact fun _ => ⟨hcolumn, hc⟩
      rw [List.cons_append] at hstart ⊢
      rw [readPlain_char (isSpaceOrTab_eq_false hc hspace) hbreak hgap' hstart hword,
        ih (.none hcolumn) hrest hmarks hlast' (by simp), hlength]
      simp

end Plain

end Yaml

end CommandTree
