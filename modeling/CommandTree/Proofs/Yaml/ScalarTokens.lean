import CommandTree.Proofs.Yaml.BlockScalars
import CommandTree.Proofs.Yaml.QuotedScalars
import CommandTree.Proofs.Yaml.Tokens
import CommandTree.Proofs.Yaml.Visible

/-!
# Scalars that are read back as tokens

* `reads_scalarLine` : a scalar is read back as a token, up to the end of its last line.
* `reads_simpleKey` : a key that has its colon on the same line is read back with the colon.
-/

namespace CommandTree

namespace Yaml

namespace Lexer

section Scalars

variable {progress : Progress} {rest : List Char} {line column : Nat} {keyAllowed : Bool}

/-! ### Scalars -/

/-- The state behind a scalar. -/
def behind (progress : Progress) (key : Option KeyStart) (style : ScalarStyle) (text : String)
    (cursor : Cursor) (keyAllowed : Bool) : Lexer :=
  outside (progress.push [.scalar style text]) key cursor.rest cursor.line cursor.column keyAllowed

theorem step?_singleQuoted {text : String} {cursor : Cursor} (hcolumn : progress.indent ≤ column)
    (hread : readQuoted true [] .none line (column + 1) rest = some (text, cursor)) :
    (outside progress none ('\'' :: rest) line column keyAllowed).step? =
      some (behind progress (if keyAllowed then some (progress.keyStart line column) else none)
        .singleQuoted text cursor false) := by
  rw [step?_outside (by decide) hcolumn, lexeme_singleQuote, quotedScalar, markKeyStart_outside,
    Option.bind_eq_bind, Option.bind_some]
  change Option.bind (readQuoted true [] .none line (column + 1) rest) _ = _
  rw [hread]
  rfl

theorem step?_doubleQuoted {text : String} {cursor : Cursor} (hcolumn : progress.indent ≤ column)
    (hread : readQuoted false [] .none line (column + 1) rest = some (text, cursor)) :
    (outside progress none ('"' :: rest) line column keyAllowed).step? =
      some (behind progress (if keyAllowed then some (progress.keyStart line column) else none)
        .doubleQuoted text cursor false) := by
  rw [step?_outside (by decide) hcolumn, lexeme_doubleQuote, quotedScalar, markKeyStart_outside,
    Option.bind_eq_bind, Option.bind_some]
  change Option.bind (readQuoted false [] .none line (column + 1) rest) _ = _
  rw [hread]
  rfl

theorem step?_literal {text : String} {cursor : Cursor} (hcolumn : progress.indent ≤ column)
    (hread : readBlock true progress.indent line rest = some (text, cursor)) :
    (outside progress none ('|' :: rest) line column keyAllowed).step? =
      some (behind progress none .literal text cursor true) := by
  rw [step?_outside (by decide) hcolumn, lexeme_literal _ _ rfl, blockScalar]
  change Option.bind (readBlock true progress.indent line rest) _ = _
  rw [hread]
  rfl

theorem startsToken_of_fitsPlain {c : Char} {chars : List Char}
    (h : fitsPlain (c :: chars) = true) : startsToken c = true := by
  obtain ⟨hvisible, hindicator, -, hhead, -⟩ := fitsPlain_spec h
  obtain ⟨hc, hbreak⟩ := hvisible c List.mem_cons_self
  have hspace := isSpaceOrTab_eq_false hc (by simpa using hhead)
  have hnumber : c ≠ '#' := (startsWithIndicator_cons hindicator).1 '#' (by decide)
  have hmark : c ≠ '\ufeff' := by
    rintro rfl
    exact absurd hc (by decide)
  simp [startsToken, hspace, hbreak, hnumber, hmark]

/-- A plain scalar is read as far as `readPlain` reads it. -/
theorem step?_plain {chars tail : List Char} {scalar : PlainScalar}
    (hcolumn : progress.indent ≤ column) (hfits : fitsPlain chars = true) (hchars : chars ≠ [])
    (hmark : column = 0 → startsWithDocumentMark (chars ++ tail) = false)
    (hread : readPlain false progress.indent [] .none line column (chars ++ tail) = some scalar) :
    (outside progress none (chars ++ tail) line column keyAllowed).step? =
      some (behind progress (if keyAllowed then some (progress.keyStart line column) else none)
        .plain scalar.text scalar.cursor scalar.endsLine) := by
  obtain ⟨c, chars, rfl⟩ := List.exists_cons_of_ne_nil hchars
  obtain ⟨hvisible, hindicator, -, hhead, -⟩ := fitsPlain_spec hfits
  obtain ⟨hc, hbreak⟩ := hvisible c List.mem_cons_self
  have hspace := isSpaceOrTab_eq_false hc (by simpa using hhead)
  rw [List.cons_append] at hmark hread ⊢
  rw [step?_outside (startsToken_of_fitsPlain hfits) hcolumn,
    lexeme_plain _ rfl hindicator hspace hbreak hmark, plainScalar, markKeyStart_outside,
    Option.bind_eq_bind, Option.bind_some]
  change Option.bind (readPlain false progress.indent [] .none line column (c :: (chars ++ tail)))
    _ = _
  rw [hread]
  rfl

/-- Behind the line breaks that a scalar has taken the lexer goes on at the start of a line. -/
theorem advance_behind_lineCursor {style : ScalarStyle} {text : String} {more : List Char}
    {line' : Nat} (hcolumn : progress.indent < column) (hline : line < line') :
    (behind progress (if keyAllowed then some (progress.keyStart line column) else none) style text
        (lineCursor line' more) true).advance =
      (outside (progress.push [.scalar style text]) none more line' 0 true).advance := by
  rw [behind, advance_lineCursor, advance_keyStart hcolumn hline]

/-- Before a line break it goes on behind that. -/
theorem advance_behind_newline {style : ScalarStyle} {text : String} {more : List Char}
    {cursor : Cursor} (hcolumn : progress.indent < column) (hrest : cursor.rest = '\n' :: more)
    (hline : line ≤ cursor.line) :
    (behind progress (if keyAllowed then some (progress.keyStart line column) else none) style text
        cursor false).advance =
      (outside (progress.push [.scalar style text]) none more (cursor.line + 1) 0
        true).advance := by
  rw [behind, hrest, advance_newline, advance_keyStart hcolumn (Nat.lt_succ_of_le hline)]

/-- A plain scalar at the end of its line. -/
theorem reads_plainLine {chars more : List Char} (hindent : 0 ≤ progress.indent)
    (hcolumn : progress.indent < column) (hfits : fitsPlain chars = true) (hchars : chars ≠ [])
    (hmore : Below progress.indent more) :
    (outside progress none (chars ++ '\n' :: more) line column keyAllowed).Reads
      (outside (progress.push [.scalar .plain (String.ofList chars)]) none more (line + 1) 0
        true) := by
  obtain ⟨hvisible, -, hmarks, -, hlast⟩ := fitsPlain_spec hfits
  have hzero : column = 0 → startsWithDocumentMark (chars ++ '\n' :: more) = false := by
    intro h
    omega
  have hread : readPlain false progress.indent [] .none line column (chars ++ '\n' :: more) =
      some ⟨String.ofList chars, true, lineCursor (line + 1) more⟩ := by
    rw [readPlain_append (.none (Int.le_of_lt hcolumn)) hvisible hmarks hlast hzero,
      readPlain_newline hmore]
    simp
  exact .of_step? (step?_plain (Int.le_of_lt hcolumn) hfits hchars hzero hread)
    (advance_behind_lineCursor hcolumn (Nat.lt_succ_self line)) (by simp [outside]; omega)

end Scalars

/-! ### Scalars of any style -/

/-- A token starts with the first character of a scalar. -/
theorem exists_writeScalar_eq_cons (indent : Nat) (text : String) :
    ∃ c rest, writeScalar indent text = c :: rest ∧ startsToken c = true := by
  have hholds := holds_styleOf text
  rw [writeScalar]
  cases hstyle : styleOf text with
  | plain =>
    rw [hstyle] at hholds
    obtain ⟨c, rest, htext⟩ := List.exists_cons_of_ne_nil (ne_nil_of_isReadAsText hholds.1)
    exact ⟨c, rest, htext, startsToken_of_fitsPlain (htext ▸ hholds.2)⟩
  | singleQuoted => exact ⟨_, _, rfl, by decide⟩
  | doubleQuoted => exact ⟨_, _, rfl, by decide⟩
  | literal => exact ⟨_, _, rfl, by decide⟩
  | folded =>
    rw [hstyle] at hholds
    exact hholds.elim

section ScalarLines

variable {progress : Progress} {line column parent : Nat} {keyAllowed : Bool}
  {more : List Char}

/-- A scalar between single quotes, up to the end of its last line. -/
theorem reads_singleQuotedLine {chars : List Char} (hcolumn : progress.indent < column)
    (hfits : fitsSingleQuoted chars = true) (hfeed : '\n' ∉ chars) :
    ∃ line', (outside progress none (writeSingleQuoted (parent + 2) chars ++ '\n' :: more) line
        column keyAllowed).Reads
      (outside (progress.push [.scalar .singleQuoted (String.ofList chars)]) none more line' 0
        true) := by
  have hread := @readQuoted_single line (column + 1) (parent + 2) (Nat.succ_pos _) chars
    ('\n' :: more) hfits hfeed (Nat.succ_pos _) (by simp)
  rw [writeSingleQuoted_eq, List.cons_append]
  exact ⟨_, .of_step? (step?_singleQuoted (Int.le_of_lt hcolumn) hread)
    (advance_behind_newline hcolumn (cursorAfter_rest _ _ _) (le_line_cursorAfter _ _ _))
    (by simp [outside]; omega)⟩

/-- A scalar between double quotes, up to the end of its line. -/
theorem reads_doubleQuotedLine (chars : List Char) (hcolumn : progress.indent < column) :
    (outside progress none (writeDoubleQuoted chars ++ '\n' :: more) line column
        keyAllowed).Reads
      (outside (progress.push [.scalar .doubleQuoted (String.ofList chars)]) none more (line + 1) 0
        true) := by
  have hread := @readQuoted_double ('\n' :: more) line (column + 1) chars (Nat.succ_pos _)
  rw [writeDoubleQuoted, List.cons_append, List.cons_append, List.append_assoc,
    List.singleton_append]
  exact .of_step? (step?_doubleQuoted (Int.le_of_lt hcolumn) hread)
    (advance_behind_newline hcolumn rfl (Nat.le_refl _)) (by simp [outside]; omega)

/-- A literal block, up to the end of its last line. -/
theorem reads_literalLines {chars : List Char} (hindent : progress.indent = parent)
    (hcolumn : progress.indent < column) (hfits : fitsLiteral chars = true) (hchars : chars ≠ [])
    (hmore : Below progress.indent more) :
    ∃ line', (outside progress none (writeLiteral (parent + 2) chars ++
          ((if chars.getLast?.any isLineBreak then [] else ['\n']) ++ more)) line column
        keyAllowed).Reads
      (outside (progress.push [.scalar .literal (String.ofList chars)]) none more line' 0
        true) := by
  rw [hindent] at hmore
  obtain ⟨line', hline, hread⟩ := readBlock_writeLiteral hfits hchars hmore line
  rw [← hindent] at hread
  rw [writeLiteral_eq, List.cons_append]
  exact ⟨line', .of_step? (step?_literal (Int.le_of_lt hcolumn) hread) advance_lineCursor
    (by simp [outside]; omega)⟩

/-- **A scalar is read back up to the end of its last line.** -/
theorem reads_scalarLine (text : String) (hindent : progress.indent = parent)
    (hcolumn : parent < column) (hmore : Below progress.indent more) :
    ∃ line', (outside progress none (writeScalarLine (parent + 2) text ++ more) line column
        keyAllowed).Reads
      (outside (progress.push [.scalar (styleOf text) text]) none more line' 0 true) := by
  have hindent' : 0 ≤ progress.indent := by omega
  have hcolumn' : progress.indent < column := by omega
  have hholds := holds_styleOf text
  rw [writeScalarLine, writeScalar]
  cases hstyle : styleOf text with
  | plain =>
    rw [hstyle] at hholds
    obtain ⟨htext, hfits⟩ := hholds
    have hread := @reads_plainLine _ line _ keyAllowed _ _ hindent' hcolumn' hfits
      (ne_nil_of_isReadAsText htext) hmore
    rw [String.ofList_toList] at hread
    exact ⟨line + 1, by simpa using hread⟩
  | singleQuoted =>
    rw [hstyle] at hholds
    obtain ⟨line', hread⟩ := @reads_singleQuotedLine _ line _ parent keyAllowed more _ hcolumn'
      hholds.1 hholds.2
    rw [String.ofList_toList] at hread
    exact ⟨line', by simpa using hread⟩
  | doubleQuoted =>
    have hread := @reads_doubleQuotedLine _ line _ keyAllowed more text.toList hcolumn'
    rw [String.ofList_toList] at hread
    exact ⟨line + 1, by simpa using hread⟩
  | literal =>
    rw [hstyle] at hholds
    have hchars : text.toList ≠ [] := List.ne_nil_of_mem hholds.2
    obtain ⟨line', hread⟩ := @reads_literalLines _ line _ parent keyAllowed more _ hindent hcolumn'
      hholds.1 hchars hmore
    rw [String.ofList_toList] at hread
    exact ⟨line', by simpa using hread⟩
  | folded =>
    rw [hstyle] at hholds
    exact hholds.elim

end ScalarLines

/-! ### Keys on one line -/

theorem length_ofList_le (chars : List Char) :
    chars.length ≤ (String.ofList chars).utf8ByteSize := by
  induction chars with
  | nil => simp
  | cons c chars ih =>
    have hc := c.utf8Size_pos
    rw [String.ofList_cons, String.utf8ByteSize_append, String.utf8ByteSize_singleton,
      List.length_cons]
    omega

/-- A key on one line is short and has no line breaks. -/
theorem isSimpleKey_spec {text : String} (h : isSimpleKey text = true) :
    text.toList.length ≤ 128 ∧ ∀ c ∈ text.toList, isLineBreak c = false := by
  simp only [isSimpleKey, Bool.and_eq_true, decide_eq_true_eq, Bool.not_eq_true',
    List.any_eq_false, Bool.or_eq_true, not_or, Bool.not_eq_true] at h
  have hlength := length_ofList_le text.toList
  rw [String.ofList_toList] at hlength
  exact ⟨by omega, fun c hc => (h.2 c hc).1.1⟩

theorem length_singleQuotedChar_le (c : Char) : (singleQuotedChar c).length ≤ 2 := by
  unfold singleQuotedChar
  split <;> simp

/-- A text without line breaks stays on its line between single quotes, and grows at most
twofold. -/
theorem singleQuotedRest_spec {chars : List Char} (h : ∀ c ∈ chars, isLineBreak c = false)
    (indent : Nat) :
    (singleQuotedRest indent false chars).length ≤ 2 * chars.length + 1 ∧
      ∀ c ∈ singleQuotedRest indent false chars, isLineBreak c = false := by
  induction chars with
  | nil => exact ⟨Nat.le_refl _, by simp [singleQuotedRest, lineMargin, isLineBreak]⟩
  | cons c chars ih =>
    obtain ⟨hc, hchars⟩ := List.forall_mem_cons.1 h
    obtain ⟨hlength, hbreaks⟩ := ih hchars
    have hwidth := length_singleQuotedChar_le c
    rw [singleQuotedRest, hc, if_neg Bool.false_ne_true, lineMargin, if_neg Bool.false_ne_true,
      List.nil_append, List.length_append, List.length_cons]
    refine ⟨by omega, fun written hwritten => ?_⟩
    obtain hwritten | hwritten := List.mem_append.1 hwritten
    · exact isLineBreak_singleQuotedChar hc written hwritten
    · exact hbreaks written hwritten

theorem length_doubleQuotedChar_le (c : Char) : (doubleQuotedChar c).length ≤ 6 := by
  unfold doubleQuotedChar
  split
  iterate 14 decide
  split
  · simp
  · rename_i hvisible
    rw [if_pos (toNat_lt_of_not_isVisible hvisible)]
    split <;> simp [hexDigits]

theorem length_flatMap_doubleQuotedChar_le (chars : List Char) :
    (chars.flatMap doubleQuotedChar).length ≤ 6 * chars.length := by
  induction chars with
  | nil => simp
  | cons c chars ih =>
    have hc := length_doubleQuotedChar_le c
    rw [List.flatMap_cons, List.length_append, List.length_cons]
    omega

/-- A text before a colon does not look like a mark of the document. -/
theorem startsWithDocumentMark_append {chars : List Char} (rest : List Char)
    (h : startsWithIndicator chars = false) :
    startsWithDocumentMark (chars ++ ':' :: rest) = false := by
  match chars, h with
  | [], _ => rw [startsWithDocumentMark, List.nil_append, startsWithMarker_of_ne _ (by decide),
      startsWithMarker_of_ne _ (by decide), Bool.or_self]
  | [a], _ => rw [startsWithDocumentMark, List.singleton_append,
      startsWithMarker_of_second_ne _ (by decide), startsWithMarker_of_second_ne _ (by decide),
      Bool.or_self]
  | [a, b], _ => simp [startsWithDocumentMark, startsWithMarker]
  | a :: b :: c :: chars, h =>
    have hmarker {mark : Char} (hmark : mark = '-' ∨ mark = '.') :
        startsWithMarker mark (a :: b :: c :: (chars ++ ':' :: rest)) = false := by
      refine Bool.eq_false_iff.2 fun hmarker => ?_
      simp only [startsWithMarker, Bool.and_eq_true, beq_iff_eq] at hmarker
      obtain ⟨⟨⟨rfl, rfl⟩, rfl⟩, -⟩ := hmarker
      obtain rfl | rfl := hmark <;> cases h
    exact Bool.or_eq_false_iff.2 ⟨hmarker (.inl rfl), hmarker (.inr rfl)⟩

section Keys

variable {progress : Progress} {line column : Nat} {rest : List Char}

/-- **A key on one line is read back with the colon behind it.** -/
theorem reads_simpleKey {text : String} (hkey : isSimpleKey text = true)
    (hcolumn : progress.indent ≤ column) (hend : endsWord rest = true) (indent : Nat) :
    ∃ column', column < column' ∧
      (outside progress none (writeScalar (indent + 2) text ++ ':' :: rest) line column true).Reads
        (outside ((progress.enter column .blockMappingStart).push
          [.value, .scalar (styleOf text) text, .key]) none rest line column' false) := by
  obtain ⟨hlength, hbreaks⟩ := isSimpleKey_spec hkey
  have hholds := holds_styleOf text
  rw [writeScalar]
  cases hstyle : styleOf text with
  | plain =>
    rw [hstyle] at hholds
    obtain ⟨htext, hfits⟩ := hholds
    have hnil := ne_nil_of_isReadAsText htext
    obtain ⟨hvisible, hindicator, hmarks, -, hlast⟩ := fitsPlain_spec hfits
    have hmark := startsWithDocumentMark_append rest hindicator
    have hpos : 0 < column + text.toList.length := by
      have := List.length_pos_iff.2 hnil
      omega
    have hread : readPlain false progress.indent [] .none line column (text.toList ++ ':' :: rest) =
        some ⟨text, false, ⟨':' :: rest, line, column + text.toList.length⟩⟩ := by
      rw [readPlain_append (.none hcolumn) hvisible hmarks hlast (fun _ => hmark),
        readPlain_colon hpos hend]
      simp
    refine ⟨_, ?_, .trans (.of_step? (step?_plain hcolumn hfits hnil (fun _ => hmark) hread) rfl ?_)
      (reads_keyColon hcolumn ?_ hend)⟩
    · omega
    · have := List.length_pos_iff.2 hnil
      simp only [behind, outside, List.length_append]
      omega
    · rw [greatestKeyLength]
      omega
  | singleQuoted =>
    rw [hstyle] at hholds
    obtain ⟨hwidth, hwritten⟩ := singleQuotedRest_spec hbreaks (indent + 2)
    have hread := @readQuoted_single line (column + 1) (indent + 2) (Nat.succ_pos _) text.toList
      (':' :: rest) hholds.1 hholds.2 (Nat.succ_pos _) (by simp)
    rw [String.ofList_toList, cursorAfter_of_forall _ _ _ hwritten, Nat.add_assoc] at hread
    dsimp only
    rw [writeSingleQuoted_eq, List.cons_append]
    refine ⟨_, ?_, .trans (.of_step? (step?_singleQuoted hcolumn hread) rfl ?_)
      (reads_keyColon hcolumn ?_ hend)⟩
    · omega
    · simp only [behind, outside, List.length_append, List.length_cons]
      omega
    · rw [greatestKeyLength]
      omega
  | doubleQuoted =>
    have hwidth := length_flatMap_doubleQuotedChar_le text.toList
    have hread := @readQuoted_double (':' :: rest) line (column + 1) text.toList (Nat.succ_pos _)
    rw [String.ofList_toList, Nat.add_assoc] at hread
    dsimp only
    rw [writeDoubleQuoted, List.cons_append, List.cons_append, List.append_assoc,
      List.singleton_append]
    refine ⟨_, ?_, .trans (.of_step? (step?_doubleQuoted hcolumn hread) rfl ?_)
      (reads_keyColon hcolumn ?_ hend)⟩
    · omega
    · simp only [behind, outside, List.length_append, List.length_cons]
      omega
    · rw [greatestKeyLength]
      omega
  | literal =>
    rw [hstyle] at hholds
    exact absurd (hbreaks _ hholds.2) (by decide)
  | folded =>
    rw [hstyle] at hholds
    exact hholds.elim

end Keys

end Lexer

end Yaml

end CommandTree
