import CommandTree.Proofs.Yaml.PlainScalars
import Mathlib.Data.List.Induction

/-!
# Reading literal blocks

A literal block is read back as it is written: its header says how far its lines are indented if the
first one does not show that, and what becomes of the line breaks at its end.

* `BlockText.step` is what the reader does with one character, and `BlockText.read` with all of a
  text.
* `readBlock_writeLiteral` : the text of a literal block is read back.
-/

namespace CommandTree

namespace Yaml

namespace BlockText

/-- What has been read of a block, and whether a line with text has been started. -/
structure State where
  /-- The block so far. -/
  block : BlockText
  /-- Whether a line with text has been started. -/
  inLine : Bool

/-- The state before the first line. -/
def State.start : State :=
  ⟨⟨[], none, [], false⟩, false⟩

/-- What becomes of a literal block when the next character of its text is read. -/
def step (state : State) (c : Char) : State :=
  if isLineBreak c then
    if state.inLine then ⟨{ state.block with ending := some c, blankLines := [] }, false⟩
    else ⟨{ state.block with blankLines := c :: state.block.blankLines }, false⟩
  else if state.inLine then ⟨{ state.block with text := c :: state.block.text }, true⟩
  else ⟨state.block.startLine true c, true⟩

/-- What becomes of a literal block when its text is read. -/
def read (chars : List Char) : State :=
  chars.foldl step .start

/-- The whole text of a block with all of its line breaks, in reverse. -/
def all (block : BlockText) : List Char :=
  block.blankLines ++ (block.ending.toList ++ block.text)

/-- Inside a line no line breaks are waiting. -/
def State.Settled (state : State) : Prop :=
  state.inLine = true → state.block.ending = none ∧ state.block.blankLines = []

variable {state : State} {c : Char}

@[simp] theorem inLine_step (state : State) (c : Char) :
    (step state c).inLine = !isLineBreak c := by
  unfold step
  cases hbreak : isLineBreak c <;> cases hline : state.inLine <;> simp

theorem step_spec (h : state.Settled) :
    (step state c).Settled ∧ (step state c).block.all = c :: state.block.all := by
  unfold step
  by_cases hbreak : isLineBreak c = true
  · by_cases hline : state.inLine = true
    · obtain ⟨hending, hblank⟩ := h hline
      simp [State.Settled, all, hbreak, hline, hending, hblank]
    · simp [State.Settled, all, hbreak, hline]
  · by_cases hline : state.inLine = true
    · obtain ⟨hending, hblank⟩ := h hline
      simp [State.Settled, all, hbreak, hline, hending, hblank]
    · simp [State.Settled, all, hbreak, hline, startLine]

theorem read_append_singleton (chars : List Char) :
    read (chars ++ [c]) = step (read chars) c := by
  rw [read, List.foldl_append]
  rfl

theorem read_spec (chars : List Char) :
    (read chars).Settled ∧ (read chars).block.all = chars.reverse := by
  induction chars using List.reverseRecOn with
  | nil => simp [read, State.start, State.Settled, all]
  | append_singleton chars c ih =>
    have hstep : (step (read chars) c).Settled ∧ _ := step_spec ih.1
    rw [read_append_singleton, List.reverse_append]
    exact ⟨hstep.1, by rw [hstep.2, ih.2]; rfl⟩

theorem inLine_read_append_singleton (chars : List Char) (c : Char) :
    (read (chars ++ [c])).inLine = !isLineBreak c := by
  rw [read_append_singleton, inLine_step]

/-- The block once the line break behind its last line has been read, if that is not part of the
text. -/
def State.close (state : State) : BlockText :=
  if state.inLine then { state.block with ending := some '\n', blankLines := [] } else state.block

/-! ### Line breaks at the end -/

/-- What the sign of a text says about the line breaks at its end. -/
def chompingOf (chars : List Char) : Chomping :=
  match chars.reverse with
  | [] => .strip
  | last :: before =>
    if !isLineBreak last then .strip
    else match before with
      | [] => .keep
      | c :: _ => if isLineBreak c then .keep else .clip

/-- The sign of a text makes the reader keep just the line breaks of the text. -/
theorem finish_chompingOf (chars : List Char) :
    (read chars).close.finish (chompingOf chars) = String.ofList chars := by
  obtain ⟨hsettled, hall⟩ := read_spec chars
  cases chars using List.reverseRecOn with
  | nil => rfl
  | append_singleton before last =>
    have hline := inLine_read_append_singleton before last
    cases hlast : isLineBreak last with
    | false =>
      -- the line break behind the text is dropped again
      rw [hlast] at hline
      obtain ⟨hending, hblank⟩ := hsettled hline
      simp only [all, hending, hblank, Option.toList_none, List.nil_append] at hall
      simp [State.close, hline, chompingOf, hlast, finish, hall]
    | true =>
      rw [hlast] at hline
      have hclose : (read (before ++ [last])).close = (read (before ++ [last])).block := by
        rw [State.close, hline, Bool.not_true, if_neg Bool.false_ne_true]
      have hkeep : (read (before ++ [last])).block.finish .keep =
          String.ofList (before ++ [last]) := by
        rw [finish, ← all, hall, List.reverse_reverse]
      rw [hclose]
      cases before using List.reverseRecOn with
      | nil => simpa [chompingOf, hlast] using hkeep
      | append_singleton before' c =>
        cases hc : isLineBreak c with
        | true => simpa [chompingOf, hlast, hc] using hkeep
        | false =>
          -- a single line break ends the text, so none is waiting behind it
          have hblank : (read (before' ++ [c] ++ [last])).block.blankLines = [] := by
            rw [read_append_singleton, step, if_pos hlast, inLine_read_append_singleton, hc]
            rfl
          rw [finish, hblank, List.nil_append] at hkeep
          simpa [chompingOf, hlast, hc, finish] using hkeep

end BlockText

/-- The header of a literal block is read as it was written. -/
theorem readBlockHeader_chompingSign (chars rest : List Char) :
    readBlockHeader (chompingSign chars ++ '\n' :: rest) =
        some (⟨BlockText.chompingOf chars, 0⟩, '\n' :: rest) ∧
      readBlockHeader ('2' :: (chompingSign chars ++ '\n' :: rest)) =
        some (⟨BlockText.chompingOf chars, 2⟩, '\n' :: rest) := by
  unfold chompingSign BlockText.chompingOf
  cases chars.reverse with
  | nil => exact ⟨rfl, rfl⟩
  | cons last before =>
    dsimp only
    cases isLineBreak last with
    | false => exact ⟨rfl, rfl⟩
    | true =>
      cases before with
      | nil => exact ⟨rfl, rfl⟩
      | cons c before =>
        dsimp only
        cases isLineBreak c with
        | true => exact ⟨rfl, rfl⟩
        | false => exact ⟨rfl, rfl⟩

/-! ### Lines -/

section Lines

variable {indent line column : Nat} {block : BlockText} {rest : List Char} {c : Char}

theorem readBlockLines_margin {width : Nat} (h : column + width ≤ indent) :
    readBlockLines true indent block false line column (margin width ++ rest) =
      readBlockLines true indent block false line (column + width) rest := by
  induction width generalizing column with
  | zero => rfl
  | succ width ih =>
    have hcolumn : column < indent := by omega
    rw [margin, List.replicate_succ, List.cons_append, readBlockLines, if_pos ⟨hcolumn, rfl⟩,
      Nat.add_comm width, ← Nat.add_assoc]
    exact ih (by omega)

theorem readBlockLines_break_inLine (hc : isLineBreak c = true) :
    readBlockLines true indent block true line column (c :: rest) =
      readBlockLines true indent { block with ending := some c, blankLines := [] } false (line + 1)
        0 rest := by
  rw [readBlockLines, if_pos hc]

theorem readBlockLines_char_inLine (hc : isLineBreak c = false) :
    readBlockLines true indent block true line column (c :: rest) =
      readBlockLines true indent { block with text := c :: block.text } true line (column + 1)
        rest := by
  rw [readBlockLines, hc, if_neg Bool.false_ne_true]

theorem readBlockLines_break (hc : isLineBreak c = true) :
    readBlockLines true indent block false line column (c :: rest) =
      readBlockLines true indent { block with blankLines := c :: block.blankLines } false
        (line + 1) 0 rest := by
  have hspace : c ≠ ' ' ∧ c ≠ '\t' := by
    constructor <;> rintro rfl <;> cases hc
  simp [readBlockLines, hspace, hc]

theorem readBlockLines_char (hc : isLineBreak c = false) :
    readBlockLines true indent block false line indent (c :: rest) =
      readBlockLines true indent (block.startLine true c) true line (indent + 1) rest := by
  simp [readBlockLines, hc]

/-- A block ends before a line that is indented less. -/
theorem readBlockLines_below {parent : Int} {more : List Char} (h : Below parent more)
    (hindent : parent < indent) :
    readBlockLines true indent block false line 0 more = some (block, lineCursor line more) := by
  cases h with
  | nil => rfl
  | @line column c rest hcolumn hstart =>
    have hlt : column < indent := by omega
    have hspace : c ≠ ' ' := ne_space_of_startsToken hstart
    simp only [startsToken, isSpaceOrTab, Bool.and_eq_true, Bool.not_eq_true',
      Bool.or_eq_false_iff, beq_eq_false_iff_ne] at hstart
    obtain ⟨⟨⟨⟨-, htab⟩, hbreak⟩, -⟩, -⟩ := hstart
    rw [readBlockLines_margin (by omega), Nat.zero_add, lineCursor_margin _ _ hspace,
      readBlockLines]
    simp [hspace, htab, hbreak, Nat.ne_of_lt hlt]

/-- What the reader does with a character of a block, and with the margin before it. -/
theorem readBlockLines_step {state : BlockText.State} (c : Char)
    (hcolumn : state.inLine = false → column = 0) :
    ∃ line' column', line ≤ line' ∧ ((BlockText.step state c).inLine = false → column' = 0) ∧
      ∀ chars tail, readBlockLines true indent state.block state.inLine line column
          (writeLines indent (fun c => [c]) (!state.inLine) (c :: chars) ++ tail) =
        readBlockLines true indent (BlockText.step state c).block (BlockText.step state c).inLine
          line' column'
          (writeLines indent (fun c => [c]) (!(BlockText.step state c).inLine) chars ++ tail) := by
  obtain ⟨block, inLine⟩ := state
  rw [BlockText.inLine_step]
  cases hc : isLineBreak c with
  | true =>
    refine ⟨line + 1, 0, by omega, fun _ => rfl, fun chars tail => ?_⟩
    rw [writeLines, BlockText.step, if_pos hc, if_pos hc, List.cons_append]
    cases inLine with
    | true => exact readBlockLines_break_inLine hc
    | false =>
      obtain rfl := hcolumn rfl
      exact readBlockLines_break hc
  | false =>
    have hc' : ¬ isLineBreak c = true := by simp [hc]
    cases inLine with
    | true =>
      refine ⟨line, column + 1, Nat.le_refl _, by simp, fun chars tail => ?_⟩
      rw [writeLines, BlockText.step, if_neg hc', if_neg hc']
      exact readBlockLines_char_inLine hc
    | false =>
      obtain rfl := hcolumn rfl
      refine ⟨line, indent + 1, Nat.le_refl _, by simp, fun chars tail => ?_⟩
      have hmargin : 0 + indent ≤ indent := by omega
      rw [writeLines, BlockText.step, if_neg hc', if_neg hc', Bool.not_false, if_pos rfl,
        List.append_assoc, List.append_assoc, readBlockLines_margin hmargin, Nat.zero_add]
      exact readBlockLines_char hc

/-- The text of a literal block is read as it is written, whatever follows. -/
theorem readBlockLines_writeLines {chars tail : List Char} {state : BlockText.State}
    (hcolumn : state.inLine = false → column = 0) :
    ∃ line' column', line ≤ line' ∧
      ((chars.foldl BlockText.step state).inLine = false → column' = 0) ∧
      readBlockLines true indent state.block state.inLine line column
          (writeLines indent (fun c => [c]) (!state.inLine) chars ++ tail) =
        readBlockLines true indent (chars.foldl BlockText.step state).block
          (chars.foldl BlockText.step state).inLine line' column' tail := by
  induction chars generalizing state line column with
  | nil => exact ⟨line, column, Nat.le_refl _, hcolumn, rfl⟩
  | cons c rest ih =>
    obtain ⟨line₁, column₁, hline₁, hcolumn₁, hstep⟩ := readBlockLines_step c hcolumn
    obtain ⟨line₂, column₂, hline₂, hcolumn₂, hrest⟩ := ih hcolumn₁
    exact ⟨line₂, column₂, Nat.le_trans hline₁ hline₂, hcolumn₂, (hstep rest tail).trans hrest⟩

/-- The lines of a literal block are read up to the lines below it. -/
theorem readBlockLines_start {parent : Int} {chars more : List Char} (h : Below parent more)
    (hindent : parent < indent) :
    ∃ line', line ≤ line' ∧
      readBlockLines true indent BlockText.State.start.block false line 0
          (writeLines indent (fun c => [c]) true chars ++
            ((if (BlockText.read chars).inLine then ['\n'] else []) ++ more)) =
        some ((BlockText.read chars).close, lineCursor line' more) := by
  obtain ⟨line', column', hline, hcolumn, hread⟩ :=
    @readBlockLines_writeLines indent line 0 chars
      ((if (BlockText.read chars).inLine then ['\n'] else []) ++ more) .start (fun _ => rfl)
  rw [← BlockText.read] at hread hcolumn
  rw [BlockText.State.close]
  cases hlast : (BlockText.read chars).inLine with
  | true =>
    rw [hlast, if_pos rfl, List.singleton_append, readBlockLines_break_inLine rfl,
      readBlockLines_below h hindent] at hread
    exact ⟨line' + 1, by omega, hread⟩
  | false =>
    obtain rfl := hcolumn hlast
    rw [hlast, if_neg Bool.false_ne_true, List.nil_append, readBlockLines_below h hindent] at hread
    exact ⟨line', hline, hread⟩

end Lines

/-! ### Whole blocks -/

section Blocks

variable {line : Nat} {chars more : List Char}

theorem findIndent_margin (least : Nat) (breaks : List Char) (column width : Nat)
    (rest : List Char) :
    findIndent least 0 breaks line column (margin width ++ rest) =
      findIndent least 0 breaks line (column + width) rest :=
  read_margin (fun _ _ => by rw [findIndent, if_pos rfl]) column width rest

theorem findIndent_char {c : Char} (hspace : isSpaceOrTab c = false)
    (hbreak : isLineBreak c = false) (least : Nat) (breaks : List Char) (column : Nat)
    (rest : List Char) :
    findIndent least 0 breaks line column (c :: rest) =
      some (max least (max 0 column), breaks, ⟨c :: rest, line, column⟩) := by
  simp only [isSpaceOrTab, Bool.or_eq_false_iff, beq_eq_false_iff_ne] at hspace
  rw [findIndent, if_neg hspace.1, if_neg hspace.2, hbreak, if_neg Bool.false_ne_true]

/-- A literal block from behind its mark on, up to the end of its last line. -/
def literalRest (indent : Nat) (chars : List Char) : List Char :=
  (if chars.head?.any fun c => c == ' ' || isLineBreak c then ['2'] else []) ++
    (chompingSign chars ++ '\n' :: writeLines indent (fun c => [c]) true chars)

theorem writeLiteral_eq (indent : Nat) (chars : List Char) :
    writeLiteral indent chars = '|' :: literalRest indent chars := by
  simp [writeLiteral, literalRest]

/-- What the reader does behind the header: it reads the lines with the indentation they have. -/
theorem readBlock_literalRest {parent : Nat} (hvisible : ∀ c ∈ chars, isVisible c = true)
    (hchars : chars ≠ []) (tail : List Char) :
    readBlock true parent line (literalRest (parent + 2) chars ++ tail) = do
      let (block, cursor) ←
        readBlockLines true (parent + 2) BlockText.State.start.block false (line + 1) 0
          (writeLines (parent + 2) (fun c => [c]) true chars ++ tail)
      return (block.finish (BlockText.chompingOf chars), cursor) := by
  obtain ⟨hplain, hstated⟩ := readBlockHeader_chompingSign chars
    (writeLines (parent + 2) (fun c => [c]) true chars ++ tail)
  have hskip (body : List Char) : skipToLineEnd ('\n' :: body) = '\n' :: body := rfl
  have hbreak : isLineBreak '\n' = true := rfl
  have hparent : (max (parent : Int) 0).toNat = parent := by omega
  have hincrement : ¬ (2 : Nat) = 0 := by decide
  rw [literalRest]
  by_cases hfirst : (chars.head?.any fun c => c == ' ' || isLineBreak c) = true
  · rw [if_pos hfirst, readBlock]
    simp only [List.append_assoc, List.cons_append, List.nil_append, hstated, hskip, hbreak,
      Option.bind_eq_bind, Option.bind_some, if_true, hparent, hincrement, if_false]
    rfl
  · -- the first line shows how far the block is indented
    obtain ⟨c, rest, rfl⟩ := List.exists_cons_of_ne_nil hchars
    obtain ⟨hspace, hc⟩ : c ≠ ' ' ∧ isLineBreak c = false := by simpa using hfirst
    have hspace' := isSpaceOrTab_eq_false (hvisible c List.mem_cons_self) hspace
    have hwritten : writeLines (parent + 2) (fun c => [c]) true (c :: rest) ++ tail =
        margin (parent + 2) ++
          c :: (writeLines (parent + 2) (fun c => [c]) false rest ++ tail) := by
      simp [writeLines, hc]
    have hindent : findIndent (max ((parent : Int) + 1).toNat 1) 0 [] (line + 1) 0
        (margin (parent + 2) ++ c :: (writeLines (parent + 2) (fun c => [c]) false rest ++ tail)) =
        some (parent + 2, [], ⟨c :: (writeLines (parent + 2) (fun c => [c]) false rest ++ tail),
          line + 1, parent + 2⟩) := by
      have hleast : max (max ((parent : Int) + 1).toNat 1) (max 0 (parent + 2)) = parent + 2 := by
        omega
      rw [findIndent_margin, findIndent_char hspace' hc, Nat.zero_add, hleast]
    have hmargin : 0 + (parent + 2) ≤ parent + 2 := by omega
    rw [hwritten] at hplain ⊢
    rw [if_neg hfirst, List.nil_append, List.append_assoc, List.cons_append, hwritten, readBlock]
    simp only [hplain, hskip, hbreak, hindent, Option.bind_eq_bind, Option.bind_some, if_true]
    rw [readBlockLines_margin hmargin, Nat.zero_add]
    rfl

/-- A literal block is read back as it is written, up to the lines below it. -/
theorem readBlock_writeLiteral {parent : Nat} (h : fitsLiteral chars = true) (hchars : chars ≠ [])
    (hmore : Below parent more) (line : Nat) :
    ∃ line', line < line' ∧
      readBlock true parent line (literalRest (parent + 2) chars ++
          ((if chars.getLast?.any isLineBreak then [] else ['\n']) ++ more)) =
        some (String.ofList chars, lineCursor line' more) := by
  simp only [fitsLiteral, isShowable, Bool.and_eq_true, List.all_eq_true] at h
  have hending : (if (BlockText.read chars).inLine then ['\n'] else []) =
      if chars.getLast?.any isLineBreak then [] else ['\n'] := by
    cases chars using List.reverseRecOn with
    | nil => exact absurd rfl hchars
    | append_singleton before last =>
      rw [BlockText.inLine_read_append_singleton]
      cases hlast : isLineBreak last <;> simp [hlast]
  have hindent : (parent : Int) < (parent + 2 : Nat) := by omega
  obtain ⟨line', hline, hread⟩ :=
    @readBlockLines_start (parent + 2) (line + 1) parent chars more hmore hindent
  rw [hending] at hread
  refine ⟨line', by omega, ?_⟩
  rw [readBlock_literalRest h.1.1 hchars, hread, Option.bind_eq_bind, Option.bind_some]
  dsimp only
  rw [BlockText.finish_chompingOf]
  rfl

end Blocks

end Yaml

end CommandTree
