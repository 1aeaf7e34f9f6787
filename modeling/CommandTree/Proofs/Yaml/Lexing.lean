import CommandTree.Yaml.Lexer
import CommandTree.Proofs.Yaml.PlainScalars

/-!
# Steps of the lexer

Between the tokens of a text that has no content between brackets the lexer is in a state of one
form: some tokens have been found, some collections are open, and at most one key may have started.

* `Lexer.step?` moves to the next token and finds it; `Lexer.Reads` is any number of steps, each of
  which takes a character at least.
* `Lexer.outside` is the form of the states.
* `advance_space`, `advance_newline`, `advance_margin` and `advance_stale` : white space makes no
  difference but for the places.
* `run_close` : a collection is closed before a line that does not belong to it.
-/

namespace CommandTree

namespace Yaml

namespace Lexer

/-! ### Steps -/

/-- Moves to the next token and finds it. -/
def step? (lexer : Lexer) : Option Lexer := do
  let lexer ← lexer.advance
  match lexer.rest with
  | [] => none
  | c :: rest => lexer.lexeme c rest

/-- Whether the lexer gets from one state to another, by taking a character at least for every
token. -/
def Reads (a b : Lexer) : Prop :=
  ∃ n, n + b.rest.length ≤ a.rest.length ∧ ∀ fuel, run (n + fuel) a = run fuel b

namespace Reads

variable {a b c : Lexer}

theorem refl (a : Lexer) : a.Reads a :=
  ⟨0, by omega, fun fuel => by rw [Nat.zero_add]⟩

theorem trans (hab : a.Reads b) (hbc : b.Reads c) : a.Reads c := by
  obtain ⟨n, hn, hrun⟩ := hab
  obtain ⟨m, hm, hrun'⟩ := hbc
  refine ⟨n + m, by omega, fun fuel => ?_⟩
  rw [Nat.add_assoc, hrun, hrun']

theorem of_run (hrest : b.rest.length ≤ a.rest.length) (h : ∀ fuel, run fuel a = run fuel b) :
    a.Reads b :=
  ⟨0, by omega, fun fuel => by rw [Nat.zero_add, h]⟩

end Reads

theorem run_congr {a b : Lexer} (h : a.advance = b.advance) (fuel : Nat) :
    run fuel a = run fuel b := by
  cases fuel with
  | zero => rfl
  | succ fuel => rw [run, run, h]

theorem Reads.of_advance {a b : Lexer} (hrest : b.rest.length ≤ a.rest.length)
    (h : a.advance = b.advance) : a.Reads b :=
  .of_run hrest (run_congr h)

theorem run_of_step? {a b : Lexer} (h : a.step? = some b) (fuel : Nat) :
    run (fuel + 1) a = run fuel b := by
  obtain ⟨lexer, hadvance, hlexeme⟩ := Option.bind_eq_some_iff.1 h
  rw [run, hadvance, Option.bind_eq_bind, Option.bind_some]
  cases hrest : lexer.rest with
  | nil =>
    rw [hrest] at hlexeme
    cases hlexeme
  | cons c rest =>
    rw [hrest] at hlexeme
    exact congrArg (Option.bind · (run fuel)) hlexeme

/-- A step that takes a character reads on, from any state in which the lexer goes on in the same
way. -/
theorem Reads.of_step? {a b b' : Lexer} (h : a.step? = some b') (hadvance : b'.advance = b.advance)
    (hrest : b.rest.length < a.rest.length) : a.Reads b := by
  refine ⟨1, by omega, fun fuel => ?_⟩
  rw [Nat.add_comm, run_of_step? h, run_congr hadvance]

/-! ### States -/

/-- What has been found: the tokens, the last one first, and the columns of the open collections. -/
structure Progress where
  /-- The tokens so far, the last one first. -/
  tokens : List Token
  /-- The column of the innermost collection. -/
  indent : Int
  /-- The columns of the collections around it. -/
  outerIndents : List Int

namespace Progress

variable (progress : Progress)

/-- Adds some tokens, the last one first. -/
def push (tokens : List Token) : Progress :=
  { progress with tokens := tokens ++ progress.tokens }

/-- Opens a collection at a column, below what is to be added to the tokens. -/
def openAt (column : Nat) (token : Token) : Progress :=
  ⟨token :: progress.tokens, column, progress.indent :: progress.outerIndents⟩

/-- Closes the collections that are further to the right than a column. -/
def close (column : Int) : Progress :=
  let (indent, outerIndents, closed) :=
    closeColumns column progress.indent progress.outerIndents 0
  ⟨List.replicate closed .blockEnd ++ progress.tokens, indent, outerIndents⟩

@[simp] theorem indent_push (tokens : List Token) :
    (progress.push tokens).indent = progress.indent := rfl

@[simp] theorem push_push (first second : List Token) :
    (progress.push first).push second = progress.push (second ++ first) := by
  simp [push]

theorem close_of_le {column : Int} (h : progress.indent ≤ column) :
    progress.close column = progress := by
  obtain ⟨tokens, indent, outer⟩ := progress
  have hclose : closeColumns column indent outer 0 = (indent, outer, 0) := by
    cases outer with
    | nil => rfl
    | cons next outer => rw [closeColumns, if_neg (Int.not_lt.2 h)]
  simp [close, hclose]

/-- The count of closed collections goes on from any number. -/
theorem closeColumns_add (column indent : Int) (outer : List Int) (closed more : Nat) :
    closeColumns column indent outer (closed + more) =
      ((closeColumns column indent outer closed).1, (closeColumns column indent outer closed).2.1,
        (closeColumns column indent outer closed).2.2 + more) := by
  induction outer generalizing indent closed with
  | nil => rfl
  | cons next outer ih =>
    rw [closeColumns, closeColumns]
    split
    · rw [Nat.add_right_comm, ih]
    · rfl

/-- The innermost collection is closed by its own mark, the others after it. -/
theorem close_cons {column indent next : Int} (h : column < indent) (tokens : List Token)
    (outer : List Int) :
    (⟨tokens, indent, next :: outer⟩ : Progress).close column =
      (⟨.blockEnd :: tokens, next, outer⟩ : Progress).close column := by
  have hclosed := closeColumns_add column next outer 0 1
  simp only [close, closeColumns, if_pos h, hclosed, List.replicate_succ', List.append_assoc,
    List.singleton_append]

/-- Collections may be closed in two goes. -/
theorem close_close {less column : Int} (h : less ≤ column) :
    (progress.close column).close less = progress.close less := by
  obtain ⟨tokens, indent, outer⟩ := progress
  induction outer generalizing tokens indent with
  | nil => rfl
  | cons next outer ih =>
    by_cases hindent : column < indent
    · rw [close_cons hindent, close_cons (Int.lt_of_le_of_lt h hindent)]
      exact ih _ _
    · have hclosed := (⟨tokens, indent, next :: outer⟩ : Progress).close_of_le
        (Int.not_lt.1 hindent)
      rw [hclosed]

end Progress

/-- A state outside of brackets. -/
def outside (progress : Progress) (key : Option KeyStart) (rest : List Char) (line column : Nat)
    (keyAllowed : Bool) : Lexer where
  rest := rest
  line := line
  column := column
  tokens := progress.tokens
  count := progress.tokens.length
  indent := progress.indent
  outerIndents := progress.outerIndents
  keyStart := key
  outerKeyStarts := []
  keyAllowed := keyAllowed

section Outside

variable {progress : Progress} {key : Option KeyStart} {rest : List Char} {line column : Nat}
  {keyAllowed : Bool}

/-! ### White space -/

/-- Moving to the next token skips white space, then forgets keys and closes collections. -/
theorem advance_outside :
    (outside progress key rest line column keyAllowed).advance =
      let (cursor, keyAllowed') := skipToToken false keyAllowed false line column rest
      (outside progress key cursor.rest cursor.line cursor.column keyAllowed').refreshKeyStarts.map
        fun lexer => lexer.closeBlocks lexer.column := by
  simp only [Option.map_eq_bind]
  rfl

/-- The state at the next token only depends on the place of that token. -/
theorem advance_outside_congr {rest' : List Char} {line' column' : Nat} {keyAllowed' : Bool}
    (h : skipToToken false keyAllowed false line column rest =
      skipToToken false keyAllowed' false line' column' rest') :
    (outside progress key rest line column keyAllowed).advance =
      (outside progress key rest' line' column' keyAllowed').advance := by
  rw [advance_outside, advance_outside, h]

theorem advance_space :
    (outside progress key (' ' :: rest) line column keyAllowed).advance =
      (outside progress key rest line (column + 1) keyAllowed).advance :=
  advance_outside_congr (by simp [skipToToken, isLineBreak])

theorem advance_newline :
    (outside progress key ('\n' :: rest) line column keyAllowed).advance =
      (outside progress key rest (line + 1) 0 true).advance :=
  advance_outside_congr (by simp [skipToToken, isLineBreak])

theorem skipToToken_margin (flow : Bool) (width : Nat) :
    skipToToken flow keyAllowed false line column (margin width ++ rest) =
      skipToToken flow keyAllowed false line (column + width) rest :=
  read_margin (fun _ _ => rfl) column width rest

theorem advance_margin (width : Nat) :
    (outside progress key (margin width ++ rest) line column keyAllowed).advance =
      (outside progress key rest line (column + width) keyAllowed).advance :=
  advance_outside_congr (skipToToken_margin false width)

/-- The lexer may go on at the first character of a line or at the start of the line. -/
theorem advance_lineCursor :
    (outside progress key (lineCursor line rest).rest (lineCursor line rest).line
        (lineCursor line rest).column keyAllowed).advance =
      (outside progress key rest line 0 keyAllowed).advance := by
  have hspaces : rest.takeWhile (· == ' ') = margin (rest.takeWhile (· == ' ')).length := by
    refine List.eq_replicate_of_mem fun c hc => ?_
    simpa using (List.all_eq_true.1 List.all_takeWhile) c hc
  have hrest : rest = margin (lineCursor line rest).column ++ (lineCursor line rest).rest := by
    rw [lineCursor, ← hspaces, List.takeWhile_append_dropWhile]
  have hmargin := @advance_margin progress key (lineCursor line rest).rest line 0 keyAllowed
    (lineCursor line rest).column
  rw [← hrest, Nat.zero_add] at hmargin
  exact hmargin.symm

theorem le_line_skipToToken (flow inComment : Bool) :
    line ≤ (skipToToken flow keyAllowed inComment line column rest).1.line := by
  induction rest generalizing keyAllowed inComment line column with
  | nil => exact Nat.le_refl _
  | cons c rest ih =>
    rw [skipToToken]
    split
    · exact Nat.le_trans (Nat.le_succ _) (ih _)
    · split
      · exact ih _
      · split
        · exact ih _
        · exact Nat.le_refl _

/-- A key that may have started on an earlier line is forgotten. -/
theorem advance_stale {start : KeyStart} (hline : start.line < line)
    (hrequired : start.required = false) :
    (outside progress (some start) rest line column keyAllowed).advance =
      (outside progress none rest line column keyAllowed).advance := by
  have hle : line ≤ (skipToToken false keyAllowed false line column rest).1.line :=
    le_line_skipToToken false false
  rw [advance_outside, advance_outside]
  generalize skipToToken false keyAllowed false line column rest = found at hle
  obtain ⟨cursor, keyAllowed'⟩ := found
  have hlater : start.line < cursor.line := Nat.lt_of_lt_of_le hline hle
  simp [refreshKeyStarts, refreshKeyStart, outside, hlater, hrequired]

theorem skipToToken_start {flow : Bool} {c : Char} (hc : startsToken c = true) :
    skipToToken flow keyAllowed false line column (c :: rest) =
      (⟨c :: rest, line, column⟩, keyAllowed) := by
  simp only [startsToken, isSpaceOrTab, Bool.and_eq_true, Bool.not_eq_true', Bool.or_eq_false_iff,
    bne_iff_ne, beq_eq_false_iff_ne] at hc
  obtain ⟨⟨⟨⟨hspace, htab⟩, hbreak⟩, hnumber⟩, hmark⟩ := hc
  rw [skipToToken]
  simp [hspace, htab, hbreak, hnumber, hmark]

theorem closeBlocks_outside (limit : Int) :
    (outside progress key rest line column keyAllowed).closeBlocks limit =
      outside (progress.close limit) key rest line column keyAllowed := by
  unfold closeBlocks Progress.close
  simp [outside, inFlow, Nat.add_comm]

/-- If no key waits for its colon, only collections are closed before the next token. -/
theorem advance_none :
    (outside progress none rest line column keyAllowed).advance =
      let (cursor, keyAllowed') := skipToToken false keyAllowed false line column rest
      some (outside (progress.close cursor.column) none cursor.rest cursor.line cursor.column
        keyAllowed') := by
  have hclose (cursor : Cursor) (keyAllowed : Bool) :
      (outside progress none cursor.rest cursor.line cursor.column keyAllowed).closeBlocks
          cursor.column =
        outside (progress.close cursor.column) none cursor.rest cursor.line cursor.column
          keyAllowed := closeBlocks_outside _
  rw [advance_outside]
  exact congrArg some (hclose _ _)

/-- At a token that belongs to the innermost collection nothing is left to do. -/
theorem advance_start {c : Char} (hc : startsToken c = true) (hcolumn : progress.indent ≤ column) :
    (outside progress none (c :: rest) line column keyAllowed).advance =
      some (outside progress none (c :: rest) line column keyAllowed) := by
  rw [advance_none, skipToToken_start hc]
  exact congrArg some (congrArg (outside · none _ _ _ _) (progress.close_of_le hcolumn))

/-- The colon of a key is found before the key is forgotten. -/
theorem advance_colon {start : KeyStart} (hline : start.line = line)
    (hcolumn : column ≤ start.column + greatestKeyLength) (hindent : progress.indent ≤ column) :
    (outside progress (some start) (':' :: rest) line column keyAllowed).advance =
      some (outside progress (some start) (':' :: rest) line column keyAllowed) := by
  have hnear : ¬ start.column + greatestKeyLength < column := Nat.not_lt.2 hcolumn
  have hrefresh : (outside progress (some start) (':' :: rest) line column
      keyAllowed).refreshKeyStarts =
      some (outside progress (some start) (':' :: rest) line column keyAllowed) := by
    simp [refreshKeyStarts, refreshKeyStart, outside, hline, hnear]
  rw [advance_outside, skipToToken_start (by decide)]
  change Option.map _ (outside progress (some start) (':' :: rest) line column
    keyAllowed).refreshKeyStarts = _
  rw [hrefresh]
  rw [Option.map_some]
  change some ((outside progress (some start) (':' :: rest) line column keyAllowed).closeBlocks
    column) = _
  rw [closeBlocks_outside, progress.close_of_le hindent]

/-! ### Closing -/

/-- At the end of the text everything is closed. -/
theorem run_nil (fuel : Nat) :
    run (fuel + 1) (outside progress none [] line column keyAllowed) =
      some (progress.close (-1)).tokens.reverse := by
  have hadvance : (outside progress none [] line column keyAllowed).advance =
      some (outside (progress.close column) none [] line column keyAllowed) := advance_none
  have hcolumn : (-1 : Int) ≤ column := by omega
  rw [run, hadvance, Option.bind_eq_bind, Option.bind_some]
  change finish _ = _
  rw [finish, closeBlocks_outside, Progress.close_close _ hcolumn]
  rfl

/-- A collection is closed before anything that does not belong to it. -/
theorem run_close {tokens : List Token} {indent next : Int} {outer : List Int} (h : next < indent)
    (hminus : -1 ≤ next) (hbelow : Below next rest) (fuel : Nat) :
    run fuel (outside ⟨tokens, indent, next :: outer⟩ none rest line 0 true) =
      run fuel (outside ⟨.blockEnd :: tokens, next, outer⟩ none rest line 0 true) := by
  cases hbelow with
  | nil =>
    cases fuel with
    | zero => rfl
    | succ fuel => rw [run_nil, run_nil, Progress.close_cons (Int.lt_of_le_of_lt hminus h)]
  | @line column c rest hcolumn hstart =>
    refine run_congr ?_ fuel
    rw [advance_margin, advance_margin, advance_none, advance_none, skipToToken_start hstart,
      Nat.zero_add]
    dsimp only
    rw [Progress.close_cons (Int.lt_of_le_of_lt hcolumn h)]

end Outside

end Lexer

end Yaml

end CommandTree
