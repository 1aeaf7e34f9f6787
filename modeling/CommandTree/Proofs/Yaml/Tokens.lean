import CommandTree.Proofs.Yaml.Lexing

/-!
# Marks that are read back

* The lemmas `lexeme_…` say which token starts with a character.
* `reads_dash`, `reads_questionMark`, `reads_colon` : the marks before items, keys and values.
* `reads_keyColon` : the colon behind a key that may have started on its line.
* `reads_brackets` : an empty collection.
-/

namespace CommandTree

namespace Yaml

namespace Lexer

/-! ### What a token starts with -/

section Lexeme

variable (lexer : Lexer) (rest : List Char)

theorem startsWithMarker_of_ne {mark c : Char} (h : c ≠ mark) :
    startsWithMarker mark (c :: rest) = false := by
  unfold startsWithMarker
  split
  · rename_i heq
    cases heq
    simp [h]
  · rfl

theorem startsWithMarker_of_second_ne {mark c next : Char} (h : next ≠ mark) :
    startsWithMarker mark (c :: next :: rest) = false := by
  cases rest <;> simp [startsWithMarker, h]

theorem lexeme_dash : lexer.lexeme '-' (' ' :: rest) = lexer.blockEntry := by
  have hdash : startsWithMarker '-' ('-' :: ' ' :: rest) = false :=
    startsWithMarker_of_second_ne rest (by decide)
  have hdot : startsWithMarker '.' ('-' :: ' ' :: rest) = false :=
    startsWithMarker_of_ne _ (by decide)
  have hend : endsWord (' ' :: rest) = true := rfl
  simp [lexeme, hdash, hdot, hend]

theorem lexeme_questionMark : lexer.lexeme '?' (' ' :: rest) = lexer.explicitKey := by
  have hmark (mark : Char) (h : '?' ≠ mark) := startsWithMarker_of_ne (' ' :: rest) h
  have hend : endsWord (' ' :: rest) = true := rfl
  simp [lexeme, hmark, hend]

theorem lexeme_colon {rest : List Char} (hend : endsWord rest = true) :
    lexer.lexeme ':' rest = lexer.valueMark := by
  have hmark (mark : Char) (h : ':' ≠ mark) := startsWithMarker_of_ne rest h
  simp [lexeme, hmark, hend]

theorem lexeme_openSequence : lexer.lexeme '[' rest = lexer.openFlow .flowSequenceStart := by
  have hmark (mark : Char) (h : '[' ≠ mark) := startsWithMarker_of_ne rest h
  simp [lexeme, hmark]

theorem lexeme_closeSequence : lexer.lexeme ']' rest = lexer.closeFlow .flowSequenceEnd := by
  have hmark (mark : Char) (h : ']' ≠ mark) := startsWithMarker_of_ne rest h
  simp [lexeme, hmark]

theorem lexeme_openMapping : lexer.lexeme '\x7b' rest = lexer.openFlow .flowMappingStart := by
  have hmark (mark : Char) (h : '\x7b' ≠ mark) := startsWithMarker_of_ne rest h
  simp [lexeme, hmark]

theorem lexeme_closeMapping : lexer.lexeme '\x7d' rest = lexer.closeFlow .flowMappingEnd := by
  have hmark (mark : Char) (h : '\x7d' ≠ mark) := startsWithMarker_of_ne rest h
  simp [lexeme, hmark]

theorem lexeme_singleQuote : lexer.lexeme '\'' rest = lexer.quotedScalar true := by
  have hmark (mark : Char) (h : '\'' ≠ mark) := startsWithMarker_of_ne rest h
  simp [lexeme, hmark]

theorem lexeme_doubleQuote : lexer.lexeme '"' rest = lexer.quotedScalar false := by
  have hmark (mark : Char) (h : '"' ≠ mark) := startsWithMarker_of_ne rest h
  simp [lexeme, hmark]

theorem lexeme_literal (hflow : lexer.inFlow = false) :
    lexer.lexeme '|' rest = lexer.blockScalar true := by
  have hmark (mark : Char) (h : '|' ≠ mark) := startsWithMarker_of_ne rest h
  simp [lexeme, hmark, hflow]

/-- What a text does not start with if its first characters mean nothing of their own. -/
theorem startsWithIndicator_cons {chars : List Char} {c : Char}
    (h : startsWithIndicator (c :: chars) = false) :
    (∀ mark ∈ "#,[]\x7b\x7d&*!|>'\"%@`".toList, c ≠ mark) ∧
      ((c = '?' ∨ c = ':' ∨ c = '-') → endsWord chars = false) := by
  unfold startsWithIndicator at h
  split at h
  · cases h
  · cases h
  · rename_i heq
    cases heq
    simp only [Bool.or_eq_false_iff, Bool.and_eq_false_imp] at h
    refine ⟨fun mark hmark hc => ?_, fun hc => h.2 ?_⟩
    · subst hc
      simp only [List.contains_eq_mem, decide_eq_false_iff_not] at h
      exact h.1 hmark
    · obtain rfl | rfl | rfl := hc <;> decide
  · rename_i heq
    cases heq

/-- A text that fits into a plain scalar starts one, whatever follows the text. -/
theorem lexeme_plain {chars : List Char} {c : Char} {tail : List Char}
    (hflow : lexer.inFlow = false) (hstart : startsWithIndicator (c :: chars) = false)
    (hspace : isSpaceOrTab c = false) (hbreak : isLineBreak c = false)
    (hmark : lexer.column = 0 → startsWithDocumentMark (c :: (chars ++ tail)) = false) :
    lexer.lexeme c (chars ++ tail) = lexer.plainScalar := by
  obtain ⟨hmarks, hword⟩ := startsWithIndicator_cons hstart
  have hend (h : c = '?' ∨ c = ':' ∨ c = '-') : endsWord (chars ++ tail) = false := by
    have hchars := hword h
    rw [endsWord_append, hchars]
    rintro rfl
    cases hchars
  have hplain : startsPlain false c (chars ++ tail) = true := by
    unfold startsPlain
    by_cases hdash : c = '-'
    · have hnext := hend (.inr (.inr hdash))
      rw [hdash, if_pos (by decide)]
      cases hchars : chars ++ tail with
      | nil => rfl
      | cons next rest =>
        rw [hchars, endsWord, Bool.or_eq_false_iff] at hnext
        simp [hnext]
    · by_cases hword : c = '?' ∨ c = ':'
      · have hnext := hend (hword.imp_right .inl)
        obtain rfl | rfl := hword <;> simp [hnext]
      · have hcontains : ",[]\x7b\x7d#&*!|>'\"%@`".toList.contains c = false := by
          have hsame : ",[]\x7b\x7d#&*!|>'\"%@`".toList ⊆ "#,[]\x7b\x7d&*!|>'\"%@`".toList := by
            decide
          simp only [List.contains_eq_mem, decide_eq_false_iff_not]
          exact fun hmem => hmarks c (hsame hmem) rfl
        simp only [not_or] at hword
        simp only [hdash, hword, hspace, hbreak, hcontains, beq_iff_eq, Bool.or_eq_true, or_self,
          Bool.or_self, Bool.not_false, if_false]
  have hdash : (c == '-' && endsWord (chars ++ tail)) = false := by
    simpa using fun h => hend (.inr (.inr h))
  have hquestion : (c == '?' && endsWord (chars ++ tail)) = false := by
    simpa using fun h => hend (.inl h)
  have hcolon : (c == ':' && endsWord (chars ++ tail)) = false := by
    simpa using fun h => hend (.inr (.inl h))
  have hdocument : (lexer.column == 0 && startsWithMarker '-' (c :: (chars ++ tail))) = false ∧
      (lexer.column == 0 && startsWithMarker '.' (c :: (chars ++ tail))) = false := by
    simp only [startsWithDocumentMark, Bool.or_eq_false_iff] at hmark
    simpa using ⟨fun h => (hmark h).1, fun h => (hmark h).2⟩
  simp [lexeme, hflow, hplain, hdash, hquestion, hcolon, hdocument, hmarks '%' (by decide),
    hmarks '[' (by decide), hmarks ']' (by decide), hmarks '\x7b' (by decide),
    hmarks '\x7d' (by decide), hmarks ',' (by decide), hmarks '*' (by decide),
    hmarks '&' (by decide), hmarks '!' (by decide), hmarks '|' (by decide), hmarks '>' (by decide),
    hmarks '\'' (by decide), hmarks '"' (by decide)]

end Lexeme

/-! ### Opening collections -/

/-- What has been found once an item or key stands at a column: it opens a collection there unless
one is open. -/
def Progress.enter (progress : Progress) (column : Nat) (token : Token) : Progress :=
  if (column : Int) ≤ progress.indent then progress else progress.openAt column token

section Marks

variable {progress : Progress} {key : Option KeyStart} {rest : List Char} {line column : Nat}
  {keyAllowed : Bool}

theorem step?_outside {c : Char} (hc : startsToken c = true) (hcolumn : progress.indent ≤ column) :
    (outside progress none (c :: rest) line column keyAllowed).step? =
      (outside progress none (c :: rest) line column keyAllowed).lexeme c rest := by
  rw [step?, advance_start hc hcolumn]
  rfl

theorem openBlockHere_outside (token : Token) :
    (outside progress key rest line column keyAllowed).openBlockHere token =
      outside (progress.enter column token) key rest line column keyAllowed := by
  have hflow : (outside progress key rest line column keyAllowed).inFlow = false := rfl
  unfold openBlockHere openBlock Progress.enter
  rw [hflow, Bool.false_or]
  by_cases h : (column : Int) ≤ progress.indent
  · simp [outside, h]
  · simp [outside, h, insertAfter, Progress.openAt]

/-- The dash before an item. -/
theorem reads_dash (hcolumn : progress.indent ≤ column) :
    (outside progress none ('-' :: ' ' :: rest) line column true).Reads
      (outside ((progress.enter column .blockSequenceStart).push [.blockEntry]) none rest line
        (column + 2) true) := by
  have hstep : (outside progress none ('-' :: ' ' :: rest) line column true).step? =
      some (outside ((progress.enter column .blockSequenceStart).push [.blockEntry]) none
        (' ' :: rest) line (column + 1) true) := by
    rw [step?_outside (by decide) hcolumn, lexeme_dash, blockEntry, openBlockHere_outside]
    rfl
  exact .of_step? hstep advance_space (Nat.lt_add_of_pos_right Nat.two_pos)

/-- The question mark before a key. -/
theorem reads_questionMark (hcolumn : progress.indent ≤ column) :
    (outside progress none ('?' :: ' ' :: rest) line column true).Reads
      (outside ((progress.enter column .blockMappingStart).push [.key]) none rest line
        (column + 2) true) := by
  have hstep : (outside progress none ('?' :: ' ' :: rest) line column true).step? =
      some (outside ((progress.enter column .blockMappingStart).push [.key]) none
        (' ' :: rest) line (column + 1) true) := by
    rw [step?_outside (by decide) hcolumn, lexeme_questionMark, explicitKey, openBlockHere_outside]
    rfl
  exact .of_step? hstep advance_space (Nat.lt_add_of_pos_right Nat.two_pos)

/-- The colon before the value of a key that stands on lines of its own. -/
theorem reads_colon (hcolumn : progress.indent = column) :
    (outside progress none (':' :: ' ' :: rest) line column true).Reads
      (outside (progress.push [.value]) none rest line (column + 2) true) := by
  have henter : progress.enter column .blockMappingStart = progress := by
    rw [Progress.enter, if_pos (by omega)]
  have hstep : (outside progress none (':' :: ' ' :: rest) line column true).step? =
      some (outside (progress.push [.value]) none (' ' :: rest) line (column + 1) true) := by
    rw [step?_outside (by decide) (by omega), lexeme_colon _ rfl]
    change (do
      let lexer := (outside progress none (':' :: ' ' :: rest) line column true).openBlockHere
        .blockMappingStart
      return { (lexer.push .value).skip 1 with keyAllowed := !lexer.inFlow } : Option Lexer) = _
    rw [openBlockHere_outside, henter]
    rfl
  exact .of_step? hstep advance_space (Nat.lt_add_of_pos_right Nat.two_pos)

/-! ### Keys -/

/-- Where a key starts that is found at a place. -/
def Progress.keyStart (progress : Progress) (line column : Nat) : KeyStart where
  tokensBefore := progress.tokens.length
  line := line
  column := column
  required := progress.indent == column

theorem markKeyStart_outside :
    (outside progress none rest line column keyAllowed).markKeyStart =
      some (outside progress (if keyAllowed then some (progress.keyStart line column) else none)
        rest line column keyAllowed) := by
  cases keyAllowed <;> rfl

/-- A key that may have started on an earlier line is forgotten, if its place was inside a
collection. -/
theorem advance_keyStart {progress' : Progress} {line' : Nat} {keyAllowed' : Bool}
    (hcolumn : progress.indent < column) (hline : line < line') :
    (outside progress' (if keyAllowed then some (progress.keyStart line column) else none) rest
        line' 0 keyAllowed').advance =
      (outside progress' none rest line' 0 keyAllowed').advance := by
  cases keyAllowed with
  | false => rfl
  | true =>
    refine advance_stale hline ?_
    simp only [Progress.keyStart, beq_eq_false_iff_ne]
    omega

/-- The mapping and the key are announced before the tokens that follow the start of the key. -/
theorem valueMark_outside (scalar : Token) (column' : Nat) :
    (outside (progress.push [scalar]) (some (progress.keyStart line column)) (':' :: rest) line
        column' false).valueMark =
      some (outside ((progress.enter column .blockMappingStart).push [.value, scalar, .key]) none
        rest line (column' + 1) false) := by
  have hone : progress.tokens.length + 1 - progress.tokens.length = 1 := by omega
  have htwo : progress.tokens.length + 1 + 1 - progress.tokens.length = 2 := by omega
  unfold valueMark
  by_cases h : (column : Int) ≤ progress.indent
  · simp [outside, h, insertAfter, openBlock, Progress.enter, Progress.push, Progress.keyStart,
      hone, inFlow, push, skip]
  · simp [outside, h, insertAfter, openBlock, Progress.enter, Progress.push, Progress.keyStart,
      hone, htwo, inFlow, push, skip, Progress.openAt]

/-- The colon behind a key announces the key where it started. -/
theorem reads_keyColon {scalar : Token} {width : Nat} (hcolumn : progress.indent ≤ column)
    (hwidth : width ≤ greatestKeyLength) (hend : endsWord rest = true) :
    (outside (progress.push [scalar]) (some (progress.keyStart line column)) (':' :: rest) line
        (column + width) false).Reads
      (outside ((progress.enter column .blockMappingStart).push [.value, scalar, .key]) none rest
        line (column + width + 1) false) := by
  have hstep : (outside (progress.push [scalar]) (some (progress.keyStart line column))
      (':' :: rest) line (column + width) false).step? =
      some (outside ((progress.enter column .blockMappingStart).push [.value, scalar, .key]) none
        rest line (column + width + 1) false) := by
    have hadvance := @advance_colon (progress.push [scalar]) rest line (column + width) false
      (progress.keyStart line column) rfl (Nat.add_le_add_left hwidth _)
      (by rw [Progress.indent_push]; omega)
    rw [step?, hadvance, Option.bind_eq_bind, Option.bind_some]
    change lexeme _ ':' rest = _
    rw [lexeme_colon _ hend]
    exact valueMark_outside _ _
  exact .of_step? hstep rfl (Nat.lt_succ_self _)

/-! ### Empty collections -/

/-- Two brackets that belong together. -/
structure Brackets where
  /-- The opening bracket. -/
  left : Char
  /-- The closing bracket. -/
  right : Char
  /-- The token for the opening bracket. -/
  leftToken : Token
  /-- The token for the closing bracket. -/
  rightToken : Token

/-- The brackets of a sequence. -/
def Brackets.sequence : Brackets :=
  ⟨'[', ']', .flowSequenceStart, .flowSequenceEnd⟩

/-- The brackets of a mapping. -/
def Brackets.mapping : Brackets :=
  ⟨'\x7b', '\x7d', .flowMappingStart, .flowMappingEnd⟩

/-- What the lexer does at the brackets of a kind. -/
structure Brackets.Known (brackets : Brackets) : Prop where
  startsToken_left : startsToken brackets.left = true
  startsToken_right : startsToken brackets.right = true
  lexeme_left (lexer : Lexer) (rest : List Char) :
    lexer.lexeme brackets.left rest = lexer.openFlow brackets.leftToken
  lexeme_right (lexer : Lexer) (rest : List Char) :
    lexer.lexeme brackets.right rest = lexer.closeFlow brackets.rightToken

theorem Brackets.known_sequence : Brackets.sequence.Known :=
  ⟨by decide, by decide, lexeme_openSequence, lexeme_closeSequence⟩

theorem Brackets.known_mapping : Brackets.mapping.Known :=
  ⟨by decide, by decide, lexeme_openMapping, lexeme_closeMapping⟩

/-- The state between the brackets of an empty collection. -/
def inside (progress : Progress) (key : Option KeyStart) (rest : List Char) (line column : Nat) :
    Lexer :=
  { outside progress none rest line column true with outerKeyStarts := [key] }

/-- The key that may have started at the opening bracket is not forgotten before the other one. -/
theorem advance_inside {c : Char} (hc : startsToken c = true) (progress' : Progress) :
    (inside progress' (if keyAllowed then some (progress.keyStart line column) else none)
        (c :: rest) line (column + 1)).advance =
      some (inside progress' (if keyAllowed then some (progress.keyStart line column) else none)
        (c :: rest) line (column + 1)) := by
  have hnear : ¬ column + greatestKeyLength < column + 1 := by
    simp only [greatestKeyLength]
    omega
  have hskip : skipToToken true true false line (column + 1) (c :: rest) =
      (⟨c :: rest, line, column + 1⟩, true) := skipToToken_start hc
  cases keyAllowed <;>
    simp [advance, inside, outside, inFlow, hskip, moveTo, refreshKeyStarts, refreshKeyStart,
      Progress.keyStart, hnear, closeBlocks]

/-- An empty collection, up to the end of its line. -/
theorem reads_brackets {brackets : Brackets} (h : brackets.Known)
    (hcolumn : progress.indent < column) :
    (outside progress none (brackets.left :: brackets.right :: '\n' :: rest) line column
        keyAllowed).Reads
      (outside (progress.push [brackets.rightToken, brackets.leftToken]) none rest (line + 1) 0
        true) := by
  have hleft : (outside progress none (brackets.left :: brackets.right :: '\n' :: rest) line column
      keyAllowed).step? =
      some (inside (progress.push [brackets.leftToken])
        (if keyAllowed then some (progress.keyStart line column) else none)
        (brackets.right :: '\n' :: rest) line (column + 1)) := by
    rw [step?_outside h.startsToken_left (by omega), h.lexeme_left, openFlow, markKeyStart_outside]
    rfl
  have hright : (inside (progress.push [brackets.leftToken])
      (if keyAllowed then some (progress.keyStart line column) else none)
      (brackets.right :: '\n' :: rest) line (column + 1)).step? =
      some (outside (progress.push [brackets.rightToken, brackets.leftToken])
        (if keyAllowed then some (progress.keyStart line column) else none) ('\n' :: rest) line
        (column + 2) false) := by
    rw [step?, advance_inside h.startsToken_right, Option.bind_eq_bind, Option.bind_some]
    change lexeme _ brackets.right _ = _
    rw [h.lexeme_right]
    rfl
  have hmiddle := Reads.of_step? hleft rfl (Nat.lt_succ_self _)
  refine hmiddle.trans (.of_step? hright ?_ ?_)
  · rw [advance_newline, advance_keyStart hcolumn (Nat.lt_succ_self line)]
  · exact Nat.lt_add_of_pos_right Nat.two_pos

end Marks

end Lexer

end Yaml

end CommandTree
