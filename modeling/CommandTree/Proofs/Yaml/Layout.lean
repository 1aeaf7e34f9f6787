import CommandTree.Proofs.Json.RoundTrip
import CommandTree.Proofs.Yaml.ScalarTokens

/-!
# Values that are read back as tokens

The text of a value is laid out by columns: items and members stand below each other, each level is
indented further, but the items of a sequence stand below the key they belong to.  The lexer finds
the tokens of the value in it, with the collections opened and closed where the value has them.

* `Json.tokens` is what a value is read as.
* `Lexer.ReadsBlock` and `Lexer.ReadsMember` say that a value is read back at a column of its own
  and behind a key; `Lexer.readsBack` proves both of every value.
* `ofChars?_writeValue` : the tokens of a whole text.
-/

namespace CommandTree

/-! ### Tokens of a value -/

namespace Json

open Yaml

mutual

/-- The tokens of a value.  `flat` says whether it belongs to a key on its line, where a sequence
does not open a collection of its own. -/
def tokens (flat : Bool) : Json → List Token
  | .null => [.scalar .plain "null"]
  | .bool value => [.scalar .plain (if value then "true" else "false")]
  | .number value => [.scalar .plain (String.ofList (numberChars value))]
  | .string text => [.scalar (styleOf text) text]
  | .array [] => [.flowSequenceStart, .flowSequenceEnd]
  | .array items =>
    if flat then itemTokens items else .blockSequenceStart :: (itemTokens items ++ [.blockEnd])
  | .object [] => [.flowMappingStart, .flowMappingEnd]
  | .object members => .blockMappingStart :: (memberTokens members ++ [.blockEnd])

/-- The tokens of some items. -/
def itemTokens : List Json → List Token
  | [] => []
  | item :: rest => .blockEntry :: (tokens false item ++ itemTokens rest)

/-- The tokens of some members. -/
def memberTokens : List (String × Json) → List Token
  | [] => []
  | (key, value) :: rest =>
    .key :: .scalar (styleOf key) key :: .value ::
      (tokens (isSimpleKey key) value ++ memberTokens rest)

end

/-- Whether a value is an array or an object. -/
def IsCollection : Json → Prop
  | .array _ | .object _ => True
  | _ => False

end Json

namespace Yaml

namespace Lexer

open Json (itemTokens memberTokens)

/-- A value is read back at a column of its own.  A scalar stands two columns further right than
its collection. -/
def ReadsBlock (value : Json) : Prop :=
  ∀ (progress : Progress) (line column : Nat) (more : List Char),
    progress.indent < column → -1 ≤ progress.indent →
    (value.IsCollection ∨ ∃ parent : Nat, progress.indent = parent ∧ column = parent + 2) →
    Below progress.indent more →
    ∃ line', (outside progress none (writeValue column value ++ more) line column true).Reads
      (outside (progress.push (value.tokens false).reverse) none more line' 0 true)

/-- What stands between the colon of a key on one line and its value. -/
def keyGap (column : Nat) : Json → List Char
  | .array (_ :: _) => '\n' :: margin column
  | .object (_ :: _) => '\n' :: margin (column + 2)
  | _ => [' ']

/-- A value is read back behind a key on one line. -/
def ReadsMember (value : Json) : Prop :=
  ∀ (progress : Progress) (key : String) (line column column' : Nat) (more : List Char),
    isSimpleKey key = true → progress.indent = column → column < column' →
    Below progress.indent more →
    ∃ line', (outside progress none
        (keyGap column value ++ (writeValue (valueColumn column key value) value ++ more)) line
        column' false).Reads
      (outside (progress.push (value.tokens true).reverse) none more line' 0 true)

/-! ### What follows -/

section Below

variable {column : Nat} {more : List Char}

/-- Items stand at the column of their sequence. -/
theorem below_writeItems (items : List Json) (h : Below column more) :
    Below column (writeItems column items ++ more) := by
  cases items with
  | nil => exact h
  | cons item rest =>
    rw [writeItems, List.append_assoc, List.append_assoc]
    exact .line (Int.le_refl _) (by decide)

theorem exists_writeKey_eq_cons (column : Nat) (key : String) (value : Json) :
    ∃ c rest, writeKey column key value = c :: rest ∧ startsToken c = true := by
  unfold writeKey
  split
  · obtain ⟨c, rest, hkey, hc⟩ := exists_writeScalar_eq_cons (column + 2) key
    rw [hkey]
    exact ⟨c, _, rfl, hc⟩
  · exact ⟨'?', _, rfl, by decide⟩

/-- Keys stand at the column of their mapping. -/
theorem below_writeMembers (members : List (String × Json)) (h : Below column more) :
    Below column (writeMembers column members ++ more) := by
  cases members with
  | nil => exact h
  | cons member rest =>
    obtain ⟨key, value⟩ := member
    obtain ⟨c, written, hkey, hc⟩ := exists_writeKey_eq_cons column key value
    rw [writeMembers, hkey, List.append_assoc, List.append_assoc, List.append_assoc,
      List.cons_append]
    exact .line (Int.le_refl _) hc

end Below

/-! ### Scalars and empty collections -/

section Leaves

variable {progress : Progress} {line column parent : Nat} {keyAllowed : Bool} {more : List Char}

/-- Whether a value is written on a line, or as a scalar. -/
def IsLeaf : Json → Prop
  | .array (_ :: _) | .object (_ :: _) => False
  | _ => True

theorem reads_word {word : String} {chars : List Char} (hword : word.toList = chars)
    (hfits : fitsPlain chars = true) (hchars : chars ≠ []) (hindent : 0 ≤ progress.indent)
    (hcolumn : progress.indent < column) (hmore : Below progress.indent more) :
    ∃ line', (outside progress none (chars ++ '\n' :: more) line column keyAllowed).Reads
      (outside (progress.push [.scalar .plain word]) none more line' 0 true) := by
  have hread := @reads_plainLine _ line _ keyAllowed _ _ hindent hcolumn hfits hchars hmore
  rw [← hword, String.ofList_toList] at hread
  rw [← hword]
  exact ⟨line + 1, hread⟩

/-- Scalars and empty collections are read back inside a collection, also behind a key. -/
theorem reads_leaf {value : Json} (hreadable : value.Readable) (hleaf : IsLeaf value) (flat : Bool)
    (hindent : progress.indent = parent) (hcolumn : parent < column)
    (hmore : Below progress.indent more) :
    ∃ line', (outside progress none (writeValue (parent + 2) value ++ more) line column
        keyAllowed).Reads
      (outside (progress.push (value.tokens flat).reverse) none more line' 0 true) := by
  have hindent' : 0 ≤ progress.indent := by omega
  have hcolumn' : progress.indent < column := by omega
  cases hreadable with
  | null => exact reads_word rfl (by decide) (by decide) hindent' hcolumn' hmore
  | bool value =>
    cases value with
    | true => exact reads_word rfl (by decide) (by decide) hindent' hcolumn' hmore
    | false => exact reads_word rfl (by decide) (by decide) hindent' hcolumn' hmore
  | string text =>
    rw [writeValue]
    exact reads_scalarLine text hindent hcolumn hmore
  | @array items hitems =>
    cases items with
    | nil => exact ⟨line + 1, reads_brackets Brackets.known_sequence hcolumn'⟩
    | cons item rest => exact hleaf.elim
  | @object members hkeys hmembers =>
    cases members with
    | nil => exact ⟨line + 1, reads_brackets Brackets.known_mapping hcolumn'⟩
    | cons member rest => exact hleaf.elim

end Leaves

/-! ### Items -/

section Items

variable {progress : Progress} {line column : Nat} {more : List Char}

/-- The margin of a line is skipped. -/
theorem reads_margin (width : Nat) (rest : List Char) :
    (outside progress none (margin width ++ rest) line 0 true).Reads
      (outside progress none rest line width true) := by
  have hadvance := @advance_margin progress none rest line 0 true width
  rw [Nat.zero_add] at hadvance
  exact .of_advance (by simp [outside]) hadvance

theorem Progress.enter_of_le {token : Token} (h : (column : Int) ≤ progress.indent) :
    progress.enter column token = progress := if_pos h

theorem Progress.enter_of_lt {token : Token} (h : progress.indent < column) :
    progress.enter column token = progress.openAt column token :=
  if_neg (Int.not_le.2 h)

theorem Progress.indent_enter {token : Token} (h : progress.indent ≤ column) :
    (progress.enter column token).indent = column := by
  rw [enter]
  split
  · omega
  · rfl

theorem reads_item {item : Json} (hitem : ReadsBlock item) (hcolumn : progress.indent ≤ column)
    (hmore : Below column more) :
    ∃ line', (outside progress none ('-' :: ' ' :: (writeValue (column + 2) item ++ more)) line
        column true).Reads
      (outside ((progress.enter column .blockSequenceStart).push
        (.blockEntry :: item.tokens false).reverse) none more line' 0 true) := by
  have hindent : ((progress.enter column .blockSequenceStart).push [.blockEntry]).indent = column :=
    Progress.indent_enter hcolumn
  obtain ⟨line', hread⟩ := hitem _ line (column + 2) more (by omega) (by omega)
    (.inr ⟨column, hindent, rfl⟩) (hindent ▸ hmore)
  refine ⟨line', (reads_dash hcolumn).trans ?_⟩
  simpa using hread

theorem reads_items {items : List Json} (hitems : ∀ item ∈ items, ReadsBlock item)
    (hcolumn : progress.indent = column) (hmore : Below column more) :
    ∃ line', (outside progress none (writeItems column items ++ more) line 0 true).Reads
      (outside (progress.push (itemTokens items).reverse) none more line' 0 true) := by
  induction items generalizing progress line with
  | nil => exact ⟨line, .refl _⟩
  | cons item rest ih =>
    obtain ⟨hitem, hrest⟩ := List.forall_mem_cons.1 hitems
    obtain ⟨line₁, hread⟩ := @reads_item progress line column _ item hitem
      (Int.le_of_eq hcolumn) (below_writeItems rest hmore)
    rw [Progress.enter_of_le (Int.le_of_eq hcolumn.symm)] at hread
    obtain ⟨line₂, hread'⟩ := @ih (progress.push (.blockEntry :: item.tokens false).reverse) line₁
      hrest hcolumn
    have hmargin := @reads_margin progress line column
      ('-' :: ' ' :: (writeValue (column + 2) item ++ (writeItems column rest ++ more)))
    refine ⟨line₂, ?_⟩
    simpa [writeItems, itemTokens] using hmargin.trans (hread.trans hread')

/-- A collection that is read at its column is closed behind it. -/
theorem reads_close {opening : Token} {content : List Token} (hcolumn : progress.indent < column)
    (hminus : -1 ≤ progress.indent) (hmore : Below progress.indent more) :
    (outside ((progress.openAt column opening).push content.reverse) none more line 0 true).Reads
      (outside (progress.push (opening :: (content ++ [.blockEnd])).reverse) none more line 0
        true) := by
  refine .of_run (Nat.le_refl _) fun fuel => ?_
  have hclose := @run_close more line (content.reverse ++ opening :: progress.tokens) column
    progress.indent progress.outerIndents hcolumn hminus hmore fuel
  simpa [Progress.push, Progress.openAt] using hclose

theorem readsBlock_array {item : Json} {rest : List Json}
    (hitems : ∀ other ∈ item :: rest, ReadsBlock other) : ReadsBlock (.array (item :: rest)) := by
  intro progress line column more hcolumn hminus _ hmore
  obtain ⟨hitem, hrest⟩ := List.forall_mem_cons.1 hitems
  have hbelow : Below column more := hmore.mono (by omega)
  obtain ⟨line₁, hfirst⟩ := @reads_item progress line column _ item hitem
    (Int.le_of_lt hcolumn) (below_writeItems rest hbelow)
  rw [Progress.enter_of_lt hcolumn] at hfirst
  obtain ⟨line₂, hothers⟩ := @reads_items _ line₁ column more rest hrest
    (rfl : ((progress.openAt column .blockSequenceStart).push
      (.blockEntry :: item.tokens false).reverse).indent = column) hbelow
  have hclose := @reads_close progress line₂ column more .blockSequenceStart
    (itemTokens (item :: rest)) hcolumn hminus hmore
  refine ⟨line₂, ?_⟩
  have hread := (hfirst.trans hothers).trans (by simpa [itemTokens] using hclose)
  simpa [writeValue, Json.tokens, itemTokens] using hread

end Items

/-! ### Members -/

section MembersOfMapping

variable {progress : Progress} {line column : Nat} {more : List Char}

theorem writeKey_of_simple {key : String} (h : isSimpleKey key = true) (column : Nat)
    (value : Json) :
    writeKey column key value = writeScalar (column + 2) key ++ ':' :: keyGap column value := by
  unfold writeKey keyGap
  refine (if_pos h).trans ?_
  match value with
  | .array [] | .array (_ :: _) | .object [] | .object (_ :: _) => rfl
  | .null | .bool _ | .number _ | .string _ => rfl

theorem writeKey_of_not_simple {key : String} (h : ¬ isSimpleKey key = true) (column : Nat)
    (value : Json) :
    writeKey column key value =
      '?' :: ' ' :: (writeScalarLine (column + 2) key ++ (margin column ++ [':', ' '])) := by
  unfold writeKey
  rw [if_neg h]
  simp

theorem valueColumn_of_not_simple {key : String} (h : ¬ isSimpleKey key = true) (column : Nat)
    (value : Json) : valueColumn column key value = column + 2 := by
  unfold valueColumn
  split
  · rw [if_neg h]
  · rfl

/-- A member is read back, whichever way its key is written. -/
theorem reads_member {key : String} {value : Json} (hblock : ReadsBlock value)
    (hmember : ReadsMember value) (hcolumn : progress.indent ≤ column)
    (hmore : Below column more) :
    ∃ line', (outside progress none (writeKey column key value ++
        (writeValue (valueColumn column key value) value ++ more)) line column true).Reads
      (outside ((progress.enter column .blockMappingStart).push
        (.key :: .scalar (styleOf key) key :: .value :: value.tokens (isSimpleKey key)).reverse)
        none more line' 0 true) := by
  have hindent : (progress.enter column .blockMappingStart).indent = column :=
    Progress.indent_enter hcolumn
  have hbelow : Below (progress.enter column .blockMappingStart).indent more := hindent ▸ hmore
  by_cases hkey : isSimpleKey key = true
  · have hend : endsWord (keyGap column value ++
        (writeValue (valueColumn column key value) value ++ more)) = true := by
      unfold keyGap
      split <;> rfl
    obtain ⟨column', hcolumn', hread⟩ := @reads_simpleKey progress line column _ key hkey hcolumn
      hend column
    obtain ⟨line', hread'⟩ := hmember ((progress.enter column .blockMappingStart).push
      [.value, .scalar (styleOf key) key, .key]) key line column column' more hkey hindent hcolumn'
      hbelow
    refine ⟨line', ?_⟩
    rw [writeKey_of_simple hkey, hkey]
    simpa using hread.trans hread'
  · -- the key stands on lines of its own
    have hcolon : Below (column : Int)
        (margin column ++ ':' :: ' ' :: (writeValue (column + 2) value ++ more)) :=
      .line (Int.le_refl _) (by decide)
    have hquestion := @reads_questionMark progress (writeScalarLine (column + 2) key ++
      (margin column ++ ':' :: ' ' :: (writeValue (column + 2) value ++ more))) line column hcolumn
    obtain ⟨line₁, hscalar⟩ := @reads_scalarLine
      ((progress.enter column .blockMappingStart).push [.key]) line (column + 2) column true _ key
      hindent (by omega) (hindent ▸ hcolon)
    have hmargin := @reads_margin ((progress.enter column .blockMappingStart).push
      [.scalar (styleOf key) key, .key]) line₁ column
      (':' :: ' ' :: (writeValue (column + 2) value ++ more))
    have hvalueMark := @reads_colon ((progress.enter column .blockMappingStart).push
      [.scalar (styleOf key) key, .key]) (writeValue (column + 2) value ++ more) line₁ column
      hindent
    obtain ⟨line₂, hvalue⟩ := hblock ((progress.enter column .blockMappingStart).push
      [.value, .scalar (styleOf key) key, .key]) line₁ (column + 2) more
      (by rw [Progress.indent_push]; omega) (by rw [Progress.indent_push]; omega)
      (.inr ⟨column, hindent, rfl⟩) hbelow
    refine ⟨line₂, ?_⟩
    have hread := hquestion.trans (hscalar.trans (hmargin.trans (hvalueMark.trans hvalue)))
    rw [writeKey_of_not_simple hkey, valueColumn_of_not_simple hkey, Bool.eq_false_iff.2 hkey]
    simpa using hread

theorem reads_members {members : List (String × Json)}
    (hmembers : ∀ member ∈ members, ReadsBlock member.2 ∧ ReadsMember member.2)
    (hcolumn : progress.indent = column) (hmore : Below column more) :
    ∃ line', (outside progress none (writeMembers column members ++ more) line 0 true).Reads
      (outside (progress.push (memberTokens members).reverse) none more line' 0 true) := by
  induction members generalizing progress line with
  | nil => exact ⟨line, .refl _⟩
  | cons member rest ih =>
    obtain ⟨key, value⟩ := member
    obtain ⟨⟨hblock, hmember⟩, hrest⟩ := List.forall_mem_cons.1 hmembers
    obtain ⟨line₁, hread⟩ := @reads_member progress line column _ key value hblock hmember
      (Int.le_of_eq hcolumn) (below_writeMembers rest hmore)
    rw [Progress.enter_of_le (Int.le_of_eq hcolumn.symm)] at hread
    obtain ⟨line₂, hread'⟩ := @ih (progress.push (.key :: .scalar (styleOf key) key :: .value ::
      value.tokens (isSimpleKey key)).reverse) line₁ hrest hcolumn
    have hmargin := @reads_margin progress line column (writeKey column key value ++
      (writeValue (valueColumn column key value) value ++ (writeMembers column rest ++ more)))
    refine ⟨line₂, ?_⟩
    simpa [writeMembers, memberTokens] using hmargin.trans (hread.trans hread')

theorem readsBlock_object {member : String × Json} {rest : List (String × Json)}
    (hmembers : ∀ other ∈ member :: rest, ReadsBlock other.2 ∧ ReadsMember other.2) :
    ReadsBlock (.object (member :: rest)) := by
  intro progress line column more hcolumn hminus _ hmore
  obtain ⟨key, value⟩ := member
  obtain ⟨⟨hblock, hmember⟩, hrest⟩ := List.forall_mem_cons.1 hmembers
  have hbelow : Below column more := hmore.mono (by omega)
  obtain ⟨line₁, hfirst⟩ := @reads_member progress line column _ key value hblock hmember
    (Int.le_of_lt hcolumn) (below_writeMembers rest hbelow)
  rw [Progress.enter_of_lt hcolumn] at hfirst
  obtain ⟨line₂, hothers⟩ := @reads_members _ line₁ column more rest hrest
    (rfl : ((progress.openAt column .blockMappingStart).push (.key :: .scalar (styleOf key) key ::
      .value :: value.tokens (isSimpleKey key)).reverse).indent = column) hbelow
  have hclose := @reads_close progress line₂ column more .blockMappingStart
    (memberTokens ((key, value) :: rest)) hcolumn hminus hmore
  refine ⟨line₂, ?_⟩
  have hread := (hfirst.trans hothers).trans (by simpa [memberTokens] using hclose)
  simpa [writeValue, Json.tokens, memberTokens] using hread

end MembersOfMapping

/-! ### Whole values -/

section Values

variable {value : Json}

/-- A scalar or an empty collection is read back behind a key. -/
theorem readsMember_leaf (hreadable : value.Readable) (hleaf : IsLeaf value) :
    ReadsMember value := by
  intro progress key line column column' more hkey hindent hcolumn hmore
  have hplace : keyGap column value = [' '] ∧ valueColumn column key value = column + 2 := by
    match value, hleaf with
    | .array [], _ | .object [], _ => exact ⟨rfl, rfl⟩
    | .null, _ | .bool _, _ | .number _, _ | .string _, _ => exact ⟨rfl, rfl⟩
  obtain ⟨line', hread⟩ := @reads_leaf progress line (column' + 1) column false more value
    hreadable hleaf true hindent (by omega) hmore
  rw [hplace.1, hplace.2]
  exact ⟨line', .trans (.of_advance (by simp [outside]) advance_space) hread⟩

/-- A sequence with items stands below its key, a mapping with members further right. -/
theorem readsMember_array {item : Json} {rest : List Json}
    (hitems : ∀ other ∈ item :: rest, ReadsBlock other) : ReadsMember (.array (item :: rest)) := by
  intro progress key line column column' more hkey hindent hcolumn hmore
  obtain ⟨line', hread⟩ := @reads_items progress (line + 1) column more _ hitems hindent
    (hindent ▸ hmore)
  refine ⟨line', .trans (.of_advance (by simp [outside, keyGap]) advance_newline) ?_⟩
  simpa [writeItems, valueColumn, hkey, writeValue, Json.tokens] using hread

theorem readsMember_object {member : String × Json} {rest : List (String × Json)}
    (hblock : ReadsBlock (.object (member :: rest))) : ReadsMember (.object (member :: rest)) := by
  intro progress key line column column' more hkey hindent hcolumn hmore
  obtain ⟨line', hread⟩ := hblock progress (line + 1) (column + 2) more (by omega) (by omega)
    (.inl trivial) hmore
  refine ⟨line', .trans (.of_advance (by simp [outside, keyGap]) advance_newline)
    (.trans (reads_margin (column + 2) _) ?_)⟩
  simpa [valueColumn, Json.tokens] using hread

/-- A scalar or an empty collection is read back at a column of its own. -/
theorem readsBlock_leaf (hreadable : value.Readable) (hleaf : IsLeaf value) :
    ReadsBlock value := by
  intro progress line column more hcolumn hminus hplace hmore
  obtain hcollection | ⟨parent, hindent, rfl⟩ := hplace
  · cases hreadable with
    | null => exact hcollection.elim
    | bool value => exact hcollection.elim
    | string text => exact hcollection.elim
    | @array items _ =>
      cases items with
      | nil => exact ⟨line + 1, reads_brackets Brackets.known_sequence hcolumn⟩
      | cons item rest => exact hleaf.elim
    | @object members _ _ =>
      cases members with
      | nil => exact ⟨line + 1, reads_brackets Brackets.known_mapping hcolumn⟩
      | cons member rest => exact hleaf.elim
  · exact reads_leaf hreadable hleaf false hindent (by omega) hmore

/-- **Every value is read back as its tokens**, at a column of its own and behind a key. -/
theorem readsBack (h : value.Readable) : ReadsBlock value ∧ ReadsMember value := by
  induction h with
  | null => exact ⟨readsBlock_leaf .null trivial, readsMember_leaf .null trivial⟩
  | bool value => exact ⟨readsBlock_leaf (.bool _) trivial, readsMember_leaf (.bool _) trivial⟩
  | string text =>
    exact ⟨readsBlock_leaf (.string _) trivial, readsMember_leaf (.string _) trivial⟩
  | @array items hitems ih =>
    cases items with
    | nil =>
      exact ⟨readsBlock_leaf (.array hitems) trivial,
        readsMember_leaf (.array hitems) trivial⟩
    | cons item rest =>
      have hblock := fun other hother => (ih other hother).1
      exact ⟨readsBlock_array hblock, readsMember_array hblock⟩
  | @object members hkeys hmembers ih =>
    cases members with
    | nil =>
      exact ⟨readsBlock_leaf (.object hkeys hmembers) trivial,
        readsMember_leaf (.object hkeys hmembers) trivial⟩
    | cons member rest => exact ⟨readsBlock_object ih, readsMember_object (readsBlock_object ih)⟩

end Values

end Lexer

/-- **The tokens of a collection are found in its text.** -/
theorem ofChars?_writeValue {value : Json} (h : value.Readable) (hcollection : value.IsCollection) :
    Token.ofChars? (writeValue 0 value) = some (value.tokens false) := by
  obtain ⟨line, n, hn, hrun⟩ := (Lexer.readsBack h).1 ⟨[], -1, []⟩ 0 0 [] (by decide) (by decide)
    (.inl hcollection) .nil
  rw [List.append_nil] at hn hrun
  have hfuel : (writeValue 0 value).length + 1 = n + ((writeValue 0 value).length - n + 1) := by
    simp only [Lexer.outside] at hn
    omega
  rw [ofChars?_of_visible (all_writeValue h 0), hfuel]
  change Lexer.run _ (Lexer.outside ⟨[], -1, []⟩ none (writeValue 0 value) 0 0 true) = _
  rw [hrun, Lexer.run_nil]
  simp [Lexer.Progress.push, Lexer.Progress.close, Lexer.closeColumns]

end Yaml

end CommandTree
