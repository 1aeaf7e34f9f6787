import CommandTree.Proofs.Json.Positions
import CommandTree.Proofs.Outcome
import CommandTree.Schema.Loading
import Mathlib.Data.List.Infix

/-!
# Where reading a JSON text stops

Every part of the reader is given the characters that are left.  It returns the end of them, or it
fails and says how many bytes are left then, which may be in the middle of a character.  So the
bytes that are consumed at a failure are the first ones of the text, and its position designates a
byte of the text.

* `Json.ReadsWithin` : a reader returns an end of what it is given, or fails within it.
* `Json.readsWithin_readString`, `Json.readsWithin_readNumber` and `Json.readsAllWithin` : all
  readers do so.
* `Json.left_le_of_parse` : what is left of a text that is refused is some of its bytes.
* `offset_designates` : positions designate the byte where reading stopped, and every failure to
  read a schema has one.
-/

namespace CommandTree

namespace Json

/-! ### Bytes of characters -/

theorem byteCount_append (before after : List Char) :
    byteCount (before ++ after) = byteCount before + byteCount after := by
  induction before with
  | nil => exact (Nat.zero_add _).symm
  | cons c before ih =>
    show c.utf8Size + byteCount (before ++ after) = c.utf8Size + byteCount before + byteCount after
    rw [ih, Nat.add_assoc]

theorem byteCount_le_of_suffix {rest text : List Char} (h : rest <:+ text) :
    byteCount rest ≤ byteCount text := by
  obtain ⟨before, rfl⟩ := h
  rw [byteCount_append]
  exact Nat.le_add_left _ _

/-! ### Reading within what is given -/

/-- What is read from some characters ends among them: there is a value, and behind it the end of
the characters, or a failure, and some bytes of them are left. -/
def ReadsWithin {α : Type} (text : List Char) : Except Failure (α × List Char) → Prop
  | .ok (_, rest) => rest <:+ text
  | .error failure => failure.left ≤ byteCount text

section ReadsWithin

variable {α β : Type} {text rest : List Char} {cause : Cause}
  {result : Except Failure (α × List Char)}

theorem readsWithin_failBefore (h : rest <:+ text) :
    ReadsWithin text (failBefore cause rest : Except Failure (α × List Char)) :=
  byteCount_le_of_suffix h

theorem readsWithin_failAt (h : rest <:+ text) :
    ReadsWithin text (failAt cause rest : Except Failure (α × List Char)) :=
  Nat.le_trans (Nat.sub_le _ _) (byteCount_le_of_suffix h)

theorem readsWithin_failHex (h : rest <:+ text) :
    ReadsWithin text (failHex rest : Except Failure (α × List Char)) := by
  rw [failHex]
  split
  · exact readsWithin_failBefore List.nil_suffix
  · exact Nat.le_trans (Nat.sub_le _ _) (byteCount_le_of_suffix h)

theorem ReadsWithin.mono (h : ReadsWithin rest result) (hrest : rest <:+ text) :
    ReadsWithin text result := by
  cases result with
  | ok pair => exact List.IsSuffix.trans h hrest
  | error failure => exact Nat.le_trans h (byteCount_le_of_suffix hrest)

theorem ReadsWithin.cons {c : Char} (h : ReadsWithin text result) : ReadsWithin (c :: text) result :=
  h.mono (List.suffix_cons c text)

theorem ReadsWithin.bind {next : α × List Char → Except Failure (β × List Char)}
    (h : ReadsWithin text result)
    (hnext : ∀ a rest, rest <:+ text → ReadsWithin text (next (a, rest))) :
    ReadsWithin text (result >>= next) := by
  cases result with
  | ok pair => exact hnext pair.1 pair.2 h
  | error failure => exact h

/-- A value may be converted once it is read. -/
theorem ReadsWithin.bind_pure (h : ReadsWithin text result) (f : α → β) :
    ReadsWithin text (do let (a, rest) ← result; return (f a, rest)) :=
  h.bind fun _ _ hrest => hrest

end ReadsWithin

/-! ### Strings and names -/

theorem readsWithin_readString (done text : List Char) :
    ReadsWithin text (readString done text) := by
  fun_induction readString done text with
  -- the string ends, or the text
  | case2 => exact List.suffix_cons _ _
  | case1 | case3 | case11 | case12 => exact readsWithin_failBefore List.nil_suffix
  -- something is wrong with a character or an escape
  | case5 | case8 | case18 => exact readsWithin_failBefore (by simp [List.suffix_cons_iff])
  | case13 | case14 | case17 => exact readsWithin_failAt (by simp [List.suffix_cons_iff])
  | case4 | case7 | case10 | case15 => exact readsWithin_failHex (by simp [List.suffix_cons_iff])
  -- the string goes on behind a character or an escape
  | case6 | case9 | case16 | case19 =>
    rename_i ih
    exact ih.mono (by simp [List.suffix_cons_iff])

theorem readsWithin_readName (value : Json) (name text : List Char) :
    ReadsWithin text (readName value name text) := by
  fun_induction readName value name text with
  | case1 => exact List.suffix_rfl
  | case2 => exact readsWithin_failBefore List.suffix_rfl
  | case3 _ _ _ ih => exact ih.cons
  | case4 => exact readsWithin_failAt List.suffix_rfl

theorem skipSpace_suffix (text : List Char) : skipSpace text <:+ text := by
  fun_induction skipSpace text with
  | case1 _ _ _ ih => exact ih.trans (List.suffix_cons _ _)
  | case2 => exact List.suffix_rfl
  | case3 => exact List.suffix_rfl

/-! ### Numbers -/

theorem dropDigits_suffix (dropped : Nat) (text : List Char) :
    (dropDigits dropped text).2 <:+ text := by
  fun_induction dropDigits dropped text with
  | case1 _ _ _ _ ih => exact ih.trans (List.suffix_cons _ _)
  | case2 => exact List.suffix_rfl
  | case3 => exact List.suffix_rfl

theorem appendDigits_suffix (significand kept : Nat) (text : List Char) :
    (appendDigits significand kept text).rest <:+ text := by
  fun_induction appendDigits significand kept text with
  | case1 => exact List.suffix_rfl
  | case2 _ _ _ _ _ _ _ ih => exact ih.trans (List.suffix_cons _ _)
  | case3 _ _ _ digits _ _ _ dropped rest hdrop =>
    have hrest : rest <:+ digits := by simpa [hdrop] using dropDigits_suffix 1 digits
    exact hrest.trans (List.suffix_cons _ _)
  | case4 => exact List.suffix_rfl

section Numbers

variable (negative : Bool) (significand : Nat)

theorem readsWithin_finishDecimal (exponent : Int) (text : List Char) :
    ReadsWithin text (finishDecimal negative significand exponent text) := by
  rw [finishDecimal]
  split
  · exact List.suffix_rfl
  · exact readsWithin_failBefore List.suffix_rfl

theorem readsWithin_readExponentDigits (start : Int) (positive : Bool) (exponent : Nat)
    (text : List Char) :
    ReadsWithin text
      (readExponentDigits negative significand start positive exponent text) := by
  fun_induction readExponentDigits negative significand start positive exponent text with
  | case1 _ _ _ _ _ _ ih => exact ih.cons
  | case2 => exact readsWithin_failBefore (List.suffix_cons _ _)
  | case3 => exact (dropDigits_suffix _ _).trans (List.suffix_cons _ _)
  | case4 => exact readsWithin_finishDecimal negative significand _ _
  | case5 => exact readsWithin_finishDecimal negative significand _ _

theorem readsWithin_readExponent (start : Int) (text : List Char) :
    ReadsWithin text (readExponent negative significand start text) := by
  fun_cases readExponent negative significand start text with
  | case1 => exact readsWithin_failBefore List.nil_suffix
  -- there may be a sign before the digits
  | case2 positive c rest _ hsign =>
    have hdigits : c :: rest <:+ text := by grind
    exact (readsWithin_readExponentDigits negative significand start positive _ rest).cons.mono
      hdigits
  | case3 positive c rest _ hsign =>
    have hdigits : c :: rest <:+ text := by grind
    exact readsWithin_failAt hdigits

theorem readsWithin_readAfterDigits (exponent : Int) (text : List Char) :
    ReadsWithin text (readAfterDigits negative significand exponent text) := by
  fun_cases readAfterDigits negative significand exponent text with
  | case1 rest => exact (readsWithin_readExponent negative significand exponent rest).cons
  | case2 rest => exact (readsWithin_readExponent negative significand exponent rest).cons
  | case3 => exact readsWithin_finishDecimal negative significand exponent text

theorem readsWithin_readAfterInteger (exponent : Nat) (text : List Char) :
    ReadsWithin text (readAfterInteger negative significand exponent text) := by
  fun_cases readAfterInteger negative significand exponent text with
  -- a point follows
  | case1 => exact readsWithin_failBefore List.nil_suffix
  | case2 => exact readsWithin_failAt (List.suffix_cons _ _)
  | case3 rest digits =>
    exact ((readsWithin_readAfterDigits negative _ _ digits.rest).mono
      (appendDigits_suffix significand 0 rest)).cons
  -- an exponent follows
  | case4 rest => exact (readsWithin_readExponent negative significand exponent rest).cons
  | case5 rest => exact (readsWithin_readExponent negative significand exponent rest).cons
  -- the number ends
  | case6 => exact readsWithin_finishDecimal negative significand _ _
  | case7 => exact List.suffix_rfl
  | case8 => exact List.suffix_rfl
  | case9 => exact List.suffix_rfl

theorem readsWithin_readNumber (text : List Char) :
    ReadsWithin text (readNumber negative text) := by
  fun_cases readNumber negative text with
  | case1 => exact readsWithin_failBefore List.suffix_rfl
  | case2 => exact readsWithin_failAt (List.suffix_cons _ _)
  | case3 => exact (readsWithin_readAfterInteger negative 0 0 _).cons
  | case4 => exact (readsWithin_readAfterInteger negative 0 0 _).cons
  | case5 c rest _ _ digits =>
    exact ((readsWithin_readAfterInteger negative _ _ digits.rest).mono
      (appendDigits_suffix _ 1 rest)).cons
  | case6 => exact readsWithin_failAt List.suffix_rfl

end Numbers

/-! ### Values -/

/-- What the readers of values, items and members guarantee if they have some fuel. -/
structure ReadsAllWithin (fuel : Nat) : Prop where
  /-- A value is read within the text. -/
  value : ∀ levels text, ReadsWithin text (readValue fuel levels text)
  /-- So are the items of an array. -/
  items : ∀ levels done text, ReadsWithin text (readItems fuel levels done text)
  /-- So are the members of an object. -/
  members : ∀ levels done text, ReadsWithin text (readMembers fuel levels done text)

section Steps

variable {fuel : Nat} (levels : Nat)

theorem ReadsAllWithin.readValue_succ (ih : ReadsAllWithin fuel) (text : List Char) :
    ReadsWithin text (readValue (fuel + 1) levels text) := by
  refine ReadsWithin.mono ?_ (skipSpace_suffix text)
  rw [readValue]
  generalize skipSpace text = text
  split
  · exact readsWithin_failBefore List.nil_suffix
  · exact (readsWithin_readName _ _ _).cons
  · exact (readsWithin_readName _ _ _).cons
  · exact (readsWithin_readName _ _ _).cons
  · exact ((readsWithin_readString _ _).bind_pure string).cons
  · exact ((readsWithin_readNumber _ _).bind_pure number).cons
  -- an array
  · rename_i rest
    split
    · exact readsWithin_failAt List.suffix_rfl
    · refine ReadsWithin.cons (ReadsWithin.mono ?_ (skipSpace_suffix rest))
      generalize skipSpace rest = rest
      split
      · exact readsWithin_failBefore List.nil_suffix
      · exact List.suffix_cons _ _
      · exact ih.items _ _ _
  -- an object
  · rename_i rest
    split
    · exact readsWithin_failAt List.suffix_rfl
    · refine ReadsWithin.cons (ReadsWithin.mono ?_ (skipSpace_suffix rest))
      generalize skipSpace rest = rest
      split
      · exact readsWithin_failBefore List.nil_suffix
      · exact List.suffix_cons _ _
      · exact (ih.members _ _ _).cons
      · exact readsWithin_failAt List.suffix_rfl
  · split
    · exact (readsWithin_readNumber _ _).bind_pure number
    · exact readsWithin_failAt List.suffix_rfl

theorem ReadsAllWithin.readItems_succ (ih : ReadsAllWithin fuel) (done : List Json)
    (text : List Char) : ReadsWithin text (readItems (fuel + 1) levels done text) := by
  rw [readItems]
  refine (ih.value levels text).bind fun item rest hrest => ?_
  refine ReadsWithin.mono ?_ ((skipSpace_suffix rest).trans hrest)
  simp only
  generalize skipSpace rest = rest
  split
  · exact readsWithin_failBefore List.nil_suffix
  · exact List.suffix_cons _ _
  -- behind a comma stands the next item
  · rename_i rest
    refine ReadsWithin.cons (ReadsWithin.mono ?_ (skipSpace_suffix rest))
    generalize skipSpace rest = rest
    split
    · exact readsWithin_failBefore List.nil_suffix
    · exact readsWithin_failAt List.suffix_rfl
    · exact ih.items _ _ _
  · exact readsWithin_failAt List.suffix_rfl

theorem ReadsAllWithin.readMembers_succ (ih : ReadsAllWithin fuel) (done : Members Json)
    (text : List Char) : ReadsWithin text (readMembers (fuel + 1) levels done text) := by
  rw [readMembers]
  refine (readsWithin_readString [] text).bind fun key rest hrest => ?_
  refine ReadsWithin.mono ?_ ((skipSpace_suffix rest).trans hrest)
  simp only
  generalize skipSpace rest = rest
  split
  · exact readsWithin_failBefore List.nil_suffix
  -- behind a colon stands the value
  · refine ReadsWithin.cons ((ih.value levels _).bind fun value rest hrest => ?_)
    refine ReadsWithin.mono ?_ ((skipSpace_suffix rest).trans hrest)
    simp only
    generalize skipSpace rest = rest
    split
    · exact readsWithin_failBefore List.nil_suffix
    · exact List.suffix_cons _ _
    -- behind a comma stands the next key
    · rename_i rest
      refine ReadsWithin.cons (ReadsWithin.mono ?_ (skipSpace_suffix rest))
      generalize skipSpace rest = rest
      split
      · exact readsWithin_failBefore List.nil_suffix
      · exact (ih.members _ _ _).cons
      · exact readsWithin_failAt List.suffix_rfl
      · exact readsWithin_failAt List.suffix_rfl
    · exact readsWithin_failAt List.suffix_rfl
  · exact readsWithin_failAt List.suffix_rfl

end Steps

/-- All readers read within what they are given. -/
theorem readsAllWithin (fuel : Nat) : ReadsAllWithin fuel := by
  induction fuel with
  | zero =>
    refine ⟨fun _ _ => ?_, fun _ _ _ => ?_, fun _ _ _ => ?_⟩
    · exact readsWithin_failBefore List.suffix_rfl
    · exact readsWithin_failBefore List.suffix_rfl
    · exact readsWithin_failBefore List.suffix_rfl
  | succ fuel ih => exact ⟨ih.readValue_succ, ih.readItems_succ, ih.readMembers_succ⟩

/-! ### Whole texts -/

/-- **What is left of a text that is refused is some of its bytes.** -/
theorem left_le_of_parse {text : String} {failure : Failure} (h : parse text = .error failure) :
    failure.left ≤ (Position.bytes text).length := by
  have hvalue := (readsAllWithin (2 * text.toList.length + 2)).value nestingLevels text.toList
  rw [length_bytes]
  rcases bind_eq_error.1 h with hread | ⟨⟨value, rest⟩, hread, hrest⟩
  · rwa [hread] at hvalue
  -- the value was read, but it is not all of the text
  · rw [hread] at hvalue
    simp only at hrest
    split at hrest
    · cases hrest
    · obtain rfl := Except.error.inj hrest
      have hleft := byteCount_le_of_suffix ((skipSpace_suffix rest).trans hvalue)
      exact Nat.le_trans (Nat.sub_le _ _) hleft

end Json

/-- A text that cannot be parsed as JSON fails with its own failure. -/
theorem Schema.ofText_json_parseError {source text : String} {error : SchemaError}
    (refused : Schema.ofText .json source text = .error error)
    (parsing : error.code = "clitree::parse_error") :
    ∃ failure, Json.parse text = .error failure ∧ error = .malformedJson source text failure := by
  rcases bind_eq_error.1 refused with hread | ⟨value, -, hconvert⟩
  · rw [readDocument] at hread
    cases hparse : Json.parse text with
    | ok value => simp [hparse] at hread
    | error failure =>
      simp only [hparse] at hread
      exact ⟨failure, rfl, (Except.error.inj hread).symm⟩
  -- a value that is no schema is not a parse error
  · cases hschema : ofJson value with
    | ok schema => simp [hschema, pure_eq_ok] at hconvert
    | error violation =>
      simp only [hschema] at hconvert
      obtain rfl := Except.error.inj hconvert
      have hcode : (SchemaError.invalid violation).code = "clitree::validation_error" := rfl
      rw [hcode] at parsing
      exact absurd parsing (by decide)

/-- **Offsets designate the byte where reading stopped.**  The position after the first bytes of a
text designates the last one of them, or the one behind them if they end a line.  A schema that
cannot be parsed as JSON fails at the position after the bytes that were consumed, and this
designates a byte of the text or its end. -/
theorem offset_designates (text : String) :
    (∀ k ≤ (Position.bytes text).length,
      (Position.after ((Position.bytes text).take k)).offset? (Position.bytes text) =
        some (if (Position.after ((Position.bytes text).take k)).column = 0 then k else k - 1)) ∧
    ∀ (source : String) (error : SchemaError), Schema.ofText .json source text = .error error →
      error.code = "clitree::parse_error" →
      ∃ (failure : Json.Failure) (k offset : Nat),
        error = .malformedJson source text failure ∧
        k + failure.left = (Position.bytes text).length ∧
        failure.position text = Position.after ((Position.bytes text).take k) ∧
        (failure.position text).offset? (Position.bytes text) = some offset ∧
        offset ≤ (Position.bytes text).length := by
  refine ⟨fun k hk => Position.offset?_take _ hk, ?_⟩
  intro source error refused parsing
  obtain ⟨failure, hparse, rfl⟩ := Schema.ofText_json_parseError refused parsing
  have hleft := Json.left_le_of_parse hparse
  have hoffset := Position.offset?_take (Position.bytes text)
    (Nat.sub_le (Position.bytes text).length failure.left)
  refine ⟨failure, (Position.bytes text).length - failure.left, _, rfl, Nat.sub_add_cancel hleft,
    rfl, hoffset, ?_⟩
  split
  · exact Nat.sub_le _ _
  · omega

/-- An array whose second item is a sign without digits, and the text ends behind the line. -/
def loneSign : String :=
  "[\"é\",\n-\n"

/-- The first three bytes end in the middle of a character.  The whole text is consumed, as the line
feed is where a digit should be, so the position is the start of a third line. -/
theorem offset_designates_loneSign :
    (3 ≤ (Position.bytes loneSign).length ∧
      Position.after ((Position.bytes loneSign).take 3) = ⟨1, 3⟩ ∧
      Position.offset? (Position.bytes loneSign) ⟨1, 3⟩ = some 2) ∧
    Schema.ofText .json "schema.json" loneSign =
      .error (.malformedJson "schema.json" loneSign ⟨.invalidNumber, 0⟩) ∧
    (SchemaError.malformedJson "schema.json" loneSign ⟨.invalidNumber, 0⟩).code =
      "clitree::parse_error" ∧
    (Json.Failure.mk .invalidNumber 0).position loneSign = ⟨3, 0⟩ ∧
    Position.offset? (Position.bytes loneSign) ⟨3, 0⟩ = some 9 := by
  have hlength : (Position.bytes loneSign).length = 9 := by decide +kernel
  have hthree : 3 ≤ (Position.bytes loneSign).length := by
    rw [hlength]
    decide
  have hinside : Position.after ((Position.bytes loneSign).take 3) = ⟨1, 3⟩ := by decide +kernel
  have hend : (Json.Failure.mk .invalidNumber 0).position loneSign = ⟨3, 0⟩ := by decide +kernel
  have hparse : Json.parse loneSign = .error ⟨.invalidNumber, 0⟩ :=
    errorOf?_eq_some.1 (by decide +kernel)
  have refused : Schema.ofText .json "schema.json" loneSign =
      .error (.malformedJson "schema.json" loneSign ⟨.invalidNumber, 0⟩) := by
    rw [Schema.ofText, Schema.readDocument, hparse]
    rfl
  obtain ⟨hback, hrefused⟩ := offset_designates loneSign
  have hbackInside := hback 3 hthree
  rw [hinside] at hbackInside
  obtain ⟨failure, k, offset, heq, hk, hposition, hoffset, -⟩ := hrefused _ _ refused rfl
  obtain rfl : ⟨.invalidNumber, 0⟩ = failure := (SchemaError.malformedJson.inj heq).2.2
  -- nothing is left, so the whole text was consumed
  have hall : k = (Position.bytes loneSign).length := hk
  have hbackEnd := hback k (Nat.le_of_eq hall)
  rw [← hposition, hend, hall, hlength] at hbackEnd
  rw [hend] at hoffset
  obtain rfl : offset = 9 := Option.some.inj (hoffset.symm.trans hbackEnd)
  exact ⟨⟨hthree, hinside, hbackInside⟩, refused, rfl, hend, hoffset⟩

end CommandTree
