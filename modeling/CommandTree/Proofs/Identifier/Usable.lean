import CommandTree.Proofs.Identifier.Unique
import CommandTree.Proofs.Text.LetterCase

/-!
# Usable identifiers

The identifier of a text has only characters that may stand in an identifier, and is no reserved
word.  The repairs that see to this do not undo each other, so that most identifiers are their own
identifiers.  The exceptions come from capitals without a small form: one that is not at the front
opens a new word each time.

* `identifierChars` are the characters of an identifier before its ends are repaired;
  `toList_identifierOf` : the repairs add an underscore on one side.
* `IsSettled` holds for texts with the form of an identifier; `IsSettled.identifierOf_eq_iff` : such
  a text is its own identifier exactly if it has no capital after the first character.
* `isSettled_identifierOf` and `IsSettled.variant` : identifiers and their variants are settled.
* `identifierOf_usable` : what identifiers of all texts have in common, and which ones are their own
  identifiers.
-/

namespace CommandTree

/-! ### The characters of an identifier -/

/-- A character that may stand in an identifier stays, and any other one becomes an underscore. -/
def keptChar (c : Char) : Char :=
  if isIdentifierChar c then c else '_'

/-- What the first character of a text becomes. -/
def smallChars (c : Char) : List Char :=
  (lowercase c).map keptChar

/-- What any other character of a text becomes: a capital opens a new word. -/
def wordChars (c : Char) : List Char :=
  if isUppercase c then '_' :: smallChars c else smallChars c

/-- The characters of the identifier of a text, before its ends are repaired. -/
def identifierChars : List Char → List Char
  | [] => []
  | first :: rest => smallChars first ++ rest.flatMap wordChars

theorem keptChar_of_isIdentifierChar {c : Char} (h : isIdentifierChar c = true) :
    keptChar c = c :=
  if_pos h

theorem isIdentifierChar_dot : isIdentifierChar '\u0307' = false := by
  decide +kernel

/-- The underscore is neither a capital nor does it have a small form. -/
theorem underscore_spec : isUppercase '_' = false ∧ lowercase '_' = ['_'] := by
  decide +kernel

theorem keptChar_hyphen (c : Char) : keptChar (if c = '-' then '_' else c) = keptChar c := by
  split_ifs with hc
  · subst hc
    decide +kernel
  · rfl

theorem lowercase_ne_nil (c : Char) : lowercase c ≠ [] := by
  rw [lowercase]
  split_ifs
  · exact List.cons_ne_nil _ _
  · split <;> exact List.cons_ne_nil _ _

/-- All but the first character of a small form are no capitals. -/
theorem isUppercase_of_mem_tail_smallChars {c d : Char} (h : d ∈ (smallChars c).tail) :
    isUppercase d = false := by
  rw [smallChars, lowercase] at h
  split_ifs at h
  · obtain rfl : d = '_' := by simpa [keptChar, isIdentifierChar_dot] using h
    exact underscore_spec.1
  · split at h <;> cases h

theorem map_keptChar_snakeCase (text : String) :
    (snakeCase text).toList.map keptChar = identifierChars text.toList := by
  have hword : ∀ c, (if isUppercase c then '_' :: lowercase c else lowercase c).map keptChar =
      wordChars c := by
    intro c
    rw [wordChars, smallChars]
    split_ifs
    · exact congrArg (· :: (lowercase c).map keptChar)
        (keptChar_of_isIdentifierChar isIdentifierChar_underscore)
    · rfl
  rw [snakeCase, String.toList_ofList, List.map_map]
  have hkept : (keptChar ∘ fun c => if c = '-' then '_' else c) = keptChar :=
    funext keptChar_hyphen
  rw [hkept]
  cases text.toList with
  | nil => rfl
  | cons first rest =>
    simp only [identifierChars, smallChars, List.map_append, List.map_flatMap, hword]

/-- **The repairs add an underscore at the front, if there is no character or a digit comes first,
or one at the end.** -/
theorem toList_identifierOf (text : String) : ∃ opening closing,
    (identifierOf text).toList = opening ++ identifierChars text.toList ++ closing ∧
      opening = (if (identifierChars text.toList).head?.all Char.isDigit then ['_'] else []) ∧
      (closing = [] ∨ closing = ['_']) := by
  have hchars : (snakeCase text).toList.map (fun c => if isIdentifierChar c then c else '_') =
      identifierChars text.toList := map_keptChar_snakeCase text
  rw [identifierOf, hchars]
  cases identifierChars text.toList with
  | nil => exact ⟨['_'], [], rfl, rfl, .inl rfl⟩
  | cons first rest =>
    simp only [List.head?_cons, Option.all_some]
    split_ifs with hdigit hreserved
    · exact ⟨['_'], [], by simp, (if_pos hdigit).symm, .inl rfl⟩
    · exact ⟨[], ['_'], by simp, (if_neg hdigit).symm, .inr rfl⟩
    · exact ⟨[], [], by simp, (if_neg hdigit).symm, .inl rfl⟩

/-! ### Settled texts -/

/-- A text that has the form of an identifier. -/
structure IsSettled (name : String) : Prop where
  /-- It begins with a character other than a digit. -/
  head : ∃ first ∈ name.toList.head?, first.isDigit = false
  /-- Its characters are small forms. -/
  small : ∀ c ∈ name.toList, lowercase c = [c]
  /-- Its characters may stand in an identifier. -/
  chars : ∀ c ∈ name.toList, isIdentifierChar c = true
  /-- It is not reserved. -/
  notReserved : name ∉ reservedWords

theorem length_flatMap_wordChars {chars : List Char}
    (h : ∀ c ∈ chars, smallChars c = [c]) :
    (chars.flatMap wordChars).length = chars.length + chars.countP isUppercase := by
  induction chars with
  | nil => rfl
  | cons c rest ih =>
    obtain ⟨hc, hrest⟩ := List.forall_mem_cons.1 h
    rw [List.flatMap_cons, List.length_append, ih hrest, wordChars, hc, List.countP_cons,
      List.length_cons]
    split_ifs <;> simp only [List.length_cons, List.length_nil] <;> omega

theorem flatMap_wordChars_eq_self {chars : List Char} (h : ∀ c ∈ chars, smallChars c = [c])
    (hsmall : ∀ c ∈ chars, isUppercase c = false) : chars.flatMap wordChars = chars := by
  induction chars with
  | nil => rfl
  | cons c rest ih =>
    obtain ⟨hc, hrest⟩ := List.forall_mem_cons.1 h
    obtain ⟨hcsmall, hrestSmall⟩ := List.forall_mem_cons.1 hsmall
    rw [List.flatMap_cons, ih hrest hrestSmall, wordChars, hc, hcsmall]
    rfl

/-- **A settled text is its own identifier exactly if no capital stands after its first
character.** -/
theorem IsSettled.identifierOf_eq_iff {name : String} (h : IsSettled name) :
    identifierOf name = name ↔ ∀ c ∈ name.toList.tail, isUppercase c = false := by
  obtain ⟨first, hfirst, hdigit⟩ := h.head
  obtain ⟨rest, hname⟩ : ∃ rest, name.toList = first :: rest := by
    cases hlist : name.toList with
    | nil => simp [hlist] at hfirst
    | cons c rest => exact ⟨rest, by simpa [hlist] using hfirst⟩
  have hself : ∀ c ∈ first :: rest, smallChars c = [c] := by
    intro c hc
    rw [← hname] at hc
    rw [smallChars, h.small c hc, List.map_singleton, keptChar_of_isIdentifierChar (h.chars c hc)]
  obtain ⟨hselfFirst, hselfRest⟩ := List.forall_mem_cons.1 hself
  have hchars : identifierChars name.toList = first :: rest.flatMap wordChars := by
    rw [hname, identifierChars, hselfFirst, List.singleton_append]
  rw [hname, List.tail_cons]
  constructor
  · -- each capital adds an underscore, and nothing else makes the text shorter again
    intro hsame
    obtain ⟨opening, closing, hlist, -, -⟩ := toList_identifierOf name
    have hlength := congrArg List.length hlist
    rw [hsame, hchars, hname] at hlength
    simp only [List.length_append, List.length_cons, length_flatMap_wordChars hselfRest]
      at hlength
    have hnone : rest.countP isUppercase = 0 := by omega
    simpa using List.countP_eq_zero.1 hnone
  · intro hsmall
    have hsame : identifierChars name.toList = name.toList := by
      rw [hchars, flatMap_wordChars_eq_self hselfRest hsmall, hname]
    have hmap : (snakeCase name).toList.map (fun c => if isIdentifierChar c then c else '_') =
        name.toList := (map_keptChar_snakeCase name).trans hsame
    have hword : String.ofList (first :: rest) = name := by rw [← hname, String.ofList_toList]
    rw [identifierOf, hmap, hname]
    simp only [hdigit, hword, List.contains_eq_mem, h.notReserved, decide_false,
      Bool.false_eq_true, if_false]

/-! ### Identifiers are settled -/

theorem head_identifierOf (text : String) :
    ∃ first ∈ (identifierOf text).toList.head?, first.isDigit = false ∧
      (first = '_' ∨ (identifierChars text.toList).head? = some first) := by
  obtain ⟨opening, closing, hlist, hopening, -⟩ := toList_identifierOf text
  rw [hlist, hopening]
  split_ifs with hhead
  · exact ⟨'_', rfl, rfl, .inl rfl⟩
  · cases hchars : identifierChars text.toList with
    | nil => simp [hchars] at hhead
    | cons first rest =>
      rw [hchars] at hhead
      exact ⟨first, rfl, by simpa using hhead, .inr rfl⟩

theorem isSettled_identifierOf (text : String) : IsSettled (identifierOf text) := by
  obtain ⟨first, hfirst, hdigit, -⟩ := head_identifierOf text
  refine ⟨⟨first, hfirst, hdigit⟩, fun c hc => ?_,
    fun c => isIdentifierChar_of_mem_identifierOf, identifierOf_notMem_reservedWords text⟩
  obtain rfl | ⟨hc, -⟩ := mem_identifierOf hc
  · exact underscore_spec.2
  · obtain rfl | ⟨d, -, hc⟩ := mem_snakeCase hc
    · exact underscore_spec.2
    · exact lowercase_of_mem_lowercase hc

/-- Digits are neither capitals nor do they have small forms. -/
theorem digit_spec {c : Char} (h : c.isDigit = true) :
    isUppercase c = false ∧ lowercase c = [c] := by
  have hcode : ∀ n ≤ 57, 48 ≤ n → isUppercase (Char.ofNat n) = false ∧
      lowercase (Char.ofNat n) = [Char.ofNat n] := by decide +kernel
  simp only [Char.isDigit, Bool.and_eq_true, decide_eq_true_eq, UInt32.le_iff_toNat_le] at h
  have hself := hcode c.toNat h.2 h.1
  rwa [Char.ofNat_toNat] at hself

/-- The variants of a settled text are settled. -/
theorem IsSettled.variant {base : String} (h : IsSettled base) (n : Nat) :
    IsSettled (identifierVariant base n) := by
  refine ⟨?_, fun c hc => ?_, fun c => isIdentifierChar_of_mem_identifierVariant h.chars n,
    identifierVariant_notMem_reservedWords h.notReserved n⟩
  · obtain ⟨first, hfirst, hdigit⟩ := h.head
    refine ⟨first, ?_, hdigit⟩
    cases n with
    | zero => exact hfirst
    | succ n =>
      simp only [identifierVariant, String.toList_append, List.append_assoc]
      rw [List.head?_append, hfirst]
      rfl
  · obtain hc | rfl | hc := mem_identifierVariant hc
    · exact h.small c hc
    · exact underscore_spec.2
    · exact (digit_spec hc).2

/-! ### What identifiers have in common -/

/-- A number sign that is neither a letter nor one of the digits from 0 to 9. -/
def IsForeignNumeral (c : Char) : Prop :=
  isNumeric c = true ∧ isAlphabetic c = false ∧ c.isDigit = false

theorem ne_underscore_of_isUppercase {c : Char} (h : isUppercase c = true) : c ≠ '_' := by
  rintro rfl
  rw [underscore_spec.1] at h
  cases h

/-- A word opened by a character has that character as a capital only if it has no small form. -/
theorem mem_wordChars_iff {c d : Char} (hd : isUppercase d = true) :
    d ∈ wordChars c ↔ d = c ∧ IsLoneCapital c := by
  have hne := ne_underscore_of_isUppercase hd
  have hsmall : d ∈ wordChars c ↔ d ∈ smallChars c := by
    rw [wordChars]
    split_ifs
    · rw [List.mem_cons, or_iff_right hne]
    · rfl
  rw [hsmall, smallChars, List.mem_map]
  constructor
  · rintro ⟨e, he, rfl⟩
    rw [keptChar] at hd hne ⊢
    split_ifs at hd hne ⊢
    · exact isLoneCapital_of_mem_lowercase he hd
    · exact absurd rfl hne
  · rintro ⟨rfl, hself⟩
    have hchar : isIdentifierChar d = true := by
      simp [isIdentifierChar, isAlphanumeric, isAlphabetic_of_isUppercase hd]
    exact ⟨d, by simp [hself.2], keptChar_of_isIdentifierChar hchar⟩

/-- The repairs do not move a capital to or from the front. -/
theorem mem_tail_identifierOf {text : String} {c : Char} (hc : isUppercase c = true) :
    c ∈ (identifierOf text).toList.tail ↔ c ∈ (identifierChars text.toList).tail := by
  have hne := ne_underscore_of_isUppercase hc
  obtain ⟨opening, closing, hlist, hopening, hclosing⟩ := toList_identifierOf text
  have hend : c ∉ closing := by
    obtain rfl | rfl := hclosing
    · exact List.not_mem_nil
    · simpa using hne
  rw [hlist, hopening]
  cases identifierChars text.toList with
  | nil => simpa using hend
  | cons first rest =>
    rw [List.head?_cons, Option.all_some]
    split_ifs with hdigit
    · have hfirst : c ≠ first := by
        rintro rfl
        rw [(digit_spec hdigit).1] at hc
        cases hc
      simp [hfirst, hend]
    · simp [hend]

/-- The capitals of an identifier that are not at its front are the capitals without a small form
that are not at the front of the text. -/
theorem mem_tail_identifierOf_iff {text : String} {c : Char} (hc : isUppercase c = true) :
    c ∈ (identifierOf text).toList.tail ↔ c ∈ text.toList.tail ∧ IsLoneCapital c := by
  rw [mem_tail_identifierOf hc]
  cases text.toList with
  | nil => simp [identifierChars]
  | cons first rest =>
    have hnotFirst : c ∉ (smallChars first).tail := fun hmem => by
      rw [isUppercase_of_mem_tail_smallChars hmem] at hc
      cases hc
    have hne : smallChars first ≠ [] := by simpa [smallChars] using lowercase_ne_nil first
    rw [identifierChars, List.tail_append_of_ne_nil hne, List.mem_append, or_iff_right hnotFirst,
      List.mem_flatMap, List.tail_cons]
    simp only [mem_wordChars_iff hc]
    constructor
    · rintro ⟨d, hd, rfl, hlone⟩
      exact ⟨hd, hlone⟩
    · rintro ⟨hmem, hlone⟩
      exact ⟨c, hmem, rfl, hlone⟩

/-- An identifier that is not repaired at the front begins as the text does, with a letter or an
underscore if that is no numeral. -/
theorem isAlphabetic_of_head_identifierChars {text : List Char} {first : Char}
    (hforeign : ∀ c ∈ text.head?, ¬ IsForeignNumeral c) (hdigit : first.isDigit = false)
    (h : (identifierChars text).head? = some first) : isAlphabetic first = true ∨ first = '_' := by
  cases text with
  | nil => cases h
  | cons c rest =>
    have hne : smallChars c ≠ [] := by simpa [smallChars] using lowercase_ne_nil c
    rw [identifierChars, List.head?_append_of_ne_nil _ hne] at h
    obtain ⟨d, hd, rfl⟩ := List.mem_map.1 (List.mem_of_mem_head? h)
    rw [keptChar] at hdigit ⊢
    split_ifs at hdigit ⊢ with hchar
    · obtain ⟨rfl, -⟩ | rfl | ⟨hletter, -⟩ := mem_lowercase_cases hd
      · have hnotForeign := hforeign d rfl
        simp only [IsForeignNumeral, isIdentifierChar, isAlphanumeric, Bool.or_eq_true,
          beq_iff_eq] at hnotForeign hchar
        cases hletter : isAlphabetic d with
        | true => exact .inl rfl
        | false =>
          obtain (hletter' | hnumeral) | rfl := hchar
          · rw [hletter] at hletter'
            cases hletter'
          · exact absurd ⟨hnumeral, hletter, hdigit⟩ hnotForeign
          · exact .inr rfl
      · rw [isIdentifierChar_dot] at hchar
        cases hchar
      · exact .inl hletter
    · exact .inr rfl

/-- **Identifiers are usable**: they are not empty, consist of letters, number signs and
underscores, and are not reserved; they begin with a letter or an underscore, unless the text begins
with a foreign numeral; and they are their own identifiers, unless a capital without a small form
stands behind the first character of the text. -/
theorem identifierOf_usable (text : String) : ∃ first rest,
    (identifierOf text).toList = first :: rest ∧
      ((∀ c ∈ text.toList.head?, ¬ IsForeignNumeral c) → isAlphabetic first = true ∨ first = '_') ∧
      (∀ c ∈ first :: rest, isAlphanumeric c = true ∨ c = '_') ∧
      identifierOf text ∉ reservedWords ∧
      (identifierOf (identifierOf text) = identifierOf text ↔
        ∀ c ∈ text.toList.tail, ¬ IsLoneCapital c) := by
  have settled := isSettled_identifierOf text
  obtain ⟨first, hfirst, hdigit, hhead⟩ := head_identifierOf text
  obtain ⟨rest, hlist⟩ : ∃ rest, (identifierOf text).toList = first :: rest :=
    ⟨_, (List.cons_head?_tail hfirst).symm⟩
  refine ⟨first, rest, hlist, fun hforeign => ?_, fun c hc => ?_, settled.notReserved, ?_⟩
  · exact hhead.elim .inr fun hchars => isAlphabetic_of_head_identifierChars hforeign hdigit hchars
  · have hchar := settled.chars c (hlist ▸ hc)
    simpa [isIdentifierChar] using hchar
  · rw [settled.identifierOf_eq_iff]
    constructor
    · intro hsmall c hc hlone
      have hcapital := hlone.1
      rw [hsmall c ((mem_tail_identifierOf_iff hcapital).2 ⟨hc, hlone⟩)] at hcapital
      cases hcapital
    · intro hlone c hc
      by_contra hcapital
      obtain ⟨hmem, hself⟩ := (mem_tail_identifierOf_iff (by simpa using hcapital)).1 hc
      exact hlone c hmem hself

/-- A foreign numeral stays at the front, and a capital without a small form opens a new word each
time. -/
theorem identifierOf_exceptions :
    (identifierOf "٣" = "٣" ∧ isAlphabetic '٣' = false ∧ '٣' ≠ '_') ∧
      identifierOf "inℂ" = "in_ℂ" ∧ identifierOf "in_ℂ" = "in__ℂ" := by
  decide +kernel

end CommandTree
