import CommandTree.Proofs.Declaration.Lowerable

/-!
# Spelling a meaning again

A text has a meaning, and a meaning can be written as a text again: between quotes, as a truth word,
in decimal digits, or as the word for an absent value.  That text need not be the one it came from,
which may have had no quotes, or a plus sign and zeros before a number; but it has the same meaning.

* `Literal.spelling` is the text for a meaning.
* `spellsInteger_toString` : a printed integer spells itself.
* `Literal.ofTyped_spelling` and `Literal.ofText_spelling` : a spelled meaning is understood as that
  meaning, under the type or the key of the text it came from.
* `Interpreted.ofAttributes_respell` : spelling all attributes but the type again keeps the meaning
  of all of them.
* `spelling_idempotent` : both of these statements.
-/

namespace CommandTree

/-! ### Texts for meanings -/

/-- How a document writes a meaning: a text between double quotes, a truth word, decimal digits with
a minus sign before them if needed, or the word for an absent value. -/
def Literal.spelling : Literal → String
  | text value => "\"" ++ value ++ "\""
  | truth true => "True"
  | truth false => "False"
  | integer value => toString value
  | absent => absentWord

/-- The digits of a number spell it. -/
theorem isNatural_toDigits (n : Nat) : IsNatural (Nat.toDigits 10 n) := by
  refine ⟨Nat.toDigits_ne_nil, ?_⟩
  intro digit hdigit
  exact Nat.isDigit_of_mem_toDigits (by decide) (by decide) hdigit

/-- **A printed integer spells itself.** -/
theorem spellsInteger_toString (value : Int) : SpellsInteger (toString value).toList value := by
  have hdigits : ∀ n : Nat, n.repr.toList = Nat.toDigits 10 n := by
    intro n
    rw [Nat.repr, String.toList_ofList]
  rw [show toString value = value.repr from rfl, Int.repr_eq_if]
  by_cases hsign : 0 ≤ value
  · have hspells := SpellsInteger.natural (isNatural_toDigits value.toNat)
    rw [Nat.ofDigitChars_ten_toDigits, Int.toNat_of_nonneg hsign] at hspells
    rwa [if_pos hsign, hdigits]
  · have hspells := SpellsInteger.minus (isNatural_toDigits (-value).toNat)
    have hvalue : -((-value).toNat : Int) = value := by omega
    rw [Nat.ofDigitChars_ten_toDigits, hvalue] at hspells
    rwa [if_neg hsign, String.toList_append, hdigits]

/-- The word for an absent value spells no integer. -/
theorem not_spellsInteger_absentWord (value : Int) : ¬ SpellsInteger absentWord.toList value := by
  have hword : absentWord.toList = ['N', 'o', 'n', 'e'] := by decide
  rw [hword]
  rintro (⟨-, hdigits⟩ | _ | _)
  exact absurd (hdigits 'N' List.mem_cons_self) (by decide)

namespace Literal

/-- Only an absent value is spelled like one. -/
theorem eq_absent_of_spelling {literal : Literal} (h : literal.spelling = absentWord) :
    literal = absent := by
  cases literal with
  | text value =>
    have hquoted : IsQuoted absentWord := ⟨value, h.symm⟩
    exact absurd hquoted (by decide)
  | truth value =>
    cases value with
    | true => exact absurd h (by decide)
    | false => exact absurd h (by decide)
  | integer value =>
    have hspells := spellsInteger_toString value
    rw [show toString value = absentWord from h] at hspells
    exact absurd hspells (not_spellsInteger_absentWord value)
  | absent => rfl

/-- A meaning under a type is that of its spelling: quotes come off once, and an integer of 64 bits
stays one. -/
theorem ofTyped_spelling {type : ValueType} {key raw : String} {literal : Literal}
    (h : ofTyped type key raw = .ok literal) : ofTyped type key literal.spelling = .ok literal := by
  cases type with
  | integer =>
    rw [ofTyped] at h
    cases hvalue : integer64? raw with
    | none =>
      rw [hvalue] at h
      cases h
    | some value =>
      rw [hvalue] at h
      obtain rfl := Except.ok.inj h
      have hspelled : integer64? (toString value) = some value :=
        integer64?_eq_some.2 ⟨spellsInteger_toString value, (integer64?_eq_some.1 hvalue).2⟩
      show ofTyped .integer key (toString value) = _
      rw [ofTyped, hspelled]
  | text =>
    obtain rfl := Except.ok.inj h
    show Except.ok (text (unquote ("\"" ++ unquote raw ++ "\""))) = _
    rw [unquote_quoted]
  | truth =>
    rw [ofTyped] at h
    split_ifs at h
    · obtain rfl := Except.ok.inj h
      rfl
    · obtain rfl := Except.ok.inj h
      rfl
  | absent => exact h

/-- A meaning under a key is that of its spelling. -/
theorem ofText_spelling {key raw : String} {literal : Literal} (h : ofText key raw = .ok literal) :
    ofText key literal.spelling = .ok literal := by
  by_cases hspelling : literal.spelling = absentWord
  · rw [ofText, if_pos hspelling, eq_absent_of_spelling hspelling]
  · rw [ofText, if_neg hspelling]
    have hraw : raw ≠ absentWord := by
      rintro rfl
      obtain rfl := Except.ok.inj h
      exact hspelling rfl
    rw [ofText, if_neg hraw] at h
    cases hlookup : ValueType.lookup key with
    | none =>
      rw [hlookup] at h
      cases h
    | some type =>
      rw [hlookup] at h
      exact ofTyped_spelling h

end Literal

/-! ### Attributes -/

/-- A meaning of an attribute, which may have the declared type, is that of its spelling. -/
theorem interpretAttribute_spelling {valueType : Option ValueType} {key raw : String}
    {literal : Literal} (h : interpretAttribute valueType key raw = .ok literal) :
    interpretAttribute valueType key literal.spelling = .ok literal := by
  by_cases hkey : key = defaultKey
  · subst hkey
    cases valueType with
    | none =>
      have hdefault : Literal.ofText defaultKey raw = .ok literal := h
      exact Literal.ofText_spelling hdefault
    | some type =>
      rw [interpretAttribute_default] at h ⊢
      by_cases hspelling : literal.spelling = absentWord
      · rw [if_pos hspelling, Literal.eq_absent_of_spelling hspelling]
      · rw [if_neg hspelling]
        split_ifs at h
        · obtain rfl := Except.ok.inj h
          exact absurd rfl hspelling
        · exact Literal.ofTyped_spelling h
  · rw [interpretAttribute_of_ne hkey] at h ⊢
    exact Literal.ofText_spelling h

namespace Interpreted

/-- The attributes with a new text for each but the type: the spelling of its meaning. -/
def respell (meaning : Interpreted) (attributes : OrderedMap String) : OrderedMap String :=
  attributes.mapValues fun key raw =>
    if key = typeKey then raw
    else ((meaning.attributes.get? key).map Literal.spelling).getD raw

variable {attributes : OrderedMap String} {meaning : Interpreted}

theorem get?_respell_typeKey :
    (meaning.respell attributes).get? typeKey = attributes.get? typeKey := by
  rw [respell, OrderedMap.get?_mapValues]
  cases attributes.get? typeKey with
  | none => rfl
  | some raw => rw [Option.map_some, if_pos rfl]

/-- As the attributes have a meaning, all of them but the type are spelled again. -/
theorem get?_respell (h : ofAttributes attributes = .ok meaning) {key : String}
    (hkey : key ≠ typeKey) :
    (meaning.respell attributes).get? key =
      (meaning.attributes.get? key).map Literal.spelling := by
  rw [respell, OrderedMap.get?_mapValues]
  have hrel := rel_get? h hkey
  cases hraw : attributes.get? key with
  | none =>
    rw [hraw] at hrel
    cases hmeaning : meaning.attributes.get? key with
    | none => rfl
    | some literal =>
      rw [hmeaning] at hrel
      cases hrel
  | some raw =>
    rw [hraw] at hrel
    cases hmeaning : meaning.attributes.get? key with
    | none =>
      rw [hmeaning] at hrel
      cases hrel
    | some literal => simp [hkey]

/-- **Spelling all attributes but the type again keeps their meaning.** -/
theorem ofAttributes_respell (h : ofAttributes attributes = .ok meaning) :
    ofAttributes (meaning.respell attributes) = .ok meaning := by
  obtain ⟨htype, hmembers⟩ := ofAttributes_eq_ok.1 h
  refine ofAttributes_eq_ok.2 ⟨?_, ?_⟩
  · rw [declaredType, get?_respell_typeKey]
    exact htype
  · rw [respell, OrderedMap.erase_mapValues, OrderedMap.toList_mapValues, List.forall₂_map_left_iff]
    -- every member stands beside its meaning, which is found under its key
    obtain ⟨hlength, hpairs⟩ := List.forall₂_iff_zip.1 hmembers
    refine List.forall₂_iff_zip.2 ⟨hlength, ?_⟩
    rintro ⟨key, raw⟩ ⟨key', literal⟩ hmem
    obtain ⟨rfl, hliteral⟩ := hpairs hmem
    obtain ⟨hattribute, hmeaning⟩ := List.of_mem_zip hmem
    have hkey : key ≠ typeKey := of_decide_eq_true (List.mem_filter.1 hattribute).2
    have hget : meaning.attributes.get? key = some literal :=
      Members.get?_eq_some_of_mem meaning.attributes.distinct hmeaning
    refine ⟨rfl, ?_⟩
    show interpretAttribute meaning.valueType key
      (if key = typeKey then raw
        else ((meaning.attributes.get? key).map Literal.spelling).getD raw) = .ok literal
    rw [if_neg hkey, hget]
    exact interpretAttribute_spelling hliteral

end Interpreted

/-- **Spelling a meaning again does not change it.**  The attributes of which all but the type are
spelled by their meanings have the same keys in the same order and the same meaning, and so has a
single text under its key. -/
theorem spelling_idempotent :
    (∀ (attributes : OrderedMap String) (meaning : Interpreted),
      Interpreted.ofAttributes attributes = .ok meaning →
        (meaning.respell attributes).keys = attributes.keys ∧
        (meaning.respell attributes).get? typeKey = attributes.get? typeKey ∧
        (∀ key, key ≠ typeKey → (meaning.respell attributes).get? key =
          (meaning.attributes.get? key).map Literal.spelling) ∧
        Interpreted.ofAttributes (meaning.respell attributes) = .ok meaning) ∧
    ∀ (key raw : String) (literal : Literal), Literal.ofText key raw = .ok literal →
      Literal.ofText key literal.spelling = .ok literal := by
  refine ⟨?_, fun key raw literal h => Literal.ofText_spelling h⟩
  intro attributes meaning h
  exact ⟨OrderedMap.keys_mapValues _ attributes, Interpreted.get?_respell_typeKey,
    fun key hkey => Interpreted.get?_respell h hkey, Interpreted.ofAttributes_respell h⟩

/-- Attributes in spellings of which only one is that of a meaning. -/
def countAttributes : OrderedMap String :=
  .ofList [("name", "count"), ("default", "+007"), ("type", "INT"), ("help", "\"\"None\"\""),
    ("required", "True"), ("prompt", "\""), ("str", "None")]

/-- Their meaning. -/
def countMeaning : Interpreted :=
  ⟨.ofList [("name", .text "count"), ("default", .integer 7), ("help", .text "\"None\""),
    ("required", .truth true), ("prompt", .text "\""), ("str", .absent)], some .integer⟩

theorem spelling_idempotent_countAttributes :
    (Interpreted.ofAttributes countAttributes = .ok countMeaning ∧
      countMeaning.respell countAttributes =
        .ofList [("name", "\"count\""), ("default", "7"), ("type", "INT"),
          ("help", "\"\"None\"\""), ("required", "True"), ("prompt", "\"\"\""),
          ("str", "None")] ∧
      Interpreted.ofAttributes (countMeaning.respell countAttributes) = .ok countMeaning) ∧
    Literal.ofText "INT" "-0012" = .ok (.integer (-12)) ∧
      Literal.ofText "INT" (Literal.integer (-12)).spelling = .ok (.integer (-12)) := by
  have hmeaning : Interpreted.ofAttributes countAttributes = .ok countMeaning := by
    decide +kernel
  have hinteger : Literal.ofText "INT" "-0012" = .ok (.integer (-12)) := by decide +kernel
  obtain ⟨-, -, -, hrespelled⟩ := spelling_idempotent.1 _ _ hmeaning
  exact ⟨⟨hmeaning, by decide +kernel, hrespelled⟩, hinteger, spelling_idempotent.2 _ _ _ hinteger⟩

end CommandTree
