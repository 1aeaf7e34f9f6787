import CommandTree.Proofs.Declaration.DocumentOrder
import CommandTree.Proofs.Schema.RoundTrip

/-!
# Which loaded schemas can be lowered

The loader checks that a document has the fields of the grammar and that a few of them hold certain
words.  Lowering gives every attribute a meaning, by the type for which its key stands; but the keys
that stand for a type are not those of the grammar.  So a document can pass the check and have
attributes without a meaning.

* `SpellsInteger` : how integers are written; `Literal.integer64?_eq_some` : these texts are read,
  if the integer has 64 bits.
* `ValueType.Admits` and `IsUnderstood` are the texts that have a meaning under a type and under a
  key that the grammar does not know.
* `Param.Meaningful` : every attribute of an option has a meaning, and its name leaves a flag.
  `Param.WellFormed.fault?_eq_none` : nothing else can be wrong with an option of a loaded schema.
* `Schema.exists_lower_iff` : a loaded schema can be lowered exactly if all its options are
  meaningful; what a node says about itself is never in the way.
-/

namespace CommandTree

/-! ### Integers -/

/-- Decimal digits, of which there is at least one. -/
def IsNatural (digits : List Char) : Prop :=
  digits ≠ [] ∧ ∀ digit ∈ digits, digit.isDigit = true

/-- An integer is spelled by decimal digits, with a sign before them or without. -/
inductive SpellsInteger : List Char → Int → Prop
  /-- A number without a sign. -/
  | natural {digits : List Char} (h : IsNatural digits) :
      SpellsInteger digits (Nat.ofDigitChars 10 digits 0)
  /-- A number with a plus sign. -/
  | plus {digits : List Char} (h : IsNatural digits) :
      SpellsInteger ('+' :: digits) (Nat.ofDigitChars 10 digits 0)
  /-- A number with a minus sign. -/
  | minus {digits : List Char} (h : IsNatural digits) :
      SpellsInteger ('-' :: digits) (-Nat.ofDigitChars 10 digits 0)

/-- An integer that 64 bits can hold, one of them for the sign. -/
def FitsInteger64 (value : Int) : Prop :=
  -9223372036854775808 ≤ value ∧ value ≤ 9223372036854775807

/-- A text that spells an integer of 64 bits. -/
def IsInteger64 (text : String) : Prop :=
  ∃ value, SpellsInteger text.toList value ∧ FitsInteger64 value

/-- A sign is not a digit. -/
theorem IsNatural.head_ne {c : Char} {digits : List Char} (h : IsNatural (c :: digits)) :
    c ≠ '-' ∧ c ≠ '+' := by
  have hc := h.2 c List.mem_cons_self
  constructor
  · rintro rfl
    exact absurd hc (by decide)
  · rintro rfl
    exact absurd hc (by decide)

theorem spellsInteger_minus {digits : List Char} {value : Int} :
    SpellsInteger ('-' :: digits) value ↔
      IsNatural digits ∧ -(Nat.ofDigitChars 10 digits 0 : Int) = value := by
  constructor
  · rintro (h | _ | h)
    · exact absurd rfl h.head_ne.1
    · exact ⟨h, rfl⟩
  · rintro ⟨h, rfl⟩
    exact .minus h

theorem spellsInteger_plus {digits : List Char} {value : Int} :
    SpellsInteger ('+' :: digits) value ↔
      IsNatural digits ∧ (Nat.ofDigitChars 10 digits 0 : Int) = value := by
  constructor
  · rintro (h | h | _)
    · exact absurd rfl h.head_ne.2
    · exact ⟨h, rfl⟩
  · rintro ⟨h, rfl⟩
    exact .plus h

/-- Without a sign there must be digits. -/
theorem spellsInteger_unsigned {chars : List Char} {value : Int}
    (hminus : ∀ digits, chars ≠ '-' :: digits) (hplus : ∀ digits, chars ≠ '+' :: digits) :
    SpellsInteger chars value ↔
      IsNatural chars ∧ (Nat.ofDigitChars 10 chars 0 : Int) = value := by
  constructor
  · rintro (h | _ | _)
    · exact ⟨h, rfl⟩
    · exact absurd rfl (hplus _)
    · exact absurd rfl (hminus _)
  · rintro ⟨h, rfl⟩
    exact .natural h

namespace Literal

theorem natural?_eq_some {digits : List Char} {n : Nat} :
    natural? digits = some n ↔ IsNatural digits ∧ Nat.ofDigitChars 10 digits 0 = n := by
  rw [natural?, IsNatural]
  split_ifs with h
  · simp only [Bool.or_eq_true, List.isEmpty_iff, Bool.not_eq_true', List.all_eq_false] at h
    refine iff_of_false nofun ?_
    rintro ⟨⟨hsome, hdigits⟩, -⟩
    obtain hnil | ⟨digit, hdigit, hother⟩ := h
    · exact absurd hnil hsome
    · exact absurd (hdigits digit hdigit) hother
  · simp only [Bool.or_eq_true, not_or, List.isEmpty_iff, Bool.not_eq_true', Bool.not_eq_false,
      List.all_eq_true] at h
    rw [Option.some.injEq, and_iff_right h]
    rfl

/-- The value of digits, whatever the sign before them does to it. -/
theorem signed_eq_some {digits : List Char} {value : Int} (sign : Int → Int) :
    (do let n ← natural? digits; pure (n : Int) : Option Int).map sign = some value ↔
      IsNatural digits ∧ sign (Nat.ofDigitChars 10 digits 0) = value := by
  constructor
  · intro h
    obtain ⟨n, hn, hvalue⟩ := Option.map_eq_some_iff.1 h
    obtain ⟨m, hm, hmn⟩ := Option.bind_eq_some_iff.1 hn
    obtain ⟨hdigits, rfl⟩ := natural?_eq_some.1 hm
    obtain rfl := Option.some.inj hmn
    exact ⟨hdigits, hvalue⟩
  · rintro ⟨hdigits, rfl⟩
    rw [natural?_eq_some.2 ⟨hdigits, rfl⟩]
    rfl

/-- **The texts that are read as integers are those that spell an integer of 64 bits.** -/
theorem integer64?_eq_some {raw : String} {value : Int} :
    integer64? raw = some value ↔ SpellsInteger raw.toList value ∧ FitsInteger64 value := by
  have hbounds : ∀ spelled : Option Int,
      (spelled >>= fun v =>
        if -9223372036854775808 ≤ v ∧ v ≤ 9223372036854775807 then some v else none) =
          some value ↔ spelled = some value ∧ FitsInteger64 value := by
    intro spelled
    cases spelled with
    | none => simp
    | some v =>
      simp only [Option.bind_eq_bind, Option.bind_some, Option.ite_none_right_eq_some,
        Option.some.injEq]
      constructor
      · rintro ⟨hrange, rfl⟩
        exact ⟨rfl, hrange⟩
      · rintro ⟨rfl, hrange⟩
        exact ⟨hrange, rfl⟩
  rw [integer64?]
  generalize raw.toList = chars
  split
  · rw [hbounds, signed_eq_some fun n => -n, spellsInteger_minus]
  · rw [hbounds, signed_eq_some fun n => n, spellsInteger_plus]
  · rename_i hminus hplus
    rw [hbounds, signed_eq_some fun n => n, spellsInteger_unsigned hminus hplus]

end Literal

/-! ### Texts with a meaning -/

/-- A text has a meaning under a type. -/
def ValueType.Admits : ValueType → String → Prop
  | .integer, raw => IsInteger64 raw
  | .truth, raw => raw ∈ truthWords
  | .text, _ => True
  | .absent, _ => True

/-- A text has a meaning under a key that is not a field of options: the key is the name of a type
or of another field, and the text is one of that type. -/
def IsUnderstood (key raw : String) : Prop :=
  raw = absentWord ∨ key ∈ ["STRING", "str", "None"] ∨ (key = "INT" ∧ IsInteger64 raw) ∨
    (key ∈ ["boolean", "BOOL", "hidden"] ∧ raw ∈ truthWords)

theorem Literal.errorOf?_ofTyped_eq_none {type : ValueType} {key raw : String} :
    errorOf? (ofTyped type key raw) = none ↔ type.Admits raw := by
  cases type with
  | integer =>
    rw [ofTyped, ValueType.Admits, IsInteger64]
    simp only [← integer64?_eq_some]
    cases integer64? raw <;> simp
  | truth =>
    rw [ofTyped, ValueType.Admits, truthWords, List.mem_cons, List.mem_singleton]
    split_ifs with htrue hfalse
    · simp [htrue]
    · simp [hfalse]
    · simp [htrue, hfalse]
  | text => exact iff_of_true rfl trivial
  | absent => exact iff_of_true rfl trivial

theorem Literal.errorOf?_ofText_eq_none {key raw : String} :
    errorOf? (ofText key raw) = none ↔
      raw = absentWord ∨ ∃ type ∈ ValueType.lookup key, type.Admits raw := by
  rw [ofText]
  split_ifs with habsent
  · exact iff_of_true rfl (.inl habsent)
  · cases hlookup : ValueType.lookup key with
    | none => simp [habsent]
    | some type => simp [habsent, errorOf?_ofTyped_eq_none]

/-- Among the keys that are not fields of options only the names of types, and of one field of
nodes, stand for a type. -/
theorem isUnderstood_iff {key raw : String} (hkey : key ∉ optionKeys) :
    errorOf? (Literal.ofText key raw) = none ↔ IsUnderstood key raw := by
  rw [Literal.errorOf?_ofText_eq_none, IsUnderstood]
  refine or_congr_right ?_
  simp only [optionKeys, List.mem_cons, List.not_mem_nil, or_false, not_or] at hkey
  obtain ⟨hname, hhelp, -, -, hrequired, hprompt⟩ := hkey
  simp only [ValueType.lookup, hname, hhelp, hrequired, hprompt, or_self, false_or, if_false,
    List.mem_cons, List.not_mem_nil, or_false]
  split_ifs with hinteger htext habsent htruth hhidden
  · simp [hinteger, ValueType.Admits]
  · obtain rfl | rfl := htext <;> simp [ValueType.Admits]
  · simp [habsent, ValueType.Admits]
  · obtain rfl | rfl := htruth <;> simp [ValueType.Admits]
  · simp [hhidden, ValueType.Admits]
  · simp [hinteger, htext, habsent, htruth, hhidden]

/-! ### Options -/

/-- Every attribute of an option has a meaning, and its name leaves something for a flag. -/
structure Param.Meaningful (param : Param) : Prop where
  /-- The name is not absent, and something is left of it without quotes. -/
  name : ∀ raw ∈ param.get? "name", raw ∉ ["None", "", "\"\""]
  /-- The default value of a truth value is one, or absent. -/
  default : param.get? "type" = some "BOOL" →
    ∀ raw ∈ param.get? "default", raw ∈ ["None", "True", "False"]
  /-- Further attributes have a meaning under their keys. -/
  others : ∀ key raw, param.get? key = some raw → key ∉ optionKeys → IsUnderstood key raw

/-- Quotes around nothing, and nothing, leave nothing. -/
theorem Literal.unquote_eq_empty {raw : String} :
    unquote raw = "" ↔ raw = "" ∨ raw = "\"\"" := by
  constructor
  · intro h
    by_cases hquoted : IsQuoted raw
    · obtain ⟨inner, rfl⟩ := hquoted
      rw [unquote_quoted] at h
      exact .inr (by rw [h]; rfl)
    · exact .inl ((unquote_of_not_isQuoted hquoted).symm.trans h)
  · rintro (rfl | rfl)
    · rfl
    · exact unquote_quoted ""

/-- Without a name an option has nothing for a flag. -/
theorem Param.WellFormed.nameFault?_eq_none {param : Param} (h : param.WellFormed) (node : String) :
    param.nameFault? node = none ↔
      ∀ raw ∈ param.get? "name", raw ∉ ["None", "", "\"\""] := by
  have hname : "name" ∈ optionKeys := by decide
  obtain ⟨raw, hraw⟩ := h.exists_get? hname
  rw [nameFault?, nameKey, hraw]
  simp only [Literal.unquote_eq_empty, absentWord, Option.mem_some_iff, forall_eq', List.mem_cons,
    List.not_mem_nil, or_false, ite_eq_right_iff, reduceCtorEq, imp_false]

/-- An option that the loader accepts declares one of two types. -/
theorem Param.WellFormed.declaredType_cases {param : Param} (h : param.WellFormed) :
    (param.get? "type" = some "STRING" ∧ declaredType param.attributes = .ok (some .text)) ∨
      (param.get? "type" = some "BOOL" ∧ declaredType param.attributes = .ok (some .truth)) := by
  obtain ⟨word, hword, hget⟩ := h.type
  rw [paramTypeWords, List.mem_cons, List.mem_singleton] at hword
  have hattribute : param.attributes.get? typeKey = some word := hget
  rw [declaredType, hattribute]
  obtain rfl | rfl := hword
  · exact .inl ⟨hget, rfl⟩
  · exact .inr ⟨hget, rfl⟩

/-- A default value has a meaning unless a truth value is asked for and it is none. -/
theorem Param.WellFormed.errorOf?_default {param : Param} (h : param.WellFormed) (raw : String) :
    errorOf? (interpretAttribute param.declaredType? defaultKey raw) = none ↔
      (param.get? "type" = some "BOOL" → raw ∈ ["None", "True", "False"]) := by
  obtain ⟨htype, hdeclared⟩ | ⟨htype, hdeclared⟩ := h.declaredType_cases
  · rw [← declaredType_eq_ok hdeclared, interpretAttribute_default, htype]
    refine iff_of_true ?_ nofun
    split_ifs <;> rfl
  · rw [← declaredType_eq_ok hdeclared, interpretAttribute_default, htype, imp_iff_right rfl,
      List.mem_cons]
    split_ifs with hraw
    · exact iff_of_true rfl (.inl hraw)
    · rw [or_iff_right (show raw ≠ "None" from hraw)]
      exact Literal.errorOf?_ofTyped_eq_none

/-- The fields of an option other than the type and the default value have a meaning as the grammar
asks for them. -/
theorem Param.WellFormed.errorOf?_field {param : Param} (h : param.WellFormed) {key raw : String}
    (hget : param.get? key = some raw) (hkey : key ∈ optionKeys) (htype : key ≠ typeKey)
    (hdefault : key ≠ defaultKey) :
    errorOf? (Literal.ofText key raw) = none := by
  rw [Literal.errorOf?_ofText_eq_none]
  simp only [optionKeys, List.mem_cons, List.not_mem_nil, or_false] at hkey
  obtain rfl | rfl | rfl | rfl | rfl | rfl := hkey
  · exact .inr ⟨.text, rfl, trivial⟩
  · exact .inr ⟨.text, rfl, trivial⟩
  · exact absurd rfl htype
  · exact absurd rfl hdefault
  · obtain ⟨word, hword, hrequired⟩ := h.required
    obtain rfl := Option.some.inj (hget.symm.trans hrequired)
    exact .inr ⟨.truth, rfl, hword⟩
  · exact .inr ⟨.text, rfl, trivial⟩

/-- **An option that the loader accepts can be lowered exactly if it is meaningful.** -/
theorem Param.WellFormed.fault?_eq_none {param : Param} (h : param.WellFormed) (node : String) :
    param.fault? node = none ↔ param.Meaningful := by
  have htype : errorOf? (declaredType param.attributes) = none := by
    obtain ⟨-, hdeclared⟩ | ⟨-, hdeclared⟩ := h.declaredType_cases
    · rw [hdeclared, errorOf?_ok]
    · rw [hdeclared, errorOf?_ok]
  rw [fault?, Option.or_eq_none_iff, and_iff_right htype, Option.or_eq_none_iff,
    List.findSome?_eq_none_iff, h.nameFault?_eq_none node, OrderedMap.forall_mem_iff]
  simp only [OrderedMap.get?_erase]
  constructor
  · rintro ⟨hattributes, hname⟩
    refine ⟨hname, fun hbool raw hraw => ?default, fun key raw hget hkey => ?other⟩
    case default =>
      exact (h.errorOf?_default raw).1 (hattributes defaultKey raw hraw) hbool
    case other =>
      have hfield : key ≠ typeKey ∧ key ≠ defaultKey := by
        constructor <;> rintro rfl <;> exact hkey (by decide)
      have herror := hattributes key raw ((if_neg hfield.1).trans hget)
      rw [interpretAttribute_of_ne hfield.2] at herror
      exact (isUnderstood_iff hkey).1 herror
  · rintro ⟨hname, hdefault, hothers⟩
    refine ⟨fun key raw hget => ?_, hname⟩
    split_ifs at hget with htypeKey
    by_cases hdefaultKey : key = defaultKey
    · subst hdefaultKey
      exact (h.errorOf?_default raw).2 fun hbool => hdefault hbool raw hget
    · rw [interpretAttribute_of_ne hdefaultKey]
      by_cases hkey : key ∈ optionKeys
      · exact h.errorOf?_field hget hkey htypeKey hdefaultKey
      · exact (isUnderstood_iff hkey).2 (hothers key raw hget hkey)

/-! ### Schemas -/

/-- The loader gives a schema, for a text in one of the formats or for a value. -/
inductive Schema.IsLoaded (schema : Schema) : Prop
  /-- It is read from a text. -/
  | text {format : DocumentFormat} {source text : String}
      (h : Schema.ofText format source text = .ok schema)
  /-- It is converted from a value. -/
  | value {value : Json} (distinct : value.DistinctKeys) (h : Schema.ofJson value = .ok schema)

theorem Schema.IsLoaded.wellFormed {schema : Schema} (h : schema.IsLoaded) :
    schema.WellFormed := by
  cases h with
  | text h => exact Schema.wellFormed_of_ofText h
  | value distinct h => exact Schema.wellFormed_of_ofJson distinct h

/-- What a node says about itself has a meaning. -/
theorem Entry.WellFormed.exists_literals {entry : Entry} (h : entry.WellFormed) :
    ∃ attributes, entry.literals = .ok attributes := by
  have hname : errorOf? (Literal.ofText "name" entry.name) = none :=
    Literal.errorOf?_ofText_eq_none.2 (.inr ⟨.text, rfl, trivial⟩)
  have hhelp : errorOf? (Literal.ofText "help" entry.help) = none :=
    Literal.errorOf?_ofText_eq_none.2 (.inr ⟨.text, rfl, trivial⟩)
  have hhidden : errorOf? (Literal.ofText "hidden" entry.hidden) = none :=
    Literal.errorOf?_ofText_eq_none.2 (.inr ⟨.truth, rfl, h.hidden⟩)
  rw [← errorOf?_eq_none, Entry.errorOf?_literals, hname, hhelp, hhidden]
  rfl

/-- Only the options of a node can be at fault. -/
theorem Entry.WellFormed.fault?_eq {entry : Entry} (h : entry.WellFormed) :
    entry.fault? = (entry.params.filter Param.isOption).findSome? (Param.fault? entry.name) := by
  have hliterals := errorOf?_eq_none.2 h.exists_literals
  rw [Entry.errorOf?_literals, ← Option.or_assoc] at hliterals
  rw [fault?, ← Option.or_assoc, ← Option.or_assoc, hliterals, Option.none_or]

/-- **A loaded schema can be lowered exactly if all its options are meaningful**: what a node says
about itself always has a meaning, and if lowering fails, then with the error of some option. -/
theorem Schema.exists_lower_iff {schema : Schema} (loaded : schema.IsLoaded) :
    ((∃ declarations, schema.lower = .ok declarations) ↔
      ∀ node ∈ schema.preorder, ∀ param ∈ node.2.params, param.isOption = true →
        param.Meaningful) ∧
    (∀ node ∈ schema.preorder, ∃ attributes, node.2.literals = .ok attributes) ∧
    ∀ error, schema.lower = .error error →
      ∃ node ∈ schema.preorder, ∃ param ∈ node.2.params, param.isOption = true ∧
        param.declare node.2.name = .error error := by
  have wellFormed := loaded.wellFormed
  refine ⟨?lowers, fun node hnode => (wellFormed node hnode).exists_literals, ?fails⟩
  case lowers =>
    rw [← errorOf?_eq_none, Schema.errorOf?_lower, List.findSome?_eq_none_iff]
    refine forall₂_congr fun node hnode => ?_
    rw [(wellFormed node hnode).fault?_eq, List.findSome?_eq_none_iff]
    simp only [List.mem_filter, and_imp]
    refine forall₂_congr fun param hparam => imp_congr_right fun _ => ?_
    exact ((wellFormed node hnode).params param hparam).fault?_eq_none node.2.name
  case fails =>
    intro error herror
    rw [← errorOf?_eq_some, Schema.errorOf?_lower] at herror
    obtain ⟨node, hnode, hentry⟩ := List.exists_of_findSome?_eq_some herror
    rw [(wellFormed node hnode).fault?_eq] at hentry
    obtain ⟨param, hparam, hoption⟩ := List.exists_of_findSome?_eq_some hentry
    obtain ⟨hmem, hkind⟩ := List.mem_filter.1 hparam
    rw [← Param.errorOf?_declare, errorOf?_eq_some] at hoption
    exact ⟨node, hnode, param, hmem, hkind, hoption⟩

/-- A command with an option that has attributes other than the fields of options, one of which
should be an integer. -/
def countedTools (count : String) : Schema :=
  ⟨[.command ⟨"run", "None", none, "True",
      [⟨.option, .ofList [("name", "\"level\""), ("help", "None"), ("type", "BOOL"),
        ("default", "False"), ("required", "True"), ("prompt", "None"), ("INT", count),
        ("boolean", "True"), ("FLOAT", "None"), ("str", "1.5")]⟩]⟩]⟩

/-- With the least integer the options are meaningful; with one that needs more bits they are
not. -/
theorem exists_lower_iff_countedTools :
    (countedTools "-9223372036854775808").IsLoaded ∧
      (countedTools "9223372036854775808").IsLoaded ∧
      (∀ node ∈ (countedTools "-9223372036854775808").preorder, ∀ param ∈ node.2.params,
        param.isOption = true → param.Meaningful) ∧
      ¬ ∀ node ∈ (countedTools "9223372036854775808").preorder, ∀ param ∈ node.2.params,
        param.isOption = true → param.Meaningful := by
  have hleast : (countedTools "-9223372036854775808").WellFormed ∧
      (countedTools "-9223372036854775808").toJson.depth ≤ 127 ∧
      errorOf? (countedTools "-9223372036854775808").lower = none := by
    decide +kernel
  have hlarge : (countedTools "9223372036854775808").WellFormed ∧
      (countedTools "9223372036854775808").toJson.depth ≤ 127 ∧
      errorOf? (countedTools "9223372036854775808").lower ≠ none := by
    decide +kernel
  obtain ⟨_, hleastText⟩ := hleast.1.exists_text hleast.2.1 "schema.json"
  obtain ⟨_, hlargeText⟩ := hlarge.1.exists_text hlarge.2.1 "schema.json"
  refine ⟨.text hleastText, .text hlargeText, ?_, fun hmeaningful => hlarge.2.2 ?_⟩
  · exact (Schema.exists_lower_iff (.text hleastText)).1.1 (errorOf?_eq_none.1 hleast.2.2)
  · exact errorOf?_eq_none.2 ((Schema.exists_lower_iff (.text hlargeText)).1.2 hmeaningful)

end CommandTree
