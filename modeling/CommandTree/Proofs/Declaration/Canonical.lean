import CommandTree.Proofs.Declaration.Attributes
import CommandTree.Proofs.Schema.Grammar
import CommandTree.Host.OfDeclarations

/-!
# Canonical schemas

A schema may write the same thing in more than one way: texts with or without quotes, options with
more attributes than a program shows, flags with dashes of their own.  A canonical schema uses the
one spelling that a program shows when it is described.

* `Param.IsCanonical`, `Entry.IsCanonical` and `Schema.IsCanonical` say which schemas are.
* `Param.IsCanonical.exists_declare` and `Entry.IsCanonical.literals_eq` : what their options and
  nodes are lowered to.
* `Schema.IsCanonical.exists_lower` : every canonical schema can be lowered.
-/

namespace CommandTree

/-! ### What is canonical -/

/-- An option with all attributes of an option and no others, each in its only spelling. -/
@[mk_iff]
structure Param.IsCanonical (param : Param) : Prop where
  /-- It has a flag. -/
  kind : param.kind = .option
  /-- The attributes are those of an option, in any order. -/
  keys : param.attributes.keys.Perm optionKeys
  /-- The name makes a flag with two dashes. -/
  name : ∀ name ∈ param.get? "name",
    name ≠ "" ∧ name ≠ absentWord ∧ name.toList.head? ≠ some '-' ∧ ¬ IsQuoted name
  /-- The help text has no quotes around it. -/
  help : ∀ help ∈ param.get? "help", ¬ IsQuoted help
  /-- The type is one of two. -/
  type : ∀ type ∈ param.get? "type", type ∈ paramTypeWords
  /-- The default value of a text has no quotes around it. -/
  textDefault : param.get? "type" = some "STRING" →
    ∀ value ∈ param.get? "default", ¬ IsQuoted value
  /-- The default value of a truth value is a truth word, if there is one. -/
  truthDefault : param.get? "type" = some "BOOL" →
    ∀ value ∈ param.get? "default", value ∈ absentWord :: truthWords
  /-- Whether the option must be given is a truth word. -/
  required : ∀ required ∈ param.get? "required", required ∈ truthWords
  /-- Nothing is asked for. -/
  prompt : ∀ prompt ∈ param.get? "prompt", prompt = absentWord

/-- A node with a name, all of whose texts are in their only spelling. -/
@[mk_iff]
structure Entry.IsCanonical (entry : Entry) : Prop where
  /-- There is a name, without quotes around it. -/
  name : entry.name ≠ absentWord ∧ ¬ IsQuoted entry.name
  /-- The help text has no quotes around it. -/
  help : ¬ IsQuoted entry.help
  /-- Whether the node is hidden is a truth word. -/
  hidden : entry.hidden ∈ truthWords
  /-- All parameters are canonical options. -/
  params : ∀ param ∈ entry.params, param.IsCanonical

/-- A schema all of whose nodes are in their only spelling. -/
def Schema.IsCanonical (schema : Schema) : Prop :=
  ∀ node ∈ schema.preorder, node.2.IsCanonical

instance (param : Param) : Decidable param.IsCanonical :=
  decidable_of_iff' _ (Param.isCanonical_iff param)

instance (entry : Entry) : Decidable entry.IsCanonical :=
  decidable_of_iff' _ (Entry.isCanonical_iff entry)

instance (schema : Schema) : Decidable schema.IsCanonical :=
  inferInstanceAs (Decidable (∀ node ∈ schema.preorder, node.2.IsCanonical))

/-! ### Options -/

theorem withoutDashes_flag {name : String} (h : name.toList.head? ≠ some '-') :
    withoutDashes ("--" ++ name) = name := by
  unfold withoutDashes
  rw [String.toList_append, ← String.toList_inj, String.toList_ofList]
  cases hname : name.toList with
  | nil => decide
  | cons c rest =>
    have hc : c ≠ '-' := by simpa [hname] using h
    simp [hc]

namespace Param

/-- The type that a canonical option declares. -/
def valueType (param : Param) : ValueType :=
  if param.get? "type" = some "BOOL" then .truth else .text

/-- The type of an attribute: the default value has the declared one. -/
def attributeType (param : Param) (key : String) : ValueType :=
  if key = defaultKey then param.valueType else (ValueType.lookup key).getD .text

theorem interpretAttribute_of_isPlain (param : Param) {key raw : String} {type : ValueType}
    (hkey : key ≠ defaultKey) (hlookup : ValueType.lookup key = some type) (h : IsPlain type raw) :
    interpretAttribute (some param.valueType) key raw =
      .ok (.plain (param.attributeType key) raw) := by
  rw [interpretAttribute_of_ne hkey, h.ofText_eq hlookup, attributeType, if_neg hkey, hlookup]
  rfl

namespace IsCanonical

variable {param : Param}

theorem exists_get? (canonical : param.IsCanonical) (key : String) (hkey : key ∈ optionKeys) :
    ∃ raw, param.get? key = some raw :=
  Option.isSome_iff_exists.1 (Members.isSome_get?.2 (canonical.keys.mem_iff.2 hkey))

theorem mem_optionKeys (canonical : param.IsCanonical) {key raw : String}
    (h : param.get? key = some raw) : key ∈ optionKeys :=
  canonical.keys.mem_iff.1 (Members.isSome_get?.1 (Option.isSome_iff_exists.2 ⟨raw, h⟩))

theorem type_cases (canonical : param.IsCanonical) :
    param.get? "type" = some "STRING" ∧ param.valueType = .text ∨
      param.get? "type" = some "BOOL" ∧ param.valueType = .truth := by
  obtain ⟨type, htype⟩ := canonical.exists_get? "type" (by decide)
  have hword := canonical.type type htype
  simp only [paramTypeWords, List.mem_cons, List.not_mem_nil, or_false] at hword
  obtain rfl | rfl := hword <;> simp [valueType, htype]

theorem declaredType_eq (canonical : param.IsCanonical) :
    declaredType param.attributes = .ok (some param.valueType) := by
  rw [declaredType]
  obtain ⟨htype, hvalueType⟩ | ⟨htype, hvalueType⟩ := canonical.type_cases
  · rw [show param.attributes.get? typeKey = some "STRING" from htype, hvalueType]
    rfl
  · rw [show param.attributes.get? typeKey = some "BOOL" from htype, hvalueType]
    rfl

theorem isPlain_default (canonical : param.IsCanonical) {raw : String}
    (h : param.get? "default" = some raw) : IsPlain param.valueType raw := by
  obtain ⟨htype, hvalueType⟩ | ⟨htype, hvalueType⟩ := canonical.type_cases
  · rw [hvalueType]
    exact canonical.textDefault htype raw h
  · rw [hvalueType]
    exact List.mem_cons.1 (canonical.truthDefault htype raw h)

/-- Every attribute of a canonical option but the type means what it says. -/
theorem interpretAttribute_eq (canonical : param.IsCanonical) {key raw : String}
    (hkey : key ≠ typeKey) (h : param.get? key = some raw) :
    interpretAttribute (some param.valueType) key raw =
      .ok (.plain (param.attributeType key) raw) := by
  have hmem := canonical.mem_optionKeys h
  simp only [optionKeys, List.mem_cons, List.not_mem_nil, or_false] at hmem
  obtain rfl | rfl | rfl | rfl | rfl | rfl := hmem
  · have hplain : IsPlain .text raw := (canonical.name raw h).2.2.2
    exact param.interpretAttribute_of_isPlain (by decide) rfl hplain
  · have hplain : IsPlain .text raw := canonical.help raw h
    exact param.interpretAttribute_of_isPlain (by decide) rfl hplain
  · exact absurd rfl hkey
  · exact (canonical.isPlain_default h).interpretAttribute_default
  · have hplain : IsPlain .truth raw := .inr (canonical.required raw h)
    exact param.interpretAttribute_of_isPlain (by decide) rfl hplain
  · rw [canonical.prompt raw h]
    rfl

/-- A canonical option can be declared; its flag is its name with two dashes, and the other
attributes mean what they say. -/
theorem exists_declare (canonical : param.IsCanonical) (node : String) :
    ∃ option, param.declare node = .ok option ∧
      param.get? "name" = some (withoutDashes option.flag) ∧
      option.valueType = some param.valueType ∧
      ∀ key raw, key ≠ "name" → key ≠ "type" → param.get? key = some raw →
        option.attributes.get? key = some (.plain (param.attributeType key) raw) := by
  obtain ⟨meaning, hmeaning, hvalueType⟩ :=
    Interpreted.exists_ofAttributes canonical.declaredType_eq fun key raw hkey h =>
      ⟨_, canonical.interpretAttribute_eq hkey h⟩
  have hget : ∀ key raw, key ≠ typeKey → param.get? key = some raw →
      meaning.attributes.get? key = some (.plain (param.attributeType key) raw) := by
    intro key raw hkey h
    have hrel := Interpreted.rel_get? hmeaning hkey
    rw [hvalueType, show param.attributes.get? key = some raw from h] at hrel
    generalize meaning.attributes.get? key = literal? at hrel ⊢
    cases hrel with
    | some hliteral =>
      rw [canonical.interpretAttribute_eq hkey h] at hliteral
      rw [Except.ok.inj hliteral]
  obtain ⟨name, hname⟩ := canonical.exists_get? "name" (by decide)
  obtain ⟨hempty, habsent, hdash, -⟩ := canonical.name name hname
  have hliteral : meaning.attributes.get? nameKey = some (.text name) := by
    rw [hget nameKey name (by decide) hname]
    simp [Literal.plain, habsent, attributeType, nameKey, defaultKey, ValueType.lookup]
  refine ⟨_, Param.declare_eq_ok.2 ⟨meaning, name, hmeaning, hliteral, hempty, rfl⟩, ?_, hvalueType,
    ?_⟩
  · rw [hname, withoutDashes_flag hdash]
  · intro key raw hkey htype h
    rw [OrderedMap.get?_erase, if_neg (by simpa [nameKey] using hkey)]
    exact hget key raw htype h

end IsCanonical

end Param

/-! ### Nodes -/

namespace Entry.IsCanonical

variable {entry : Entry}

/-- The texts of a canonical node mean what they say. -/
theorem literals_eq (canonical : entry.IsCanonical) :
    entry.literals = .ok (.ofList [("name", .text entry.name), ("help", .plain .text entry.help),
      ("hidden", .plain .truth entry.hidden)]) := by
  have hname : IsPlain .text entry.name := canonical.name.2
  have hhelp : IsPlain .text entry.help := canonical.help
  have hhidden : IsPlain .truth entry.hidden := .inr canonical.hidden
  refine Entry.literals_eq_ok.2 ⟨_, _, _, hname.ofText_eq rfl, hhelp.ofText_eq rfl,
    hhidden.ofText_eq rfl, ?_⟩
  simp [Literal.plain, canonical.name.1, nameKey]

theorem declarable (canonical : entry.IsCanonical) : entry.Declarable := by
  refine ⟨⟨_, canonical.literals_eq⟩, fun param hparam => ?_⟩
  obtain ⟨option, hoption, -⟩ :=
    (canonical.params param (List.mem_of_mem_filter hparam)).exists_declare entry.name
  exact ⟨option, hoption⟩

/-- All parameters of a canonical node are options. -/
theorem filter_params (canonical : entry.IsCanonical) :
    entry.params.filter Param.isOption = entry.params :=
  List.filter_eq_self.2 fun param hparam => by
    simp [Param.isOption, (canonical.params param hparam).kind]

end Entry.IsCanonical

/-- **Every canonical schema can be lowered.** -/
theorem Schema.IsCanonical.exists_lower {schema : Schema} (canonical : schema.IsCanonical) :
    ∃ declarations, schema.lower = .ok declarations :=
  Schema.exists_lower fun node hnode => (canonical node hnode).declarable

end CommandTree
