import CommandTree.Proofs.Declaration.Forest
import CommandTree.Proofs.OrderedMap
import CommandTree.Schema.Violation

/-!
# The meaning of attributes

* `Interpreted.rel_get?` : an attribute other than the type is there with its meaning exactly if its
  text is there.
* `Param.declare_eq_ok` and `Entry.literals_eq_ok` : what a declared option or node consists of;
  `Declares.get?_nameKey` : the name of a declared node.
* `Schema.exists_lower` : a schema can be lowered if all its texts and options have a meaning.
-/

namespace CommandTree

/-! ### Texts -/

/-- Whether a text is wrapped in a pair of double quotes. -/
def IsQuoted (text : String) : Prop :=
  ∃ inner, text = "\"" ++ inner ++ "\""

theorem Literal.unquote_of_not_isQuoted {raw : String} (h : ¬ IsQuoted raw) :
    unquote raw = raw := by
  unfold unquote
  split
  · rename_i rest hraw
    split
    · rename_i inner hrest
      refine absurd ⟨String.ofList inner.reverse, ?_⟩ h
      rw [← String.toList_inj, hraw, ← List.reverse_reverse rest, hrest]
      simp
    · rfl
  · rfl

theorem Literal.unquote_quoted (inner : String) : unquote ("\"" ++ inner ++ "\"") = inner := by
  simp [unquote, String.ofList_toList]

theorem isQuoted_iff {raw : String} : IsQuoted raw ↔ Literal.unquote raw ≠ raw := by
  constructor
  · rintro ⟨inner, rfl⟩ h
    have hlength := congrArg String.length ((Literal.unquote_quoted inner).symm.trans h)
    simp only [String.length_append] at hlength
    have hquote : "\"".length = 1 := by decide
    omega
  · intro h
    by_contra hquoted
    exact h (Literal.unquote_of_not_isQuoted hquoted)

instance (raw : String) : Decidable (IsQuoted raw) :=
  decidable_of_iff _ isQuoted_iff.symm

@[simp] theorem Literal.text?_text (value : String) : (text value).text? = some value := rfl

theorem Literal.ofText_name (raw : String) :
    ofText nameKey raw = .ok (if raw = absentWord then .absent else .text (unquote raw)) := by
  by_cases h : raw = absentWord
  · simp [ofText, h]
  · have hlookup : ValueType.lookup nameKey = some .text := rfl
    simp [ofText, ofTyped, h, hlookup]

/-- A name that is a text is that text without its quotes. -/
theorem Literal.eq_unquote_of_ofText_name {raw name : String}
    (h : ofText nameKey raw = .ok (.text name)) : name = unquote raw := by
  rw [ofText_name] at h
  by_cases habsent : raw = absentWord
  · simp [habsent] at h
  · simpa [habsent] using h.symm

/-- A text is the only spelling of its meaning under a type. -/
def IsPlain : ValueType → String → Prop
  | .text, raw => ¬ IsQuoted raw
  | .truth, raw => raw = absentWord ∨ raw ∈ truthWords
  | _, _ => False

/-- The meaning of such a text. -/
def Literal.plain (type : ValueType) (raw : String) : Literal :=
  if raw = absentWord then absent
  else if type = .truth then truth (decide (raw = "True"))
  else text raw

theorem IsPlain.ofTyped_eq {type : ValueType} {raw : String} (h : IsPlain type raw)
    (hraw : raw ≠ absentWord) (key : String) :
    Literal.ofTyped type key raw = .ok (.plain type raw) := by
  match type, h with
  | .text, h => simp [Literal.ofTyped, Literal.plain, hraw, Literal.unquote_of_not_isQuoted h]
  | .truth, h =>
    obtain rfl | rfl : raw = "True" ∨ raw = "False" := by
      simpa [IsPlain, hraw, truthWords] using h
    · simp [Literal.ofTyped, Literal.plain, absentWord]
    · simp [Literal.ofTyped, Literal.plain, absentWord]

theorem IsPlain.ofText_eq {type : ValueType} {raw : String} (h : IsPlain type raw) {key : String}
    (hkey : ValueType.lookup key = some type) : Literal.ofText key raw = .ok (.plain type raw) := by
  by_cases hraw : raw = absentWord
  · simp [Literal.ofText, Literal.plain, hraw]
  · simp [Literal.ofText, hraw, hkey, h.ofTyped_eq]

/-! ### Parameters -/

/-- Only the default value has the declared type. -/
theorem interpretAttribute_of_ne {key : String} (hkey : key ≠ defaultKey)
    (valueType : Option ValueType) (raw : String) :
    interpretAttribute valueType key raw = Literal.ofText key raw := by
  cases valueType with
  | none => rfl
  | some type => rw [interpretAttribute, if_neg hkey]

theorem interpretAttribute_default (type : ValueType) (raw : String) :
    interpretAttribute (some type) defaultKey raw =
      if raw = absentWord then .ok .absent else Literal.ofTyped type defaultKey raw := by
  rw [interpretAttribute, if_pos rfl]

theorem IsPlain.interpretAttribute_default {type : ValueType} {raw : String}
    (h : IsPlain type raw) :
    interpretAttribute (some type) defaultKey raw = .ok (.plain type raw) := by
  rw [CommandTree.interpretAttribute_default]
  split_ifs with habsent
  · simp [Literal.plain, habsent]
  · exact h.ofTyped_eq habsent defaultKey

theorem Interpreted.ofAttributes_eq_ok {attributes : OrderedMap String} {meaning : Interpreted} :
    ofAttributes attributes = .ok meaning ↔ declaredType attributes = .ok meaning.valueType ∧
      List.Forall₂ (fun x y => x.1 = y.1 ∧
          interpretAttribute meaning.valueType x.1 x.2 = .ok y.2)
        (attributes.erase typeKey).toList meaning.attributes.toList := by
  have hmember : ∀ (valueType : Option ValueType) (x : String × String) (y : String × Literal),
      (∃ literal, interpretAttribute valueType x.1 x.2 = .ok literal ∧ (x.1, literal) = y) ↔
        x.1 = y.1 ∧ interpretAttribute valueType x.1 x.2 = .ok y.2 := by
    rintro valueType ⟨key, raw⟩ ⟨key', literal⟩
    constructor
    · rintro ⟨_, hliteral, h⟩
      cases h
      exact ⟨rfl, hliteral⟩
    · rintro ⟨rfl, hliteral⟩
      exact ⟨literal, hliteral, rfl⟩
  obtain ⟨literals, valueType⟩ := meaning
  simp only [ofAttributes, bind_eq_ok, mapM_eq_ok, pure_eq_ok, Except.ok.injEq, hmember,
    Interpreted.mk.injEq]
  constructor
  · rintro ⟨type, htype, members, hmembers, rfl, rfl⟩
    have distinct : (Members.keys members).Nodup :=
      Members.keys_eq_of_forall₂ (r := fun key raw literal =>
        interpretAttribute type key raw = .ok literal) hmembers ▸
          (attributes.erase typeKey).distinct
    rw [OrderedMap.toList_ofList distinct]
    exact ⟨htype, hmembers⟩
  · rintro ⟨htype, hmembers⟩
    exact ⟨valueType, htype, literals.toList, hmembers, literals.ofList_toList, rfl⟩

/-- An attribute other than the type is there with its meaning exactly if its text is there. -/
theorem Interpreted.rel_get? {attributes : OrderedMap String} {meaning : Interpreted}
    (h : ofAttributes attributes = .ok meaning) {key : String} (hkey : key ≠ typeKey) :
    Option.Rel (fun raw literal => interpretAttribute meaning.valueType key raw = .ok literal)
      (attributes.get? key) (meaning.attributes.get? key) := by
  have hrel := Members.rel_get? (r := fun key raw literal =>
    interpretAttribute meaning.valueType key raw = .ok literal) (ofAttributes_eq_ok.1 h).2 key
  have herase := attributes.get?_erase typeKey key
  rw [if_neg hkey] at herase
  rwa [← herase]

/-- The attributes of a parameter have a meaning if each of them has. -/
theorem Interpreted.exists_ofAttributes {attributes : OrderedMap String}
    {valueType : Option ValueType} (htype : declaredType attributes = .ok valueType)
    (h : ∀ key raw, key ≠ typeKey → attributes.get? key = some raw →
      ∃ literal, interpretAttribute valueType key raw = .ok literal) :
    ∃ meaning, ofAttributes attributes = .ok meaning ∧ meaning.valueType = valueType := by
  have hmember : ∀ member ∈ (attributes.erase typeKey).toList, ∃ result,
      (do return (member.1, ← interpretAttribute valueType member.1 member.2)) =
        Except.ok result := by
    refine OrderedMap.forall_mem_iff.2 fun key raw hget => ?_
    rw [OrderedMap.get?_erase] at hget
    split_ifs at hget with hkey
    obtain ⟨literal, hliteral⟩ := h key raw hkey hget
    exact ⟨(key, literal), by simp [hliteral, pure_eq_ok]⟩
  obtain ⟨members, hmembers⟩ := exists_mapM_eq_ok hmember
  refine ⟨⟨.ofList members, valueType⟩, ?_, rfl⟩
  simp only [ofAttributes, htype, ok_bind]
  exact bind_eq_ok.2 ⟨members, hmembers, rfl⟩

theorem Param.declare_eq_ok {node : String} {param : Param} {option : OptionDeclaration} :
    param.declare node = .ok option ↔ ∃ meaning name,
      Interpreted.ofAttributes param.attributes = .ok meaning ∧
      meaning.attributes.get? nameKey = some (.text name) ∧ name ≠ "" ∧
      option = ⟨"--" ++ name, identifierOf name, meaning.attributes.erase nameKey,
        meaning.valueType⟩ := by
  simp only [declare, bind_eq_ok]
  constructor
  · rintro ⟨meaning, hmeaning, h⟩
    split at h
    · cases h
    · rename_i name hname
      split_ifs at h with hempty
      exact ⟨meaning, name, hmeaning, hname, hempty, (Except.ok.inj h).symm⟩
    · cases h
  · rintro ⟨meaning, name, hmeaning, hname, hempty, rfl⟩
    exact ⟨meaning, hmeaning, by simp [hname, hempty, pure_eq_ok]⟩

/-! ### Nodes -/

theorem Entry.literals_eq_ok {entry : Entry} {attributes : OrderedMap Literal} :
    entry.literals = .ok attributes ↔ ∃ name help hidden,
      Literal.ofText nameKey entry.name = .ok name ∧ Literal.ofText "help" entry.help = .ok help ∧
      Literal.ofText "hidden" entry.hidden = .ok hidden ∧
      attributes = .ofList [(nameKey, name), ("help", help), ("hidden", hidden)] := by
  simp only [literals, bind_eq_ok, pure_eq_ok, Except.ok.injEq]
  constructor
  · rintro ⟨name, hname, help, hhelp, hidden, hhidden, rfl⟩
    exact ⟨name, help, hidden, hname, hhelp, hhidden, rfl⟩
  · rintro ⟨name, help, hidden, hname, hhelp, hhidden, rfl⟩
    exact ⟨name, hname, help, hhelp, hidden, hhidden, rfl⟩

/-- The meaning of the name of a node: that name without quotes, if there is one. -/
def Entry.nameLiteral (entry : Entry) : Literal :=
  if entry.name = absentWord then .absent else .text (Literal.unquote entry.name)

/-- A declaration has the meaning of the name of its node as an attribute. -/
theorem Declares.get?_nameKey {node : NodeKind × Entry} {declaration : Declaration}
    (h : Declares node declaration) :
    declaration.attributes.get? nameKey = some node.2.nameLiteral := by
  obtain ⟨name, help, hidden, hname, -, -, hattributes⟩ := Entry.literals_eq_ok.1 h.attributes
  have distinct : (Members.keys [(nameKey, name), ("help", help), ("hidden", hidden)]).Nodup := by
    simp [Members.keys, nameKey]
  rw [Literal.ofText_name] at hname
  obtain rfl := Except.ok.inj hname
  rw [hattributes, OrderedMap.get?_ofList distinct]
  simp [Members.get?_cons, Entry.nameLiteral]

theorem Entry.baseIdentifier_eq {entry : Entry} {name : String}
    (h : entry.nameLiteral = .text name) : entry.baseIdentifier = identifierOf name := by
  rw [nameLiteral] at h
  rw [baseIdentifier, Literal.ofText_name, h]

/-- All texts and options of a node have a meaning. -/
def Entry.Declarable (entry : Entry) : Prop :=
  (∃ attributes, entry.literals = .ok attributes) ∧
    ∀ param ∈ entry.params.filter Param.isOption, ∃ option, param.declare entry.name = .ok option

theorem Entry.Declarable.exists_declare {entry : Entry} (h : entry.Declarable) (kind : NodeKind)
    (parent : Parent) (taken : List String) :
    ∃ declaration, entry.declare kind parent taken = .ok declaration := by
  obtain ⟨⟨attributes, hattributes⟩, hparams⟩ := h
  obtain ⟨options, hoptions⟩ := exists_mapM_eq_ok hparams
  exact ⟨_, by simp only [declare, hattributes, hoptions, ok_bind]; rfl⟩

theorem Forest.exists_declare {nodes : Forest (NodeKind × Entry)}
    (h : ∀ node ∈ nodes.preorder, node.2.Declarable) (parent : Parent) (taken : List String) :
    ∃ declared, nodes.declare parent taken = .ok declared := by
  induction nodes generalizing parent taken with
  | nil => exact ⟨nil, rfl⟩
  | cons label below rest ih ih' =>
    obtain ⟨kind, entry⟩ := label
    simp only [preorder, List.forall_mem_cons, List.forall_mem_append] at h
    obtain ⟨hentry, hbelow, hrest⟩ := h
    obtain ⟨declaration, hdeclaration⟩ := hentry.exists_declare kind parent taken
    obtain ⟨below', hbelow'⟩ := ih hbelow (.node declaration.identifier)
      (taken ++ [declaration.identifier])
    obtain ⟨rest', hrest'⟩ := ih' hrest parent
      (taken ++ [declaration.identifier] ++ identifiers below'.preorder)
    exact ⟨cons declaration below' rest', by
      simp only [declare, hdeclaration, hbelow', hrest', ok_bind]; rfl⟩

/-- **A schema can be lowered if all its texts and options have a meaning.** -/
theorem Schema.exists_lower {schema : Schema}
    (h : ∀ node ∈ schema.preorder, node.2.Declarable) :
    ∃ declarations, schema.lower = .ok declarations := by
  rw [← schema.preorder_forest] at h
  obtain ⟨declared, hdeclared⟩ := Forest.exists_declare h .root []
  exact ⟨_, Schema.lower_eq_ok.2 ⟨declared, hdeclared, rfl⟩⟩

end CommandTree
