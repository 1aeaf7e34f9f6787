import CommandTree.Project.Artifact
import CommandTree.Proofs.Json.Reader
import CommandTree.Proofs.Schema.WellFormed
import CommandTree.Proofs.Yaml.Reader

/-!
# Reading schemas that were written

A schema is written as an indented JSON text; the file of a project that holds it ends in a line
break.  Either text gives the schema back exactly if it is well-formed.

* `Schema.wellFormed_of_ofText` : every schema that is read from a text is well-formed.
* `Schema.WellFormed.ofText_toText` : a well-formed schema is read back from its text.
* `Schema.KindsApart.ofText_toText_of_not_wellFormed` : the text of any other schema is refused.
* `Schema.jsonText_roundTrip` : both together.
-/

namespace CommandTree

namespace Schema

variable {schema : Schema} {source : String}

theorem ofText_eq_ok {format : DocumentFormat} {text : String} :
    ofText format source text = .ok schema ↔
      ∃ value, readDocument format source text = .ok value ∧ ofJson value = .ok schema := by
  rw [ofText, bind_eq_ok]
  refine exists_congr fun value => and_congr_right fun _ => ?_
  cases ofJson value with
  | ok schema' => simp [pure_eq_ok]
  | error violation => simp [throw, throwThe, MonadExceptOf.throw]

theorem readDocument_json_eq_ok {text : String} {value : Json} :
    readDocument .json source text = .ok value ↔ Json.parse text = .ok value := by
  unfold readDocument
  cases Json.parse text <;> simp

theorem readDocument_yaml_eq_ok {text : String} {value : Json} :
    readDocument .yaml source text = .ok value ↔ Json.ofYaml? text = some value := by
  unfold readDocument
  cases Json.ofYaml? text <;> simp

/-! ### What is read -/

theorem distinctKeys_of_readDocument {format : DocumentFormat} {text : String} {value : Json}
    (h : readDocument format source text = .ok value) : value.DistinctKeys := by
  cases format with
  | json => exact Json.distinctKeys_of_parse (readDocument_json_eq_ok.1 h)
  | yaml => exact Json.distinctKeys_of_ofYaml? (readDocument_yaml_eq_ok.1 h)

/-- A schema to which a value is converted is well-formed. -/
theorem wellFormed_of_ofJson {value : Json} (distinct : value.DistinctKeys)
    (h : ofJson value = .ok schema) : schema.WellFormed := by
  obtain ⟨hdocument, hdescribed⟩ := (ofJson_eq_ok distinct).1 h
  exact hdescribed.wellFormed hdocument

/-- A schema that is read from a text, in either format, is well-formed. -/
theorem wellFormed_of_ofText {format : DocumentFormat} {text : String}
    (h : ofText format source text = .ok schema) : schema.WellFormed := by
  obtain ⟨value, hread, hschema⟩ := ofText_eq_ok.1 h
  exact wellFormed_of_ofJson (distinctKeys_of_readDocument hread) hschema

/-! ### What is written -/

/-- The text of a schema is read as its document, whatever white space follows. -/
theorem KindsApart.readDocument_toText (h : schema.KindsApart) (hdepth : schema.toJson.depth ≤ 127)
    {space : String} (hspace : Json.skipSpace space.toList = []) (source : String) :
    readDocument .json source (schema.toText .json ++ space) = .ok schema.toJson := by
  have hlevels : schema.toJson.depth < Json.nestingLevels := Nat.lt_succ_of_le hdepth
  exact readDocument_json_eq_ok.2 (h.toJson_spec.2.parse_pretty hlevels hspace)

/-- The text of a well-formed schema is read as that schema, whatever white space follows. -/
theorem WellFormed.ofText_toText (h : schema.WellFormed) (hdepth : schema.toJson.depth ≤ 127)
    {space : String} (hspace : Json.skipSpace space.toList = []) (source : String) :
    ofText .json source (schema.toText .json ++ space) = .ok schema := by
  obtain ⟨hdocument, hdescribed, hreadable⟩ := h.toJson_spec
  refine ofText_eq_ok.2 ⟨schema.toJson, h.kindsApart.readDocument_toText hdepth hspace source, ?_⟩
  exact (ofJson_eq_ok hreadable.distinctKeys).2 ⟨hdocument, hdescribed⟩

/-- Every well-formed schema is read from some text. -/
theorem WellFormed.exists_text (h : schema.WellFormed) (hdepth : schema.toJson.depth ≤ 127)
    (source : String) : ∃ text, ofText .json source text = .ok schema := by
  have hspace : Json.skipSpace "\n".toList = [] := by decide
  exact ⟨_, h.ofText_toText hdepth hspace source⟩

/-- The text of a schema that is not well-formed is refused, as its document breaks the grammar. -/
theorem KindsApart.ofText_toText_of_not_wellFormed (h : schema.KindsApart)
    (hnot : ¬ schema.WellFormed) (hdepth : schema.toJson.depth ≤ 127) {space : String}
    (hspace : Json.skipSpace space.toList = []) (source : String) :
    ∃ violation, checkDocument schema.toJson = .error violation ∧
      ofText .json source (schema.toText .json ++ space) = .error (.invalid violation) := by
  rw [← h.isDocument_toJson, ← checkDocument_eq_ok] at hnot
  cases hcheck : checkDocument schema.toJson with
  | ok => exact absurd hcheck hnot
  | error violation =>
    have hvalue : ofJson schema.toJson = .error violation := by
      unfold ofJson
      rw [hcheck]
      rfl
    refine ⟨violation, rfl, ?_⟩
    rw [ofText, h.readDocument_toText hdepth hspace source, ok_bind, hvalue]
    rfl

/-- **A schema is read back from its text, and from the file that a project keeps of it, exactly if
it is well-formed; and every schema that is read from a text or converted from a value is
well-formed.** -/
theorem jsonText_roundTrip :
    (∀ (schema : Schema) (source : String), schema.toJson.depth ≤ 127 →
      (ofText .json source (schema.toText .json) = .ok schema ↔ schema.WellFormed) ∧
      (ofText .json source (ProjectFile.jsonSchema schema).content = .ok schema ↔
        schema.WellFormed)) ∧
    (∀ (format : DocumentFormat) (source text : String) (schema : Schema),
      ofText format source text = .ok schema → schema.WellFormed) ∧
    ∀ (value : Json) (schema : Schema), value.DistinctKeys →
      ofJson value = .ok schema → schema.WellFormed := by
  refine ⟨fun schema source hdepth => ⟨⟨wellFormed_of_ofText, fun h => ?_⟩,
    ⟨wellFormed_of_ofText, fun h => ?_⟩⟩, fun _ _ _ _ => wellFormed_of_ofText,
    fun _ _ => wellFormed_of_ofJson⟩
  · have hread := h.ofText_toText hdepth (by decide : Json.skipSpace "".toList = []) source
    rwa [String.append_empty] at hread
  · exact h.ofText_toText hdepth (by decide : Json.skipSpace "\n".toList = []) source

/-- A group without a name above a hidden command, with texts that must be escaped and with an
attribute that the grammar does not know. -/
def escapedSchema : Schema :=
  ⟨[.group ⟨⟨"", "\\\"", some "None", "False", []⟩, [],
    [⟨"tab\there", "\u0001 é \u2028", none, "True", [⟨.option, .ofList [("default", "None"),
      ("prompt", "\x7f"), ("type", "BOOL"), ("name", "--x"), ("\n", ""), ("required", "False"),
      ("help", "\"quoted\"")]⟩]⟩]⟩]⟩

theorem jsonText_roundTrip_escapedSchema :
    escapedSchema.toJson.depth ≤ 127 ∧ escapedSchema.toJson.DistinctKeys ∧
      ofText .json "a.json" (escapedSchema.toText .json) = .ok escapedSchema ∧
      ofText .json "b.json" (ProjectFile.jsonSchema escapedSchema).content = .ok escapedSchema ∧
      ofJson escapedSchema.toJson = .ok escapedSchema ∧ escapedSchema.WellFormed := by
  have depth : escapedSchema.toJson.depth ≤ 127 := by decide +kernel
  have wellFormed : escapedSchema.WellFormed := by decide +kernel
  obtain ⟨document, described, readable⟩ := wellFormed.toJson_spec
  have distinct := readable.distinctKeys
  have value := (ofJson_eq_ok distinct).2 ⟨document, described⟩
  have text := (jsonText_roundTrip.1 escapedSchema "a.json" depth).1.2 wellFormed
  have file := (jsonText_roundTrip.1 escapedSchema "b.json" depth).2.2
    (jsonText_roundTrip.2.1 .json "a.json" _ escapedSchema text)
  exact ⟨depth, distinct, text, file, value, jsonText_roundTrip.2.2 _ escapedSchema distinct value⟩

end Schema

end CommandTree
