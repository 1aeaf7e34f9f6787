import CommandTree.FileSystem.Tree
import CommandTree.Proofs.FileSystem.Paths
import CommandTree.Proofs.Schema.RoundTrip
import CommandTree.Proofs.Yaml.RoundTrip

/-!
# The schema files of a project

A project keeps its schema in two files, one in JSON and one in YAML, and both give it back.

* `Project.artifacts_eq_ok_iff` : when the files of a project can be made, and what they are.
* `Schema.WellFormed.ofText_toText_yaml` : a well-formed schema is read back from its YAML text.
* `Schema.yamlText_roundTrip` : that, and both files of a project.
-/

namespace CommandTree

/-! ### The files of a project -/

/-- The files of a project with the given program, in order. -/
def Project.files (project : Project) (schema : Schema) (source : String) : List ProjectFile :=
  [.program project.name source, .jsonSchema schema, .yamlSchema schema]

theorem Project.artifacts_eq_ok_iff {project : Project} {schema : Schema}
    {artifacts : List Artifact} : project.artifacts schema = .ok artifacts ↔
      isPlainName project.name = true ∧ ∃ source,
        schema.compileProgram Click.target project.entry = .ok source ∧
          artifacts = (project.files schema source).map (ProjectFile.artifact project.path) := by
  unfold Project.artifacts
  cases isPlainName project.name with
  | false => simp
  | true =>
    cases schema.compileProgram Click.target project.entry with
    | error error => simp
    | ok source => simp [Project.files, eq_comm]

/-! ### Texts -/

namespace Schema

variable {schema : Schema}

/-- The YAML text of a well-formed schema is read as that schema. -/
theorem WellFormed.ofText_toText_yaml (h : schema.WellFormed) (hdepth : schema.toJson.depth ≤ 127)
    (source : String) : ofText .yaml source (schema.toText .yaml) = .ok schema := by
  obtain ⟨hdocument, hdescribed, hreadable⟩ := h.toJson_spec
  have hlevels : schema.toJson.depth ≤ Yaml.Node.nestingLevels := Nat.le_succ_of_le hdepth
  refine ofText_eq_ok.2 ⟨schema.toJson, ?_, ?_⟩
  · exact readDocument_yaml_eq_ok.2 (hreadable.ofYaml?_toYaml trivial hlevels)
  · exact (ofJson_eq_ok hreadable.distinctKeys).2 ⟨hdocument, hdescribed⟩

/-- A file is loaded in the format that its name says. -/
theorem load_eq_ok {format : DocumentFormat} {base name text : String} {files : FileSystem}
    (hname : Path.IsFileName name)
    (hformat : (Path.extension? name).bind DocumentFormat.ofExtension? = some format)
    (hread : files.read (Path.join base name) = .ok text)
    (htext : ofText format (Path.join base name) text = .ok schema) :
    (load (Path.join base name) : StateM FileSystem _).run files = (.ok schema, files) := by
  rw [← Path.extension?_join base hname] at hformat
  have hrun : (FileAccess.read (Path.join base name) : StateM FileSystem _).run files =
      (.ok text, files) := congrArg (·, files) hread
  rw [load, hformat, ← htext]
  dsimp only
  rw [StateT.run_bind, hrun]
  rfl

/-- A project that can be made has a program and the schema in both formats. -/
theorem artifacts_eq_ok {project : Project} {artifacts : List Artifact}
    (h : project.artifacts schema = .ok artifacts) :
    ∃ source, artifacts =
      [ProjectFile.program project.name source, .jsonSchema schema, .yamlSchema schema].map
        (ProjectFile.artifact project.path) := by
  obtain ⟨-, source, -, rfl⟩ := Project.artifacts_eq_ok_iff.1 h
  exact ⟨source, rfl⟩

/-- **A well-formed schema is read back from its YAML text, and both files that a project keeps of
it load to the schema.** -/
theorem yamlText_roundTrip (schema : Schema) (wellFormed : schema.WellFormed)
    (depth : schema.toJson.depth ≤ 127) :
    (∀ source : String, ofText .yaml source (schema.toText .yaml) = .ok schema) ∧
    ∀ (project : Project) (artifacts : List Artifact), project.artifacts schema = .ok artifacts →
      ∃ json ∈ artifacts, ∃ yaml ∈ artifacts,
        json.path = Path.join project.path "schema.json" ∧
        yaml.path = Path.join project.path "schema.yaml" ∧
        ∀ files : FileSystem, files.read json.path = .ok json.content →
          files.read yaml.path = .ok yaml.content →
          (load json.path : StateM FileSystem _).run files = (.ok schema, files) ∧
          (load yaml.path : StateM FileSystem _).run files = (.ok schema, files) := by
  have hyaml := wellFormed.ofText_toText_yaml depth
  have hjson := wellFormed.ofText_toText depth (by decide : Json.skipSpace "\n".toList = [])
  refine ⟨hyaml, fun project artifacts hartifacts => ?_⟩
  obtain ⟨source, rfl⟩ := artifacts_eq_ok hartifacts
  refine ⟨ProjectFile.artifact project.path (.jsonSchema schema), by simp,
    ProjectFile.artifact project.path (.yamlSchema schema), by simp, rfl, rfl,
    fun files hjsonFile hyamlFile => ⟨?_, ?_⟩⟩
  · have hname : Path.IsFileName "schema.json" := by decide
    have hformat : (Path.extension? "schema.json").bind DocumentFormat.ofExtension? =
        some .json := by decide +kernel
    exact load_eq_ok hname hformat hjsonFile (hjson _)
  · have hname : Path.IsFileName "schema.yaml" := by decide
    have hformat : (Path.extension? "schema.yaml").bind DocumentFormat.ofExtension? =
        some .yaml := by decide +kernel
    exact load_eq_ok hname hformat hyamlFile (hyaml _)

/-- A schema whose texts need all styles: words that look like other values, blocks that start or
end with line breaks, quotes and characters that must be escaped. -/
def tangledSchema : Schema :=
  ⟨[.group ⟨⟨"tool", "\n  indented\n\n", some "null", "False", []⟩, [],
    [⟨"run", "one\ntwo", none, "True", [⟨.option, .ofList [("name", "--x"), ("help", "it's: #1"),
      ("type", "BOOL"), ("default", "None"), ("required", "False"),
      ("prompt", "\u0001\t\u2028")]⟩]⟩]⟩, .command ⟨"0x1F", "--- \u2029", some "a: b", "True", []⟩]⟩

theorem yamlText_roundTrip_tangledSchema :
    ∃ artifacts files, tangledSchema.WellFormed ∧ tangledSchema.toJson.depth ≤ 127 ∧
      (⟨"app", "my", none⟩ : Project).artifacts tangledSchema = .ok artifacts ∧
      ofText .yaml "a.yaml" (tangledSchema.toText .yaml) = .ok tangledSchema ∧
      (load "app/schema.json" : StateM FileSystem _).run files = (.ok tangledSchema, files) ∧
      (load "app/schema.yaml" : StateM FileSystem _).run files = (.ok tangledSchema, files) := by
  have depth : tangledSchema.toJson.depth ≤ 127 := by decide +kernel
  have wellFormed : tangledSchema.WellFormed := by decide +kernel
  obtain ⟨text, loaded⟩ := yamlText_roundTrip tangledSchema wellFormed depth
  have made : ((⟨"app", "my", none⟩ : Project).artifacts tangledSchema).isOk = true := by
    decide +kernel
  cases hartifacts : (⟨"app", "my", none⟩ : Project).artifacts tangledSchema with
  | error error =>
    rw [hartifacts] at made
    cases made
  | ok artifacts =>
    obtain ⟨json, -, yaml, -, hjson, hyaml, hload⟩ := loaded _ artifacts hartifacts
    have hpaths : json.path = "app/schema.json" ∧ yaml.path = "app/schema.yaml" := by
      rw [hjson, hyaml]
      decide +kernel
    let files : FileSystem := ⟨[("app", .directory [("schema.json", .file json.content),
      ("schema.yaml", .file yaml.content)])], []⟩
    rw [hpaths.1, hpaths.2] at hload
    obtain ⟨first, second⟩ := hload files rfl rfl
    exact ⟨artifacts, files, wellFormed, depth, rfl, text "a.yaml", first, second⟩

end Schema

end CommandTree
