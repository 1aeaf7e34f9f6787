import CommandTree.Program.Run
import CommandTree.Proofs.Click.Injective
import CommandTree.Proofs.Declaration.EntryPoints
import CommandTree.Proofs.Project.Wholeness

/-!
# What is checked and what is compiled

Checking a schema reads it, lowers it and lints it; compiling it reads it, lowers it, looks for the
node to start with and writes the program.  Both only read files, so both find the same schema.
They accept the same schemas but one: a schema without nodes is valid, and there is nothing in it to
start with.

* `Schema.severity_ne_error` : no diagnostic makes a check fail.
* `Schema.compileProgram_of_lower` : only a schema without nodes has nothing to start with.
* `Answers` : a program that changes no files ends with a result; `answers_runCheck`,
  `answers_runCompile` and `answers_runCommandLine` : the results of commands and command lines as
  functions of what is read.
* `succeeds_check_iff`, `succeeds_compile_iff` : which schemas the two commands accept.
* `compile_succeeds_iff` : compiling succeeds exactly if checking does and there is a node.
* `check_succeeds_emptyDocument` : the empty document is valid, and cannot be compiled.
-/

namespace CommandTree

/-! ### Diagnostics -/

namespace LintRule

theorem severity_of_mem_checkSiblings {above : String} {names : List String}
    {diagnostic : Diagnostic} (h : diagnostic ∈ checkSiblings above names) :
    diagnostic.severity = .warning := by
  obtain ⟨name, -, rfl⟩ := List.mem_map.1 h
  rfl

mutual

theorem severity_of_mem_checkBelow {diagnostic : Diagnostic} : ∀ {above : String} {group : Group},
    diagnostic ∈ checkBelow above group → diagnostic.severity = .warning
  | _, ⟨_, _, _⟩, h => by
    rw [checkBelow, List.mem_append] at h
    obtain h | h := h
    · exact severity_of_mem_checkSiblings h
    · exact severity_of_mem_checkBelowList h

theorem severity_of_mem_checkBelowList {diagnostic : Diagnostic} :
    ∀ {above : String} {groups : List Group},
      diagnostic ∈ checkBelowList above groups → diagnostic.severity = .warning
  | _, [], h => by cases h
  | _, _ :: _, h => by
    rw [checkBelowList, List.mem_append] at h
    obtain h | h := h
    · exact severity_of_mem_checkBelow h
    · exact severity_of_mem_checkBelowList h

end

/-- Every rule warns or informs, always in the same way. -/
theorem severity_of_mem_check {rule : LintRule} {schema : Schema} {diagnostic : Diagnostic}
    (h : diagnostic ∈ rule.check schema) :
    diagnostic.severity = if rule = .argumentDropped then .info else .warning := by
  cases rule with
  | duplicateSibling =>
    rw [check, List.mem_append, List.mem_flatMap] at h
    obtain h | ⟨node, -, h⟩ := h
    · exact severity_of_mem_checkSiblings h
    · cases node with
      | group group => exact severity_of_mem_checkBelow h
      | command entry => cases h
  | emptyHelp =>
    obtain ⟨visit, -, h⟩ := List.mem_flatMap.1 h
    rw [checkHelp] at h
    split_ifs at h
    · obtain rfl := List.mem_singleton.1 h
      rfl
    · cases h
  | argumentDropped =>
    obtain ⟨visit, -, h⟩ := List.mem_flatMap.1 h
    obtain ⟨param, -, rfl⟩ := List.mem_map.1 h
    rfl

end LintRule

/-- No diagnostic is an error. -/
theorem Schema.severity_ne_error {schema : Schema} {diagnostic : Diagnostic}
    (h : diagnostic ∈ schema.lint) : diagnostic.severity ≠ .error := by
  obtain ⟨rule, -, h⟩ := List.mem_flatMap.1 h
  rw [LintRule.severity_of_mem_check h]
  split_ifs <;> decide

/-! ### The node to start with -/

section EntryPoint

variable {schema : Schema} {declarations : List Declaration}

theorem entryPoint_none : entryPoint declarations none = match (topLevel declarations).head? with
    | some declaration => .ok declaration.identifier
    | none => .error .noEntryPoint := rfl

/-- A schema that can be lowered can be compiled, unless it has no node. -/
theorem Schema.compileProgram_of_lower (lowered : schema.lower = .ok declarations)
    (target : Target) :
    (schema.nodes ≠ [] → ∃ source, schema.compileProgram target none = .ok source) ∧
      (schema.nodes = [] → schema.compileProgram target none = .error .noEntryPoint) := by
  rw [ne_eq, ← topLevel_eq_nil_iff lowered, compileProgram, lowered, ok_bind, entryPoint_none]
  cases topLevel declarations with
  | nil => exact ⟨fun h => absurd rfl h, fun _ => rfl⟩
  | cons declaration rest => exact ⟨fun _ => ⟨_, rfl⟩, fun h => by cases h⟩

/-- A schema without a given node to start with can be compiled exactly if it can be lowered and has
a node. -/
theorem Schema.exists_compileProgram_iff (target : Target) :
    (∃ source, schema.compileProgram target none = .ok source) ↔
      (∃ declarations, schema.lower = .ok declarations) ∧ schema.nodes ≠ [] := by
  constructor
  · rintro ⟨source, h⟩
    obtain ⟨declarations, lowered, -⟩ := bind_eq_ok.1 h
    refine ⟨⟨declarations, lowered⟩, fun hnodes => ?_⟩
    rw [(compileProgram_of_lower lowered target).2 hnodes] at h
    cases h
  · rintro ⟨⟨declarations, lowered⟩, hnodes⟩
    exact (compileProgram_of_lower lowered target).1 hnodes

theorem Schema.lower_of_nodes (h : schema.nodes = []) : schema.lower = .ok [] := by
  obtain ⟨nodes⟩ := schema
  obtain rfl : nodes = [] := h
  rfl

end EntryPoint

/-! ### Reading files -/

/-- Whether a program leaves the state as it is. -/
def ReadsOnly {σ α : Type} (program : StateM σ α) : Prop :=
  ∀ state, (program.run state).2 = state

/-- Files of which reading changes nothing.  What is read is up to the state: a file may be missing,
or there for nobody to read. -/
class QuietAccess (σ : Type) [FileAccess (StateM σ)] : Prop where
  /-- Looking at a path changes nothing. -/
  kind? : ∀ path, ReadsOnly (FileAccess.kind? path : StateM σ _)
  /-- Reading a file changes nothing. -/
  read : ∀ path, ReadsOnly (FileAccess.read path : StateM σ _)

instance : QuietAccess FileSystem :=
  ⟨fun _ _ => rfl, fun _ _ => rfl⟩

section Reading

variable {σ α β : Type}

theorem readsOnly_pure (a : α) : ReadsOnly (pure a : StateM σ α) :=
  fun _ => rfl

theorem ReadsOnly.bind {program : StateM σ α} {next : α → StateM σ β} (h : ReadsOnly program)
    (hnext : ∀ a, ReadsOnly (next a)) : ReadsOnly (program >>= next) :=
  fun state => (hnext _ _).trans (h state)

variable [FileAccess (StateM σ)] [QuietAccess σ]

theorem Schema.readsOnly_load (path : String) :
    ReadsOnly (Schema.load path : StateM σ _) := by
  rw [load]
  cases (Path.extension? path).bind DocumentFormat.ofExtension? with
  | none => exact readsOnly_pure _
  | some format =>
    refine (QuietAccess.read path).bind fun result => ?_
    cases result with
    | error cause => exact readsOnly_pure _
    | ok text => exact readsOnly_pure _

theorem Config.readsOnly_ofFile (path : String) :
    ReadsOnly (Config.ofFile path : StateM σ _) := by
  refine (QuietAccess.read path).bind fun result => ?_
  cases result with
  | error cause => exact readsOnly_pure _
  | ok text =>
    dsimp only
    cases ofText? text with
    | none => exact readsOnly_pure _
    | some config => exact readsOnly_pure _

theorem Config.readsOnly_load (requested : Option String) :
    ReadsOnly (Config.load requested : StateM σ _) := by
  cases requested with
  | some path => exact readsOnly_ofFile path
  | none =>
    refine (QuietAccess.kind? defaultPath).bind fun kind => ?_
    split
    · exact readsOnly_ofFile defaultPath
    · exact readsOnly_pure _

end Reading

section Found

variable {σ : Type} [FileAccess (StateM σ)] (files : σ)

/-- The schema in a file, or why there is none. -/
def schemaAt (path : String) : Except SchemaError Schema :=
  ((Schema.load path : StateM σ _).run files).1

/-- The configuration that is used, or why there is none. -/
def configuration (requested : Option String) : Except Config.LoadError Config :=
  ((Config.load requested : StateM σ _).run files).1

/-- Whether a schema is the one that a command is about, for which a configuration and a path may be
requested. -/
def Finds (config schema : Option String) (found : Schema) : Prop :=
  ∃ settings, configuration files config = .ok settings ∧
    schemaAt files (settings.schemaPath schema) = .ok found

variable {files}

theorem Finds.unique {config schema : Option String} {found other : Schema}
    (h : Finds files config schema found) (hother : Finds files config schema other) :
    found = other := by
  obtain ⟨settings, hsettings, hfound⟩ := h
  obtain ⟨_, hsame, hother⟩ := hother
  obtain rfl := Except.ok.inj (hsettings.symm.trans hsame)
  exact Except.ok.inj (hfound.symm.trans hother)

end Found

/-! ### Results -/

section Answers

variable {σ α β : Type} (files : σ)

/-- Whether a program ends with a result and leaves all files as they are. -/
def Answers (program : ExceptT Failure (StateM σ) α) (result : Except Failure α) : Prop :=
  program.run.run files = (result, files)

variable {files}

/-- A step that depends on the result of another one is taken unless that is an error. -/
theorem Answers.bind {program : ExceptT Failure (StateM σ) α}
    {next : α → ExceptT Failure (StateM σ) β} {first : Except Failure α}
    {results : α → Except Failure β} (h : Answers files program first)
    (hnext : ∀ a, Answers files (next a) (results a)) :
    Answers files (program >>= next) (first >>= results) := by
  have hrun : (program >>= next).run.run files = match program.run.run files with
      | (.ok a, files) => (next a).run.run files
      | (.error error, files) => (.error error, files) := by
    rw [ExceptT.run_bind, StateT.run_bind]
    obtain ⟨_ | _, _⟩ := program.run.run files <;> rfl
  rw [Answers, hrun, h]
  cases first with
  | error error => rfl
  | ok a => exact hnext a

/-- A program that only reads has a result that is no error of the commands. -/
theorem ReadsOnly.answers {program : StateM σ α} (h : ReadsOnly program) :
    Answers files (program : ExceptT Failure (StateM σ) α) (.ok (program.run files).1) :=
  Prod.ext rfl (h files)

end Answers

/-! ### What the commands do -/

/-- The project that a compilation shows. -/
def previewed (config : Config) (name entry : Option String) : Project :=
  let name := (name <|> config.name).getD previewName
  ⟨name, name, config.entryPoint entry⟩

/-- What is shown of a project. -/
def shown (sourceOnly : Bool) (artifacts : List Artifact) : Output :=
  if sourceOnly then { results := (artifacts.head?.map Artifact.content).getD "" }
  else .ofPreview artifacts

section Commands

variable {σ : Type} (files : σ)

/-- The declarations of a schema, or the failure that tells why there are none. -/
def lowerResult (schema : Schema) : Except Failure (List Declaration) :=
  schema.lower.mapError fun error => .because "Schema cannot be compiled" [error.message]

/-- The artifacts of a project, or the failure that tells why there are none. -/
def compileResult (project : Project) (schema : Schema) : Except Failure (List Artifact) :=
  (project.artifacts schema).mapError fun error =>
    .because "Failed to compile schema" [error.message]

theorem answers_lowerSchema (schema : Schema) :
    Answers files (lowerSchema schema) (lowerResult schema) := by
  rw [lowerSchema, lowerResult]
  cases schema.lower <;> rfl

variable [FileAccess (StateM σ)]

/-- The schema in a file, or the failure that tells why there is none. -/
def loadResult (path : String) : Except Failure Schema :=
  (schemaAt files path).mapError .schema

variable [QuietAccess σ]

theorem answers_loadSchema (path : String) :
    Answers files (loadSchema path) (loadResult files path) := by
  have h : Answers files (loadSchema path)
      (.ok (schemaAt files path) >>= fun result => result.mapError Failure.schema) := by
    refine (Schema.readsOnly_load path).answers.bind fun result => ?_
    cases result <;> rfl
  exact h

/-- A schema that is loaded and lowered is valid, whatever the diagnostics are. -/
theorem answers_runCheck (config : Config) (schema : Option String) :
    Answers files (runCheck config schema) (do
      let found ← loadResult files (config.schemaPath schema)
      discard (lowerResult found)
      return .ofCheck (config.schemaPath schema) found found.lint) := by
  refine (answers_loadSchema files _).bind fun found => ?_
  -- what is checked last stops nothing, as no diagnostic is an error
  have hpasses : (found.lint.any fun diagnostic => diagnostic.severity = .error) = false := by
    rw [List.any_eq_false]
    exact fun diagnostic h => by simpa using Schema.severity_ne_error h
  have hdiscard : Answers files (discard (lowerSchema found)) (discard (lowerResult found)) :=
    (answers_lowerSchema files found).bind fun _ => rfl
  refine hdiscard.bind fun _ => ?_
  simp only [hpasses]
  rfl

/-- The artifacts of a project are shown, whatever is shown of them. -/
theorem answers_runCompile (config : Config) (schema name entry : Option String)
    (sourceOnly : Bool) :
    Answers files (runCompile config schema name entry sourceOnly) (do
      let found ← loadResult files (config.schemaPath schema)
      return shown sourceOnly (← compileResult (previewed config name entry) found)) := by
  refine (answers_loadSchema files _).bind fun found => ?_
  dsimp only [previewed, compileResult]
  generalize Project.artifacts _ found = result
  cases result with
  | error error => rfl
  | ok artifacts => cases sourceOnly <;> rfl

/-- A command line that can be read is carried out with the configuration. -/
theorem answers_runCommandLine {prompt : ReplacePrompt (StateM σ)} {words : List String}
    {invocation : Invocation} {result : Config → Except Failure Output}
    (hwords : Invocation.ofWords words = .ok invocation)
    (hrun : ∀ settings, Answers files (invocation.request.run settings prompt) (result settings)) :
    Answers files (runCommandLine prompt words) (do
      let settings ← (configuration files invocation.config).mapError (.chain ·.chain)
      result settings) := by
  rw [runCommandLine, hwords]
  have hload : Answers files _ (.ok (configuration files invocation.config)) :=
    (Config.readsOnly_load invocation.config).answers
  refine (hload.bind fun loaded => ?_ : Answers files _ (.ok (configuration files invocation.config)
    >>= fun loaded => loaded.mapError (.chain ·.chain) >>= result))
  cases loaded with
  | error error => rfl
  | ok settings => exact hrun settings

end Commands

/-! ### What is accepted -/

/-- Whether a command line is carried out without a failure. -/
def Succeeds {σ : Type} [FileAccess (StateM σ)] (prompt : ReplacePrompt (StateM σ)) (files : σ)
    (words : List String) : Prop :=
  ∃ output, ((runCommandLine prompt words).run.run files).1 = .ok output

/-- The files of a project without a given node to start with can be made exactly if its schema can
be lowered and has a node. -/
theorem Project.exists_artifacts_iff {project : Project} {schema : Schema}
    (plain : isPlainName project.name = true) (entry : project.entry = none) :
    (∃ artifacts, project.artifacts schema = .ok artifacts) ↔
      (∃ declarations, schema.lower = .ok declarations) ∧ schema.nodes ≠ [] := by
  rw [← Schema.exists_compileProgram_iff Click.target]
  simp only [Project.artifacts_eq_ok_iff, plain, true_and, entry]
  exact ⟨fun ⟨_, source, h, _⟩ => ⟨source, h⟩, fun ⟨source, h⟩ => ⟨_, source, h, rfl⟩⟩

theorem Project.artifacts_of_nodes {project : Project} {schema : Schema}
    (plain : isPlainName project.name = true) (entry : project.entry = none)
    (hnodes : schema.nodes = []) :
    project.artifacts schema = .error (.configuration .noEntryPoint) := by
  have hprogram : schema.compileProgram Click.target none = .error .noEntryPoint :=
    (Schema.compileProgram_of_lower (Schema.lower_of_nodes hnodes) _).2 hnodes
  rw [artifacts, if_pos plain, entry, hprogram]

section Acceptance

variable {σ : Type} [FileAccess (StateM σ)] [QuietAccess σ] {files : σ}
  {prompt : ReplacePrompt (StateM σ)} {words : List String} {config schema name : Option String}
  {sourceOnly : Bool}

/-- A command that starts with loading its schema succeeds if there is one and the rest succeeds. -/
theorem succeeds_iff {request : Request} {rest : Config → Schema → Except Failure Output}
    (hwords : Invocation.ofWords words = .ok ⟨config, request⟩)
    (hrun : ∀ settings, Answers files (request.run settings prompt)
      (loadResult files (settings.schemaPath schema) >>= rest settings)) :
    Succeeds prompt files words ↔ ∃ settings found, configuration files config = .ok settings ∧
      schemaAt files (settings.schemaPath schema) = .ok found ∧
        ∃ output, rest settings found = .ok output := by
  have hanswers := answers_runCommandLine files hwords hrun
  rw [Succeeds, hanswers]
  simp only [bind_eq_ok, mapError_eq_ok, loadResult]
  constructor
  · rintro ⟨output, settings, hsettings, found, hfound, h⟩
    exact ⟨settings, found, hsettings, hfound, output, h⟩
  · rintro ⟨settings, found, hsettings, hfound, output, h⟩
    exact ⟨output, settings, hsettings, found, hfound, h⟩

/-- A check succeeds exactly if there is a schema that can be lowered. -/
theorem succeeds_check_iff (hwords : Invocation.ofWords words = .ok ⟨config, .check schema⟩) :
    Succeeds prompt files words ↔ ∃ found, Finds files config schema found ∧
      ∃ declarations, found.lower = .ok declarations := by
  rw [succeeds_iff hwords fun settings => answers_runCheck files settings schema]
  constructor
  · rintro ⟨settings, found, hsettings, hfound, output, h⟩
    obtain ⟨_, hlowered, -⟩ := bind_eq_ok.1 h
    exact ⟨found, ⟨settings, hsettings, hfound⟩,
      (discard_eq_ok.1 hlowered).imp fun _ h => mapError_eq_ok.1 h⟩
  · rintro ⟨found, ⟨settings, hsettings, hfound⟩, declarations, h⟩
    have hlowered : lowerResult found = .ok declarations := mapError_eq_ok.2 h
    exact ⟨settings, found, hsettings, hfound, _, by rw [hlowered]; rfl⟩

variable
  (hplain : ∀ settings, configuration files config = .ok settings →
    settings.entry = none ∧ isPlainName ((name <|> settings.name).getD previewName) = true)

include hplain

/-- A compilation without a given node to start with succeeds exactly if there is a schema that can
be lowered and has a node. -/
theorem succeeds_compile_iff
    (hwords : Invocation.ofWords words = .ok ⟨config, .compile schema name none sourceOnly⟩) :
    Succeeds prompt files words ↔ ∃ found, Finds files config schema found ∧
      (∃ declarations, found.lower = .ok declarations) ∧ found.nodes ≠ [] := by
  have hrest : ∀ settings found, configuration files config = .ok settings →
      ((∃ output, (return shown sourceOnly (← compileResult (previewed settings name none) found) :
          Except Failure Output) = .ok output) ↔
        (∃ declarations, found.lower = .ok declarations) ∧ found.nodes ≠ []) := by
    intro settings found hsettings
    obtain ⟨hentry, hname⟩ := hplain settings hsettings
    have hproject : (previewed settings name none).entry = none := hentry
    rw [← Project.exists_artifacts_iff hname hproject]
    simp [bind_eq_ok, compileResult, mapError_eq_ok, pure_eq_ok]
  rw [succeeds_iff hwords fun settings => answers_runCompile files settings schema name none
    sourceOnly]
  constructor
  · rintro ⟨settings, found, hsettings, hfound, h⟩
    exact ⟨found, ⟨settings, hsettings, hfound⟩, (hrest settings found hsettings).1 h⟩
  · rintro ⟨found, ⟨settings, hsettings, hfound⟩, h⟩
    exact ⟨settings, found, hsettings, hfound, (hrest settings found hsettings).2 h⟩

/-- A compilation fails if there is nothing to start with. -/
theorem run_compile_of_nodes {found : Schema}
    (hwords : Invocation.ofWords words = .ok ⟨config, .compile schema name none sourceOnly⟩)
    (hfound : Finds files config schema found) (hnodes : found.nodes = []) :
    (runCommandLine prompt words).run.run files =
      (.error (.because "Failed to compile schema" [ConfigurationError.noEntryPoint.message]),
        files) := by
  obtain ⟨settings, hsettings, hloaded⟩ := hfound
  obtain ⟨hentry, hname⟩ := hplain settings hsettings
  have hmade : compileResult (previewed settings name none) found = .error (.because
      "Failed to compile schema" [(ArtifactError.configuration .noEntryPoint).message]) := by
    rw [compileResult, Project.artifacts_of_nodes hname hentry hnodes]
    rfl
  refine (answers_runCommandLine files hwords fun settings =>
    answers_runCompile files settings schema name none sourceOnly).trans ?_
  rw [hsettings]
  simp only [loadResult, hloaded, hmade, Except.mapError, ok_bind, error_bind]
  rfl

/-- **What is valid can be compiled, unless it is empty.**  When no node to start with is given and
the name of the project is plain, compiling succeeds exactly if checking does and the schema has a
node.  A schema without nodes is valid, and compiling it fails as there is nothing to start with. -/
theorem compile_succeeds_iff {checking compiling : List String}
    (hcheck : Invocation.ofWords checking = .ok ⟨config, .check schema⟩)
    (hcompile : Invocation.ofWords compiling = .ok ⟨config, .compile schema name none sourceOnly⟩) :
    (Succeeds prompt files compiling ↔
      Succeeds prompt files checking ∧
        ∃ found, Finds files config schema found ∧ found.nodes ≠ []) ∧
    ∀ found, Finds files config schema found → found.nodes = [] →
      Succeeds prompt files checking ∧
      (runCommandLine prompt compiling).run.run files =
        (.error (.because "Failed to compile schema" [ConfigurationError.noEntryPoint.message]),
          files) := by
  rw [succeeds_compile_iff hplain hcompile, succeeds_check_iff hcheck]
  refine ⟨⟨?_, ?_⟩, ?_⟩
  · rintro ⟨found, hfound, hlower, hnodes⟩
    exact ⟨⟨found, hfound, hlower⟩, found, hfound, hnodes⟩
  · rintro ⟨⟨found, hfound, hlower⟩, other, hother, hnodes⟩
    -- both command lines find the same schema
    obtain rfl := hfound.unique hother
    exact ⟨found, hfound, hlower, hnodes⟩
  · intro found hfound hnodes
    exact ⟨⟨found, hfound, _, Schema.lower_of_nodes hnodes⟩,
      run_compile_of_nodes hplain hcompile hfound hnodes⟩

end Acceptance

/-- A working directory with a schema in it, and with nothing else. -/
def schemaDirectory (text : String) : FileSystem :=
  ⟨[("work", .directory [("schema.json", .file text)])], ["work"]⟩

/-- There is no configuration in such a directory. -/
theorem configuration_schemaDirectory (text : String) :
    configuration (schemaDirectory text) none = .ok {} := rfl

theorem plain_schemaDirectory (text : String) (name : Option String)
    (h : isPlainName (name.getD previewName) = true) (settings : Config)
    (hsettings : configuration (schemaDirectory text) none = .ok settings) :
    settings.entry = none ∧ isPlainName ((name <|> settings.name).getD previewName) = true := by
  obtain rfl := Except.ok.inj ((configuration_schemaDirectory text).symm.trans hsettings)
  cases name <;> exact ⟨rfl, h⟩

/-- The schema that is found in such a directory is the one that the text describes. -/
theorem finds_schemaDirectory {text : String} {found : Schema}
    (h : Schema.ofText .json "schema.json" text = .ok found) :
    Finds (schemaDirectory text) none none found := by
  have hname : Path.IsFileName "schema.json" := by decide
  have hformat : (Path.extension? "schema.json").bind DocumentFormat.ofExtension? =
      some .json := by decide +kernel
  have hload : (Schema.load (Path.join "" "schema.json") : StateM FileSystem _).run
      (schemaDirectory text) = (.ok found, schemaDirectory text) :=
    Schema.load_eq_ok hname hformat rfl h
  exact ⟨{}, configuration_schemaDirectory text, congrArg Prod.fst hload⟩

theorem compile_succeeds_iff_quotingTools :
    let files := schemaDirectory (quotingTools.toText .json ++ "\n")
    Invocation.ofWords ["check"] = .ok ⟨none, .check none⟩ ∧
    Invocation.ofWords ["compile", "-n", "my"] = .ok ⟨none, .compile none (some "my") none false⟩ ∧
    configuration files none = .ok {} ∧ Finds files none none quotingTools ∧
    Succeeds neverReplace files ["check"] ∧
    Succeeds neverReplace files ["compile", "-n", "my"] := by
  intro files
  have hcheck : Invocation.ofWords ["check"] = .ok ⟨none, .check none⟩ := by decide +kernel
  have hcompile : Invocation.ofWords ["compile", "-n", "my"] =
      .ok ⟨none, .compile none (some "my") none false⟩ := by decide +kernel
  have hsettings : configuration files none = .ok {} := configuration_schemaDirectory _
  have wellFormed : quotingTools.WellFormed := by decide +kernel
  have hfound : Finds files none none quotingTools :=
    finds_schemaDirectory (wellFormed.ofText_toText (by decide +kernel) (by decide) "schema.json")
  have lowered : quotingTools.lower = .ok quotingToolDeclarations := by decide +kernel
  have checks : Succeeds neverReplace files ["check"] :=
    (succeeds_check_iff hcheck).2 ⟨_, hfound, _, lowered⟩
  have hplain := plain_schemaDirectory (quotingTools.toText .json ++ "\n") (some "my") (by decide)
  exact ⟨hcheck, hcompile, hsettings, hfound, checks,
    (compile_succeeds_iff hplain hcheck hcompile).1.2 ⟨checks, _, hfound, by decide⟩⟩

/-- The empty document is valid, and cannot be compiled. -/
theorem check_succeeds_emptyDocument :
    let files := schemaDirectory "[]"
    Invocation.ofWords ["check"] = .ok ⟨none, .check none⟩ ∧
    Invocation.ofWords ["compile"] = .ok ⟨none, .compile none none none false⟩ ∧
    configuration files none = .ok {} ∧ isPlainName previewName = true ∧
    Succeeds neverReplace files ["check"] ∧ ¬ Succeeds neverReplace files ["compile"] := by
  intro files
  have hcheck : Invocation.ofWords ["check"] = .ok ⟨none, .check none⟩ := by decide +kernel
  have hcompile : Invocation.ofWords ["compile"] =
      .ok ⟨none, .compile none none none false⟩ := by decide +kernel
  have hsettings : configuration files none = .ok {} := configuration_schemaDirectory _
  have hfound : Finds files none none ⟨[]⟩ := finds_schemaDirectory rfl
  refine ⟨hcheck, hcompile, hsettings, by decide,
    (succeeds_check_iff hcheck).2 ⟨_, hfound, _, rfl⟩, fun h => ?_⟩
  have hplain := plain_schemaDirectory "[]" none (by decide)
  obtain ⟨found, hother, -, hnodes⟩ := (succeeds_compile_iff hplain hcompile).1 h
  obtain rfl := hfound.unique hother
  exact hnodes rfl

end CommandTree
