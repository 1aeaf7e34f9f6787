import CommandTree.Proofs.Click.Injective
import CommandTree.Proofs.FileSystem.Disk

/-!
# The steps in which a project is made

A project is made in several steps, each of which may fail, on a disk that may refuse any of them.
Which steps are taken is said once, and everything else follows from that.

* `Clears` and `Generates` : the steps that are taken, with what comes out in the end.
* `Project.generateOn` runs the program on a disk; `generates_run` : these are its steps.
* `models_generate` : a disk that refuses nothing is a bare file system.
* `generate_refused` : a project that is refused leaves everything as it was.
-/

namespace CommandTree

/-! ### The steps -/

section Steps

variable (refusals : Refusals) (answer : World → String → Except (List String) Bool)

/-- What happens when a path is cleared: the result and the world afterwards. -/
inductive Clears (path : String) (world : World) : Except ProjectError Bool → World → Prop
  | absent (nothing : world.files.kind? path = none) : Clears path world (.ok false) world
  | prompt {reasons : List String} (something : (world.files.kind? path).isSome)
      (unanswered : answer world path = .error reasons) :
      Clears path world (.error (.prompt path reasons)) (world.asked path)
  | alreadyExists (something : (world.files.kind? path).isSome)
      (no : answer world path = .ok false) :
      Clears path world (.error (.alreadyExists path)) (world.asked path)
  | remove {cause : FileError} {after : World} (something : (world.files.kind? path).isSome)
      (yes : answer world path = .ok true)
      (failed : (removePath path : Disk refusals _).run (world.asked path) =
        (.error cause, after)) :
      Clears path world (.error (.remove path cause)) after
  | replaced {after : World} (something : (world.files.kind? path).isSome)
      (yes : answer world path = .ok true)
      (removed : (removePath path : Disk refusals _).run (world.asked path) = (.ok (), after)) :
      Clears path world (.ok true) after

/-- What happens when a project is made: the result and the world afterwards. -/
inductive Generates (project : Project) (schema : Schema) (world : World) :
    Except ProjectError GeneratedProject → World → Prop
  | artifact {error : ArtifactError} (failed : project.artifacts schema = .error error) :
      Generates project schema world (.error (.artifact error)) world
  | clear {artifacts : List Artifact} {error : ProjectError} {after : World}
      (ready : project.artifacts schema = .ok artifacts)
      (failed : Clears refusals answer project.path world (.error error) after) :
      Generates project schema world (.error error) after
  | create {artifacts : List Artifact} {replaced : Bool} {cleared after : World}
      {cause : FileError} (ready : project.artifacts schema = .ok artifacts)
      (clears : Clears refusals answer project.path world (.ok replaced) cleared)
      (failed : (FileAccess.makeDirectory project.path : Disk refusals _).run cleared =
        (.error cause, after)) :
      Generates project schema world (.error (.create project.path cause)) after
  | write {artifacts : List Artifact} {replaced : Bool} {cleared begun stopped : World}
      {path : String} {cause : FileError} (ready : project.artifacts schema = .ok artifacts)
      (clears : Clears refusals answer project.path world (.ok replaced) cleared)
      (created : (FileAccess.makeDirectory project.path : Disk refusals _).run cleared =
        (.ok (), begun))
      (failed : (writeArtifacts artifacts : Disk refusals _).run begun =
        (.error (path, cause), stopped)) :
      Generates project schema world (.error (.write path cause))
        ((FileAccess.removeTree project.path : Disk refusals _).run stopped).2
  | made {artifacts : List Artifact} {replaced : Bool} {cleared begun after : World}
      (ready : project.artifacts schema = .ok artifacts)
      (clears : Clears refusals answer project.path world (.ok replaced) cleared)
      (created : (FileAccess.makeDirectory project.path : Disk refusals _).run cleared =
        (.ok (), begun))
      (written : (writeArtifacts artifacts : Disk refusals _).run begun = (.ok (), after)) :
      Generates project schema world
        (.ok ⟨project.path, artifacts.map Artifact.path, replaced⟩) after

theorem clears_run (path : String) (world : World) :
    Clears refusals answer path world
      ((clearPath (Disk.ask answer) path : Disk refusals _).run world).1
      ((clearPath (Disk.ask answer) path : Disk refusals _).run world).2 := by
  rw [clearPath, Disk.run_bind, Disk.run_kind?]
  cases hkind : world.files.kind? path with
  | none => exact .absent hkind
  | some kind =>
    have something : (world.files.kind? path).isSome := by simp [hkind]
    simp only [Option.isNone_some, Bool.false_eq_true, if_false, Disk.run_bind, Disk.run_ask]
    rcases hanswer : answer world path with reasons | _ | _
    · exact .prompt something hanswer
    · exact .alreadyExists something hanswer
    · simp only [Disk.run_bind]
      rcases hremove : (removePath path : Disk refusals _).run (world.asked path) with
        ⟨cause | _, after⟩
      · exact .remove something hanswer hremove
      · exact .replaced something hanswer hremove

/-- The outcome of making a project on a disk. -/
def Project.generateOn (project : Project) (schema : Schema) (refusals : Refusals)
    (answer : World → String → Except (List String) Bool) (world : World) :
    Except ProjectError GeneratedProject × World :=
  (project.generate schema (Disk.ask answer) : Disk refusals _).run world

theorem generates_run (project : Project) (schema : Schema) (world : World) :
    Generates refusals answer project schema world
      (project.generateOn schema refusals answer world).1
      (project.generateOn schema refusals answer world).2 := by
  rw [Project.generateOn, Project.generate]
  cases hready : project.artifacts schema with
  | error error => exact .artifact hready
  | ok artifacts =>
    simp only [Disk.run_bind]
    -- the steps of clearing are known already, whatever its result is
    have hclears := clears_run refusals answer project.path world
    generalize (clearPath (Disk.ask answer) project.path : Disk refusals _).run world = cleared
      at hclears
    obtain ⟨error | replaced, cleared⟩ := cleared
    · exact .clear hready hclears
    · simp only [Disk.run_bind]
      rcases hcreate : (FileAccess.makeDirectory project.path : Disk refusals _).run cleared with
        ⟨cause | _, begun⟩
      · exact .create hready hclears hcreate
      · simp only [Disk.run_bind]
        rcases hwrite : (writeArtifacts artifacts : Disk refusals _).run begun with
          ⟨⟨path, cause⟩ | _, stopped⟩
        · exact .write hready hclears hcreate hwrite
        · exact .made hready hclears hcreate hwrite

end Steps

/-! ### A disk that refuses nothing -/

theorem models_removePath (path : String) :
    Disk.Models (removePath path) (removePath path : Disk .never _) := by
  refine (Disk.models_kind? path).bind fun kind => ?_
  split
  · exact Disk.models_removeTree path
  · exact Disk.models_removeFile path

theorem models_clearPath (answer : String → Except (List String) Bool) (path : String) :
    Disk.Models (clearPath (fun path => pure (answer path)) path)
      (clearPath (Disk.ask fun _ => answer) path : Disk .never _) := by
  refine (Disk.models_kind? path).bind fun kind => ?_
  split
  · exact Disk.models_pure _
  have hask : Disk.Models (pure (answer path))
      (Disk.ask (fun _ => answer) path : Disk .never _) := fun _ => ⟨rfl, rfl⟩
  refine hask.bind fun reply => ?_
  rcases reply with reasons | _ | _
  · exact Disk.models_pure _
  · exact Disk.models_pure _
  · refine (models_removePath path).bind fun result => ?_
    cases result <;> exact Disk.models_pure _

theorem models_writeArtifacts (artifacts : List Artifact) :
    Disk.Models (writeArtifacts artifacts) (writeArtifacts artifacts : Disk .never _) := by
  induction artifacts with
  | nil => exact Disk.models_pure _
  | cons artifact artifacts ih =>
    refine (Disk.models_write artifact.path artifact.content).bind fun result => ?_
    cases result with
    | ok => exact ih
    | error cause => exact Disk.models_pure _

/-- On a disk that refuses nothing a project is made as on a bare file system. -/
theorem models_generate (project : Project) (schema : Schema)
    (answer : String → Except (List String) Bool) :
    Disk.Models (project.generate schema fun path => pure (answer path))
      (project.generate schema (Disk.ask fun _ => answer) : Disk .never _) := by
  rw [Project.generate, Project.generate]
  cases project.artifacts schema with
  | error error => exact Disk.models_pure _
  | ok artifacts =>
    refine (models_clearPath answer project.path).bind fun cleared => ?_
    cases cleared with
    | error error => exact Disk.models_pure _
    | ok replaced =>
      refine (Disk.models_makeDirectory project.path).bind fun created => ?_
      cases created with
      | error cause => exact Disk.models_pure _
      | ok =>
        refine (models_writeArtifacts artifacts).bind fun written => ?_
        rcases written with ⟨path, cause⟩ | _
        · refine Disk.Models.bind ?_ fun _ => Disk.models_pure _
          exact (Disk.models_removeTree project.path).bind fun _ => Disk.models_pure _
        · exact Disk.models_pure _

/-! ### Refused projects -/

section Refused

variable {refusals : Refusals} {answer : World → String → Except (List String) Bool}

theorem Disk.quiet_removePath (path : String) :
    Quiet (removePath path : Disk refusals _) := by
  refine (quiet_kind? path).bind fun kind => ?_
  split
  · exact quiet_removeTree path
  · exact quiet_removeFile path

theorem Disk.quiet_writeArtifacts (artifacts : List Artifact) :
    Quiet (writeArtifacts artifacts : Disk refusals _) := by
  induction artifacts with
  | nil => exact quiet_pure _
  | cons artifact artifacts ih =>
    refine (quiet_write artifact.path artifact.content).bind fun result => ?_
    cases result with
    | ok => exact ih
    | error cause => exact quiet_pure _

theorem Clears.questions_eq {path : String} {world after : World}
    {result : Except ProjectError Bool} (h : Clears refusals answer path world result after) :
    after.questions =
      world.questions ++ if (world.files.kind? path).isSome then [path] else [] := by
  cases h with
  | absent nothing => simp [nothing]
  | prompt something => simp [something, World.asked]
  | alreadyExists something => simp [something, World.asked]
  | remove something _ failed =>
    rw [if_pos something, (Disk.quiet_removePath path).questions_eq failed, World.asked]
  | replaced something _ removed =>
    rw [if_pos something, (Disk.quiet_removePath path).questions_eq removed, World.asked]

/-- Only the clearing of the path asks a question. -/
theorem Generates.questions_eq {project : Project} {schema : Schema} {world after : World}
    {result : Except ProjectError GeneratedProject}
    (h : Generates refusals answer project schema world result after) :
    after.questions = world.questions ++
      if (project.artifacts schema).isOk ∧ (world.files.kind? project.path).isSome
      then [project.path] else [] := by
  have hready : ∀ {artifacts : List Artifact}, project.artifacts schema = .ok artifacts →
      ((project.artifacts schema).isOk ∧ (world.files.kind? project.path).isSome ↔
        (world.files.kind? project.path).isSome) := by
    intro artifacts ready
    rw [ready]
    exact and_iff_right rfl
  cases h with
  | artifact failed =>
    rw [failed]
    simp [Except.isOk, Except.toBool]
  | clear ready failed =>
    simp only [hready ready]
    exact failed.questions_eq
  | create ready clears failed =>
    simp only [hready ready]
    rw [(Disk.quiet_makeDirectory _).questions_eq failed, clears.questions_eq]
  | write ready clears created failed =>
    simp only [hready ready]
    rw [Disk.quiet_removeTree, (Disk.quiet_writeArtifacts _).questions_eq failed,
      (Disk.quiet_makeDirectory _).questions_eq created, clears.questions_eq]
  | made ready clears created written =>
    simp only [hready ready]
    rw [(Disk.quiet_writeArtifacts _).questions_eq written,
      (Disk.quiet_makeDirectory _).questions_eq created, clears.questions_eq]

/-- The errors before the first change, where `something` says whether there is something at the
path: if there is, it has been removed before the directory is made. -/
def ProjectError.BeforeChange (something : Bool) : ProjectError → Prop
  | artifact _ | alreadyExists _ | prompt .. => True
  | create .. => something = false
  | remove .. | write .. => False

/-- Before the first change nothing has changed. -/
theorem Generates.files_eq {project : Project} {schema : Schema} {world after : World}
    {error : ProjectError}
    (h : Generates refusals answer project schema world (.error error) after)
    (before : error.BeforeChange (world.files.kind? project.path).isSome) :
    after.files = world.files := by
  cases h with
  | artifact => rfl
  | clear _ failed =>
    cases failed with
    | prompt => rfl
    | alreadyExists => rfl
    | remove => exact before.elim
  | create _ clears failed =>
    have nothing : (world.files.kind? project.path).isSome = false := before
    rw [World.attemptUnless_eq_error failed]
    cases clears with
    | absent => rfl
    | replaced something =>
      rw [something] at nothing
      cases nothing
  | write => exact before.elim

/-- A project exists already exactly if there is something at its path, which may not be
replaced. -/
theorem Generates.alreadyExists_iff {project : Project} {schema : Schema} {world after : World}
    {result : Except ProjectError GeneratedProject}
    (h : Generates refusals answer project schema world result after) :
    (∃ path, result = .error (.alreadyExists path)) ↔ (project.artifacts schema).isOk ∧
      (world.files.kind? project.path).isSome ∧ answer world project.path = .ok false := by
  constructor
  · rintro ⟨path, rfl⟩
    cases h with
    | clear ready failed =>
      cases failed with
      | alreadyExists something no => exact ⟨by rw [ready]; rfl, something, no⟩
  · rintro ⟨ready, something, no⟩
    -- after this answer the path is not cleared, so no later step is reached
    have hclears : ∀ {replaced : Bool} {cleared : World},
        ¬ Clears refusals answer project.path world (.ok replaced) cleared := by
      intro replaced cleared clears
      cases clears with
      | absent nothing => simp [nothing] at something
      | replaced _ yes => simp [no] at yes
    cases h with
    | artifact failed =>
      rw [failed] at ready
      cases ready
    | clear _ failed =>
      cases failed with
      | prompt _ unanswered => simp [no] at unanswered
      | alreadyExists => exact ⟨_, rfl⟩
      | remove _ yes => simp [no] at yes
    | create _ clears => exact absurd clears hclears
    | write _ clears => exact absurd clears hclears
    | made _ clears => exact absurd clears hclears

/-- **A project that is refused leaves everything as it was**: the name or the schema is not fit for
a project, or what is at the path may not be replaced, or the directory cannot be made where there
is nothing.  There is one question, about the path, if there is something at it and all else is
well, and the project exists already exactly if the answer is no. -/
theorem generate_refused (project : Project) (schema : Schema) (refusals : Refusals)
    (answer : World → String → Except (List String) Bool) (world : World) :
    let outcome := project.generateOn schema refusals answer world
    let something := (world.files.kind? project.path).isSome
    (∀ error, outcome.1 = .error error → error.BeforeChange something →
      outcome.2.files = world.files) ∧
    outcome.2.questions = world.questions ++
      (if (project.artifacts schema).isOk ∧ something then [project.path] else []) ∧
    ((∃ path, outcome.1 = .error (.alreadyExists path)) ↔
      (project.artifacts schema).isOk ∧ something ∧ answer world project.path = .ok false) := by
  have hrun := generates_run refusals answer project schema world
  refine ⟨fun error herror before => ?_, hrun.questions_eq, hrun.alreadyExists_iff⟩
  rw [herror] at hrun
  exact hrun.files_eq before

/-- A working directory with a file, and with a directory in which there is another file. -/
def usedDirectory : World :=
  ⟨⟨[("work", .directory [("app", .directory [("old.txt", .file "old")]),
    ("notes.txt", .file "notes")])], ["work"]⟩, [], 0⟩

theorem generate_refused_usedDirectory :
    let no : World → String → Except (List String) Bool := fun _ _ => .ok false
    let kept := (⟨"app", "my", none⟩ : Project).generateOn quotingTools .never no usedDirectory
    let misnamed := (⟨"app", "a/b", none⟩ : Project).generateOn quotingTools .never no usedDirectory
    (kept.1 = .error (.alreadyExists "app") ∧ kept.2.files = usedDirectory.files ∧
      kept.2.questions = ["app"]) ∧
    misnamed.1 = .error (.artifact (.invalidName "a/b")) ∧
      misnamed.2.files = usedDirectory.files ∧ misnamed.2.questions = [] := by
  intro no kept misnamed
  have hkept : kept.1 = .error (.alreadyExists "app") := by decide +kernel
  have hmisnamed : misnamed.1 = .error (.artifact (.invalidName "a/b")) := by decide +kernel
  have ready : ((⟨"app", "my", none⟩ : Project).artifacts quotingTools).isOk = true := by
    decide +kernel
  obtain ⟨hfiles, hquestions, -⟩ :=
    generate_refused ⟨"app", "my", none⟩ quotingTools .never no usedDirectory
  obtain ⟨hfiles', hquestions', -⟩ :=
    generate_refused ⟨"app", "a/b", none⟩ quotingTools .never no usedDirectory
  refine ⟨⟨hkept, hfiles _ hkept trivial, ?_⟩, hmisnamed, hfiles' _ hmisnamed trivial, ?_⟩
  · rw [ready] at hquestions
    exact hquestions
  · exact hquestions'

end Refused

end CommandTree
