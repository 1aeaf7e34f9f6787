import CommandTree.Proofs.Project.SchemaFiles
import CommandTree.Proofs.Project.Steps
import Mathlib.Data.List.Nodup

/-!
# Projects are made as a whole

The files of a project are written one after the other into a directory of their own.  Until the
last one is written, nothing but this directory changes, and if one of them cannot be written, the
directory goes again.

* `Project.isFileName_of_mem`, `Project.nodup_fileNames` : the names of the files stay inside the
  directory and differ.
* `Begun` : nothing but the directory has changed so far.  `Begun.write` : a file that is written
  keeps that; `Begun.writeArtifacts`, `Begun.firstRefused` : so do all files.
* `generate_exact` : a project is made as a whole, or nothing of it is left.
-/

namespace CommandTree

/-! ### The names of the files -/

section FileNames

variable {project : Project} {schema : Schema} {source : String}

/-- The names of the files of a project are names of files. -/
theorem Project.isFileName_of_mem (h : isPlainName project.name = true) {file : ProjectFile}
    (hfile : file ∈ project.files schema source) : Path.IsFileName file.fileName := by
  have hlonger : ∀ {name : String}, name.toList.length < 6 → project.name ++ "cli.py" ≠ name := by
    rintro name hshort rfl
    have hlength : "cli.py".toList.length = 6 := by decide
    rw [String.toList_append, List.length_append, hlength] at hshort
    omega
  simp only [Project.files, List.mem_cons, List.not_mem_nil, or_false] at hfile
  obtain rfl | rfl | rfl := hfile
  · simp only [isPlainName, Bool.and_eq_true, Bool.not_eq_true', decide_eq_true_eq] at h
    have hslash : '/' ∉ project.name.toList := by simpa using h.2
    refine ⟨?_, hlonger (by decide), hlonger (by decide), hlonger (by decide)⟩
    rw [ProjectFile.fileName, String.toList_append, List.mem_append, not_or]
    exact ⟨hslash, by decide⟩
  · have hname : Path.IsFileName "schema.json" := by decide
    exact hname
  · have hname : Path.IsFileName "schema.yaml" := by decide
    exact hname

/-- The names of the files of a project differ, as they end in different characters. -/
theorem Project.nodup_fileNames (project : Project) (schema : Schema) (source : String) :
    ((project.files schema source).map ProjectFile.fileName).Nodup := by
  refine List.Nodup.of_map (fun name : String => name.toList.getLast?) ?_
  have hprogram : (project.name ++ "cli.py").toList.getLast? = some 'y' := by
    rw [String.toList_append, List.getLast?_append_of_ne_nil _ (by decide)]
    decide
  simp only [Project.files, List.map_cons, List.map_nil, ProjectFile.fileName, hprogram]
  decide

end FileNames

/-! ### A project that has begun -/

/-- The entry of a directory for a file of a project. -/
def ProjectFile.entry (file : ProjectFile) : String × FileNode :=
  (file.fileName, .file file.content)

/-- A directory has been made at a path where there was nothing; it has the given entries, and
nothing else has changed. -/
structure Begun (path : String) (before after : FileSystem) (entries : Entries) : Prop where
  /-- There was nothing at the path. -/
  vacant : before.Vacant path
  /-- Nothing else has changed. -/
  outside : before.SameOutside (before.placeOf path) after
  /-- The directory has these entries. -/
  entries : after.root.directoryAt? (before.placeOf path) = some entries

section Begun

variable {path : String} {before after : FileSystem} {entries : Entries}

theorem Begun.hasDirectory (h : Begun path before after entries) :
    after.HasDirectory path entries :=
  h.outside.hasDirectory_of_directoryAt? h.vacant h.entries

theorem begun_of_makeDirectory (h : before.makeDirectory path = .ok after) :
    Begun path before after [] := by
  obtain ⟨vacant, outside, hentries⟩ := FileSystem.makeDirectory_spec h
  exact ⟨vacant, outside, hentries⟩

/-- A file that is written into the directory changes nothing else. -/
theorem Begun.write {name text : String} {later : FileSystem}
    (h : Begun path before after entries) (hname : Path.IsFileName name)
    (hwrite : after.write (Path.join path name) text = .ok later) :
    FileSystem.Fits path name ∧
      Begun path before later (Members.insert name (.file text) entries) := by
  obtain ⟨hfits, rfl⟩ := FileSystem.write_join h.hasDirectory hname hwrite
  rw [h.outside.placeOf_eq]
  refine ⟨hfits, h.vacant, h.outside.trans (.modifyAt after _ _), ?_⟩
  exact Entries.directoryAt?_modifyAt h.entries

end Begun

/-! ### Writing the files -/

section Writing

variable {refusals : Refusals} {path : String} {before : FileSystem}

theorem Disk.run_writeArtifacts_cons (artifact : Artifact) (artifacts : List Artifact)
    (world : World) : (writeArtifacts (artifact :: artifacts) : Disk refusals _).run world =
      match refusals.writeFile artifact.path artifact.content world with
      | (.error cause, after) => (.error (artifact.path, cause), after)
      | (.ok (), after) => (writeArtifacts artifacts : Disk refusals _).run after := by
  rw [writeArtifacts, run_bind, run_write]
  rcases refusals.writeFile artifact.path artifact.content world with ⟨cause | _, after⟩ <;> rfl

/-- All files have been written: they are entries of the directory, and nothing else has changed. -/
theorem Begun.writeArtifacts {files : List ProjectFile} {entries : Entries} {world after : World}
    (h : Begun path before world.files entries)
    (hnames : ∀ file ∈ files, Path.IsFileName file.fileName)
    (hrun : (writeArtifacts (files.map (ProjectFile.artifact path)) : Disk refusals _).run world =
      (.ok (), after)) :
    (∀ file ∈ files, FileSystem.Fits path file.fileName) ∧
      Begun path before after.files (Members.insertAll entries (files.map ProjectFile.entry)) := by
  induction files generalizing entries world with
  | nil =>
    obtain rfl := (Prod.mk.inj hrun).2
    exact ⟨by simp, h⟩
  | cons file files ih =>
    rw [List.forall_mem_cons] at hnames
    rw [List.map_cons, Disk.run_writeArtifacts_cons] at hrun
    rcases hwrite : refusals.writeFile (file.artifact path).path (file.artifact path).content world
      with ⟨cause | _, reached⟩
    · simp [hwrite] at hrun
    · simp only [hwrite] at hrun
      obtain ⟨hfits, hreached⟩ := h.write hnames.1 (Refusals.writeFile_eq_ok hwrite)
      obtain ⟨hmore, hafter⟩ := ih hreached hnames.2 hrun
      exact ⟨List.forall_mem_cons.2 ⟨hfits, hmore⟩, hafter⟩

/-- Of some files that are written one after the other, the disk refuses the one with the given path
and no earlier one. -/
def FirstRefused (refusals : Refusals) (artifacts : List Artifact) (begun : World) (path : String)
    (cause : FileError) (stopped : World) : Prop :=
  ∃ done artifact rest reached, artifacts = done ++ artifact :: rest ∧ artifact.path = path ∧
    (writeArtifacts done : Disk refusals _).run begun = (.ok (), reached) ∧
    (FileAccess.write artifact.path artifact.content : Disk refusals _).run reached =
      (.error cause, stopped)

theorem firstRefused_of_run {artifacts : List Artifact} {begun stopped : World} {path : String}
    {cause : FileError} (h : (writeArtifacts artifacts : Disk refusals _).run begun =
      (.error (path, cause), stopped)) :
    FirstRefused refusals artifacts begun path cause stopped := by
  induction artifacts generalizing begun with
  | nil => cases (Prod.mk.inj h).1
  | cons artifact artifacts ih =>
    rw [Disk.run_writeArtifacts_cons] at h
    rcases hwrite : refusals.writeFile artifact.path artifact.content begun with
      ⟨cause' | _, reached⟩
    · simp only [hwrite, Prod.mk.injEq, Except.error.injEq] at h
      obtain ⟨⟨rfl, rfl⟩, rfl⟩ := h
      exact ⟨[], artifact, artifacts, begun, rfl, rfl, rfl, hwrite⟩
    · simp only [hwrite] at h
      obtain ⟨done, refused, rest, later, rfl, hpath, hdone, hrefused⟩ := ih h
      refine ⟨artifact :: done, refused, rest, later, rfl, hpath, ?_, hrefused⟩
      rw [Disk.run_writeArtifacts_cons, hwrite]
      exact hdone

/-- When a file is refused, nothing but the directory has changed. -/
theorem Begun.firstRefused {files : List ProjectFile} {entries : Entries} {begun stopped : World}
    {refused : String} {cause : FileError} (h : Begun path before begun.files entries)
    (hnames : ∀ file ∈ files, Path.IsFileName file.fileName)
    (hrefused : FirstRefused refusals (files.map (ProjectFile.artifact path)) begun refused cause
      stopped) :
    ∃ rest, Begun path before stopped.files rest := by
  obtain ⟨done, artifact, rest, reached, hfiles, -, hdone, hwrite⟩ := hrefused
  obtain ⟨doneFiles, others, rfl, rfl, hothers⟩ := List.map_eq_append_iff.1 hfiles
  obtain ⟨file, restFiles, rfl, rfl, -⟩ := List.map_eq_cons_iff.1 hothers
  rw [List.forall_mem_append, List.forall_mem_cons] at hnames
  obtain ⟨-, hreached⟩ := h.writeArtifacts hnames.1 hdone
  -- a part of the refused file may stand in the directory, as an entry like any other
  obtain hsame | ⟨part, hpart⟩ := Refusals.writeFile_eq_error hwrite
  · exact ⟨_, hsame ▸ hreached⟩
  · exact ⟨_, (hreached.write hnames.2.1 hpart).2⟩

end Writing

/-! ### All or nothing -/

section Made

variable {refusals : Refusals} {answer : World → String → Except (List String) Bool}

theorem Disk.removed_of_removePath {path : String} {world after : World}
    (h : (removePath path : Disk refusals _).run world = (.ok (), after)) :
    FileSystem.Removed path world.files after.files := by
  rw [removePath, run_bind, run_kind?] at h
  split at h
  · exact FileSystem.removeTree_spec (Refusals.removeAll_eq_ok h)
  · exact FileSystem.removeFile_spec (World.attemptUnless_eq_ok h)

/-- Clearing a path changes nothing outside of its place. -/
theorem Clears.outside {path : String} {world after : World} {replaced : Bool}
    (h : Clears refusals answer path world (.ok replaced) after) :
    replaced = (world.files.kind? path).isSome ∧
      world.files.SameOutside (world.files.placeOf path) after.files := by
  cases h with
  | absent nothing => exact ⟨by simp [nothing], .refl _ _⟩
  | replaced something _ removed =>
    exact ⟨something.symm, (Disk.removed_of_removePath removed).outside⟩

/-- The directory of a project has the given files and nothing else, and all of them can be read. -/
structure HoldsProject (project : Project) (files : List ProjectFile) (fs : FileSystem) :
    Prop where
  /-- There is a directory at the path, and these are its entries. -/
  directory : fs.HasDirectory project.path (files.map ProjectFile.entry)
  /-- No two files have the same name. -/
  distinct : (files.map ProjectFile.fileName).Nodup
  /-- The path of each file leads to the entry with its name. -/
  located : ∀ file ∈ files, fs.locate (Path.join project.path file.fileName) =
    .ok (.file (fs.placeOf project.path) file.fileName file.content)
  /-- Each file has the text that it should have. -/
  read : ∀ file ∈ files, fs.read (Path.join project.path file.fileName) = .ok file.content

theorem Begun.holdsProject {project : Project} {files : List ProjectFile}
    {before after : FileSystem}
    (h : Begun project.path before after (Members.insertAll [] (files.map ProjectFile.entry)))
    (hnames : ∀ file ∈ files, Path.IsFileName file.fileName)
    (hfits : ∀ file ∈ files, FileSystem.Fits project.path file.fileName)
    (distinct : (files.map ProjectFile.fileName).Nodup) : HoldsProject project files after := by
  have hkeys : Members.keys (files.map ProjectFile.entry) = files.map ProjectFile.fileName := by
    rw [Members.keys, List.map_map]
    rfl
  have hentries : Members.insertAll [] (files.map ProjectFile.entry) =
      files.map ProjectFile.entry :=
    Members.insertAll_of_nodup (by rwa [List.nil_append, hkeys])
  rw [hentries] at h
  have hread : ∀ file ∈ files, _ := fun file hfile =>
    FileSystem.read_join h.hasDirectory (hnames file hfile) (hfits file hfile)
      (Members.get?_eq_some_of_mem (hkeys ▸ distinct) (List.mem_map_of_mem hfile))
  exact ⟨h.hasDirectory, distinct, fun file hfile => (hread file hfile).1,
    fun file hfile => (hread file hfile).2⟩

/-- If a directory that has begun may be removed, then nothing is left of it. -/
theorem Begun.removeAll {path : String} {before : FileSystem} {world : World} {entries : Entries}
    (h : Begun path before world.files entries) :
    before.SameOutside (before.placeOf path) (refusals.removeAll path world).2.files ∧
      (refusals.removeTree world path = none →
        (refusals.removeAll path world).2.files.Vacant path) := by
  have houtside := refusals.removeAll_outside path world
  rw [h.outside.placeOf_eq] at houtside
  have hboth := h.outside.trans houtside
  refine ⟨hboth, fun allowed => ?_⟩
  obtain ⟨fs, hfs⟩ := FileSystem.removeTree_of_vacant h.vacant h.outside h.entries
  obtain ⟨nothing, -⟩ := FileSystem.removeTree_spec hfs
  rw [h.outside.placeOf_eq] at nothing
  rw [Refusals.removeAll_of_allowed allowed, hfs] at hboth ⊢
  exact hboth.vacant_of_node? h.vacant nothing

/-- A project has been made as a whole: its files are those that it should have, its directory has
them and nothing else, and nothing else has changed. -/
def MadeWhole (project : Project) (schema : Schema) (before after : FileSystem)
    (made : GeneratedProject) : Prop :=
  ∃ source, let files := project.files schema source
    project.artifacts schema = .ok (files.map (ProjectFile.artifact project.path)) ∧
      made = ⟨project.path, files.map fun file => Path.join project.path file.fileName,
        (before.kind? project.path).isSome⟩ ∧
      HoldsProject project files after ∧
      before.SameOutside (before.placeOf project.path) after

/-- A project has been given up at the file with the given path: this is the first one that the disk
refused.  Nothing else than the directory has changed, and nothing is left of it unless the disk
refuses that as well. -/
def GivenUp (refusals : Refusals) (project : Project) (schema : Schema) (before : FileSystem)
    (after : World) (path : String) (cause : FileError) : Prop :=
  ∃ artifacts begun stopped, project.artifacts schema = .ok artifacts ∧
    (begun.files.HasDirectory project.path [] ∧
      before.SameOutside (before.placeOf project.path) begun.files) ∧
    FirstRefused refusals artifacts begun path cause stopped ∧
    after = (refusals.removeAll project.path stopped).2 ∧
    before.SameOutside (before.placeOf project.path) after.files ∧
    (refusals.removeTree stopped project.path = none → after.files.Vacant project.path)

theorem Generates.madeWhole {project : Project} {schema : Schema} {world after : World}
    {made : GeneratedProject}
    (h : Generates refusals answer project schema world (.ok made) after) :
    MadeWhole project schema world.files after.files made := by
  cases h with
  | made ready clears created written =>
    obtain ⟨plain, source, -, rfl⟩ := Project.artifacts_eq_ok_iff.1 ready
    obtain ⟨rfl, hcleared⟩ := clears.outside
    have hnames : ∀ file ∈ project.files schema source, Path.IsFileName file.fileName :=
      fun file => Project.isFileName_of_mem plain
    have hbegun := begun_of_makeDirectory (World.attemptUnless_eq_ok created)
    obtain ⟨hfits, hafter⟩ := hbegun.writeArtifacts hnames written
    have houtside := hafter.outside
    rw [hcleared.placeOf_eq] at houtside
    refine ⟨source, ready, ?_, hafter.holdsProject hnames hfits (project.nodup_fileNames ..),
      hcleared.trans houtside⟩
    rw [List.map_map]
    rfl

theorem Generates.givenUp {project : Project} {schema : Schema} {world after : World}
    {path : String} {cause : FileError}
    (h : Generates refusals answer project schema world (.error (.write path cause)) after) :
    GivenUp refusals project schema world.files after path cause := by
  cases h with
  | clear _ failed => cases failed
  | @write artifacts replaced cleared begun stopped _ _ ready clears created failed =>
    obtain ⟨plain, source, -, rfl⟩ := Project.artifacts_eq_ok_iff.1 ready
    obtain ⟨-, hcleared⟩ := clears.outside
    have hnames : ∀ file ∈ project.files schema source, Path.IsFileName file.fileName :=
      fun file => Project.isFileName_of_mem plain
    have hbegun := begun_of_makeDirectory (World.attemptUnless_eq_ok created)
    have hrefused := firstRefused_of_run failed
    obtain ⟨rest, hstopped⟩ := hbegun.firstRefused hnames hrefused
    have houtside := hbegun.outside
    obtain ⟨hremoved, vacant⟩ := hstopped.removeAll
    -- so far this compares with the files after the path was cleared
    rw [hcleared.placeOf_eq] at houtside hremoved
    exact ⟨_, begun, stopped, ready, ⟨hbegun.hasDirectory, hcleared.trans houtside⟩, hrefused,
      rfl, hcleared.trans hremoved, vacant⟩

/-- **A project is made as a whole, or nothing of it is left.**  If it is made, its directory has
its files and nothing else; if a file cannot be written, then there is nothing at the path, unless
the directory may not be removed again.  In all cases nothing else has changed. -/
theorem generate_exact (project : Project) (schema : Schema) (refusals : Refusals)
    (answer : World → String → Except (List String) Bool) (world : World) :
    let outcome := project.generateOn schema refusals answer world
    (∀ made, outcome.1 = .ok made →
      MadeWhole project schema world.files outcome.2.files made) ∧
    (∀ path cause, outcome.1 = .error (.write path cause) →
      GivenUp refusals project schema world.files outcome.2 path cause) := by
  have hrun := generates_run refusals answer project schema world
  refine ⟨fun made hmade => ?_, fun path cause hwrite => ?_⟩
  · rw [hmade] at hrun
    exact hrun.madeWhole
  · rw [hwrite] at hrun
    exact hrun.givenUp

/-- A disk on which there is no space for a certain file: one character of it is written. -/
def fullDisk (path : String) : Refusals :=
  { Refusals.never with
    write := fun _ other text =>
      if other = path then some (.other "no space left", some (text.take 1).toString) else none }

theorem generate_exact_usedDirectory :
    let project : Project := ⟨"app", "my", none⟩
    let always : World → String → Except (List String) Bool := fun _ _ => .ok true
    let made := project.generateOn quotingTools .never always usedDirectory
    let stopped := project.generateOn quotingTools (fullDisk "app/schema.json") always usedDirectory
    (made.1 = .ok ⟨"app", ["app/mycli.py", "app/schema.json", "app/schema.yaml"], true⟩ ∧
      ∃ source, HoldsProject project (project.files quotingTools source) made.2.files) ∧
    stopped.1 = .error (.write "app/schema.json" (.other "no space left")) ∧
      stopped.2.files.Vacant "app" := by
  intro project always made stopped
  have hmade : made.1 =
      .ok ⟨"app", ["app/mycli.py", "app/schema.json", "app/schema.yaml"], true⟩ := by
    decide +kernel
  have hstopped : stopped.1 = .error (.write "app/schema.json" (.other "no space left")) := by
    decide +kernel
  obtain ⟨source, -, -, hholds, -⟩ := (generate_exact project quotingTools .never always
    usedDirectory).1 _ hmade
  obtain ⟨_, _, _, -, -, -, -, -, hclean⟩ := (generate_exact project quotingTools
    (fullDisk "app/schema.json") always usedDirectory).2 _ _ hstopped
  exact ⟨⟨hmade, source, hholds⟩, hstopped, hclean rfl⟩

end Made

end CommandTree
