import CommandTree.Proofs.Program.Acceptance

/-!
# What making a project can change

A project without a directory of its own goes into one with its name.  The name is a path then, and
what is at that path is removed if it may be replaced.  So the name must be that of an entry of the
working directory, and every plain name is one, except for the single dot, which is the working
directory itself.

* `Disk.Confined` : a program changes nothing but what is at a path and below it, whatever the disk
  refuses.  `Disk.Confined.bind` and its neighbours : so does a program made of such programs.
* `Project.confined_generate`, `confined_runCommandLine` : making a project is confined to its path.
* `Project.generateOn_here` : a project that is made in the working directory empties it, and fails.
* `plainName_confines_iff` : a plain name is that of an entry, and what is made is confined to that
  entry, exactly if it is not the dot.
-/

namespace CommandTree

/-! ### Operations -/

namespace FileSystem

variable {fs fs' : FileSystem} {path name : String}

/-- What is written changes nothing but the file. -/
theorem write_outside {text : String} (h : fs.write path text = .ok fs') :
    SameOutside (fs.placeOf path) fs fs' := by
  obtain ⟨-, parent, name, hentry, rfl⟩ := write_eq_ok.1 h
  have hplace : parent ++ [name] = fs.placeOf path := by
    obtain hlocate | ⟨before, hlocate⟩ := hentry
    · exact place_of_locate hlocate
    · exact place_of_locate hlocate
  exact hplace ▸ SameOutside.insert fs parent name _

/-- A change below a place is one at that place. -/
theorem SameOutside.widen {place below : List String} (h : SameOutside below fs fs')
    (hbelow : place <+: below) : SameOutside place fs fs' :=
  ⟨h.workingDirectory, fun other hother => h.surface? other fun hprefix =>
    hother (hbelow.trans hprefix)⟩

/-- A file in a directory has a place below that of the directory. -/
theorem placeOf_join (fs : FileSystem) (hpath : path ≠ "") (hname : Path.IsFileName name) :
    fs.placeOf (Path.join path name) = fs.placeOf path ++ [name] := by
  have hstart : fs.start (Path.join path name) = fs.start path := by
    rw [start, start, Path.isAbsolute_join hpath hname]
  rw [placeOf, hstart, Path.parts_join hpath hname, resolve_append, resolve, if_neg hname.2.2.1,
    if_neg hname.2.2.2]
  rfl

end FileSystem

namespace World

variable {world : World} {place : List String} {change : FileSystem → Except FileError FileSystem}

theorem attempt_outside (h : ∀ files, change world.files = .ok files →
      world.files.SameOutside place files) :
    world.files.SameOutside place (world.attempt change).2.files := by
  obtain hchange | hsame := world.files_attempt change
  · exact h _ hchange
  · rw [hsame]
    exact .refl _ _

theorem attemptUnless_outside (refusal : Option FileError)
    (h : ∀ files, change world.files = .ok files → world.files.SameOutside place files) :
    world.files.SameOutside place (world.attemptUnless refusal change).2.files := by
  cases refusal with
  | none => exact attempt_outside h
  | some error => exact .refl _ _

end World

/-! ### Confined programs -/

namespace Disk

variable {refusals : Refusals} {α β : Type} {path : String}

/-- Whether a program changes nothing but what is at a path and below it. -/
def Confined (path : String) (program : Disk refusals α) : Prop :=
  ∀ world : World,
    world.files.SameOutside (world.files.placeOf path) (program.run world).2.files

theorem confined_pure (path : String) (a : α) : Confined path (pure a : Disk refusals α) :=
  fun _ => .refl _ _

/-- One step after the other is confined, as the path leads to the same place before and after. -/
theorem Confined.bind {program : Disk refusals α} {next : α → Disk refusals β}
    (h : Confined path program) (hnext : ∀ a, Confined path (next a)) :
    Confined path (program >>= next) := by
  intro world
  have hfirst := h world
  have hlater := hnext (program.run world).1 (program.run world).2
  rw [hfirst.placeOf_eq] at hlater
  exact hfirst.trans hlater

/-- A program that reads is confined to any path. -/
theorem confined_of_readsOnly (path : String) {program : Disk refusals α}
    (h : ReadsOnly (program : StateM World α)) : Confined path program := by
  intro world
  have hsame : (program.run world).2 = world := h world
  rw [hsame]
  exact .refl _ _

theorem confined_kind? (path other : String) :
    Confined path (FileAccess.kind? other : Disk refusals _) :=
  fun _ => .refl _ _

theorem confined_ask (answer : World → String → Except (List String) Bool) (path other : String) :
    Confined path (ask answer other : Disk refusals _) :=
  fun _ => .refl _ _

theorem confined_makeDirectory (path : String) :
    Confined path (FileAccess.makeDirectory path : Disk refusals _) :=
  fun _ => World.attemptUnless_outside _ fun _ h => (FileSystem.makeDirectory_spec h).2.1

theorem confined_removeFile (path : String) :
    Confined path (FileAccess.removeFile path : Disk refusals _) :=
  fun _ => World.attemptUnless_outside _ fun _ h => (FileSystem.removeFile_spec h).outside

theorem confined_removeTree (path : String) :
    Confined path (FileAccess.removeTree path : Disk refusals _) :=
  fun world => refusals.removeAll_outside path world

theorem confined_write (path text : String) :
    Confined path (FileAccess.write path text : Disk refusals _) := by
  intro world
  rw [run_write, Refusals.writeFile]
  split
  · exact World.attempt_outside fun _ h => FileSystem.write_outside h
  · exact .refl _ _
  · exact World.attempt_outside fun _ h => FileSystem.write_outside h

/-- What is confined to a file in a directory is confined to the directory. -/
theorem Confined.of_join {name : String} {program : Disk refusals α}
    (h : Confined (Path.join path name) program) (hpath : path ≠ "")
    (hname : Path.IsFileName name) : Confined path program := by
  intro world
  have hbelow := h world
  rw [FileSystem.placeOf_join _ hpath hname] at hbelow
  exact hbelow.widen (List.prefix_append _ _)

section Failing

variable {ε : Type}

theorem Confined.bind_except {program : ExceptT ε (Disk refusals) α}
    {next : α → ExceptT ε (Disk refusals) β} (h : Confined path program.run)
    (hnext : ∀ a, Confined path (next a).run) : Confined path (program >>= next).run := by
  have hlater : ∀ result, Confined path (ExceptT.bindCont next result) := by
    intro result
    cases result with
    | ok a => exact hnext a
    | error error => exact confined_pure path _
  exact Confined.bind h hlater

theorem Confined.lift {program : Disk refusals α} (h : Confined path program) :
    Confined path (ExceptT.lift program : ExceptT ε (Disk refusals) α).run :=
  h

end Failing

end Disk

/-! ### Making a project -/

section Making

variable {refusals : Refusals} {prompt : ReplacePrompt (Disk refusals)} {path : String}

theorem confined_removePath (path : String) :
    Disk.Confined path (removePath path : Disk refusals _) := by
  refine (Disk.confined_kind? path path).bind fun kind => ?_
  split
  · exact Disk.confined_removeTree path
  · exact Disk.confined_removeFile path

theorem confined_clearPath (hprompt : Disk.Confined path (prompt path)) :
    Disk.Confined path (clearPath prompt path) := by
  refine (Disk.confined_kind? path path).bind fun kind => ?_
  split
  · exact Disk.confined_pure path _
  · refine hprompt.bind fun answer => ?_
    rcases answer with reasons | _ | _
    · exact Disk.confined_pure path _
    · exact Disk.confined_pure path _
    · refine (confined_removePath path).bind fun result => ?_
      cases result with
      | error cause => exact Disk.confined_pure path _
      | ok => exact Disk.confined_pure path _

theorem confined_writeArtifacts {files : List ProjectFile} (hpath : path ≠ "")
    (hnames : ∀ file ∈ files, Path.IsFileName file.fileName) :
    Disk.Confined path
      (writeArtifacts (files.map (ProjectFile.artifact path)) : Disk refusals _) := by
  induction files with
  | nil => exact Disk.confined_pure path _
  | cons file files ih =>
    obtain ⟨hname, hnames⟩ := List.forall_mem_cons.1 hnames
    refine ((Disk.confined_write _ _).of_join hpath hname).bind fun result => ?_
    cases result with
    | error cause => exact Disk.confined_pure path _
    | ok => exact ih hnames

/-- **Making a project changes nothing but what is at its path**, whatever the disk refuses. -/
theorem Project.confined_generate (project : Project) (schema : Schema) (hpath : project.path ≠ "")
    (hprompt : Disk.Confined project.path (prompt project.path)) :
    Disk.Confined project.path (project.generate schema prompt) := by
  rw [generate]
  cases hready : project.artifacts schema with
  | error error => exact Disk.confined_pure _ _
  | ok artifacts =>
    obtain ⟨plain, source, -, rfl⟩ := Project.artifacts_eq_ok_iff.1 hready
    refine (confined_clearPath hprompt).bind fun cleared => ?_
    cases cleared with
    | error error => exact Disk.confined_pure _ _
    | ok replaced =>
      refine (Disk.confined_makeDirectory _).bind fun made => ?_
      cases made with
      | error cause => exact Disk.confined_pure _ _
      | ok =>
        have hnames : ∀ file ∈ project.files schema source, Path.IsFileName file.fileName :=
          fun _ hfile => Project.isFileName_of_mem plain hfile
        refine (confined_writeArtifacts hpath hnames).bind fun written => ?_
        rcases written with ⟨path, cause⟩ | _
        · refine Disk.Confined.bind ?_ fun _ => Disk.confined_pure _ _
          exact (Disk.confined_removeTree _).bind fun _ => Disk.confined_pure _ _
        · exact Disk.confined_pure _ _

end Making

/-! ### Carrying out the command -/

section Command

variable {refusals : Refusals} {prompt : ReplacePrompt (Disk refusals)} {path : String}

/-- A disk as files that can be reached. -/
@[reducible] def Refusals.access (refusals : Refusals) : FileAccess (StateM World) :=
  inferInstanceAs (FileAccess (Disk refusals))

theorem Refusals.quietAccess (refusals : Refusals) : @QuietAccess World refusals.access :=
  @QuietAccess.mk World refusals.access (fun _ _ => rfl) (fun _ _ => rfl)

theorem confined_loadSchema (path source : String) :
    Disk.Confined path (loadSchema source : ExceptT Failure (Disk refusals) _).run := by
  have hload : Disk.Confined path (Schema.load source : Disk refusals _) :=
    Disk.confined_of_readsOnly path
      (@Schema.readsOnly_load World refusals.access refusals.quietAccess source)
  refine Disk.Confined.bind_except hload.lift fun loaded => ?_
  cases loaded with
  | error error => exact Disk.confined_pure path _
  | ok schema => exact Disk.confined_pure path _

theorem Config.confined_load (path : String) (requested : Option String) :
    Disk.Confined path (Config.load requested : Disk refusals _) :=
  Disk.confined_of_readsOnly path
    (@Config.readsOnly_load World refusals.access refusals.quietAccess requested)

theorem confined_runNew {name : String} (hname : name ≠ "")
    (hprompt : ∀ other, Disk.Confined name (prompt other)) (config : Config)
    (schema entry : Option String) (force : Bool) :
    Disk.Confined name (runNew config prompt (some name) none schema entry force).run := by
  refine Disk.Confined.bind_except (confined_loadSchema name _) fun found => ?_
  have hreplace : Disk.Confined name
      ((if force then alwaysReplace else prompt : ReplacePrompt (Disk refusals)) name) := by
    split
    · exact Disk.confined_pure name _
    · exact hprompt name
  have hgenerate :=
    Project.confined_generate ⟨name, name, config.entryPoint entry⟩ found hname hreplace
  refine Disk.Confined.bind_except hgenerate.lift fun generated => ?_
  cases generated with
  | error error => exact Disk.confined_pure name _
  | ok generated => exact Disk.confined_pure name _

theorem confined_runCommandLine {name : String} (hname : name ≠ "") {words : List String}
    {config schema entry : Option String} {force : Bool}
    (hwords : Invocation.ofWords words = .ok ⟨config, .new (some name) none schema entry force⟩)
    (hprompt : ∀ other, Disk.Confined name (prompt other)) :
    Disk.Confined name (runCommandLine prompt words).run := by
  rw [runCommandLine, hwords]
  refine Disk.Confined.bind_except (Config.confined_load name config).lift fun loaded => ?_
  cases loaded with
  | error error => exact Disk.confined_pure name _
  | ok settings => exact confined_runNew hname hprompt settings schema entry force

/-- The world after a command line has been carried out on a disk. -/
def worldAfter (refusals : Refusals) (answer : World → String → Except (List String) Bool)
    (words : List String) (world : World) : World :=
  ((runCommandLine (Disk.ask answer) words : ExceptT Failure (Disk refusals) Output).run.run
    world).2

/-- Whether making a project with the given name, in the directory of that name, changes nothing but
what is at a place, which depends on the working directory, and below it: on every disk, with every
answer and with all other options. -/
def NewConfinedTo (name : String) (place : List String → List String) : Prop :=
  ∀ (refusals : Refusals) (answer : World → String → Except (List String) Bool) (world : World)
    (words : List String) (config schema entry : Option String) (force : Bool),
    Invocation.ofWords words = .ok ⟨config, .new (some name) none schema entry force⟩ →
      world.files.SameOutside (place world.files.workingDirectory)
        (worldAfter refusals answer words world).files

theorem newConfinedTo_placeOf {name : String} (hname : name ≠ "")
    {place : List String → List String}
    (hplace : ∀ fs : FileSystem, place fs.workingDirectory <+: fs.placeOf name) :
    NewConfinedTo name place := by
  intro refusals answer world words config schema entry force hwords
  have hconfined : Disk.Confined name
      (runCommandLine (Disk.ask answer) words : ExceptT Failure (Disk refusals) Output).run :=
    confined_runCommandLine hname hwords fun other => Disk.confined_ask answer name other
  exact (hconfined world).widen (hplace world.files)

end Command

/-! ### Plain names -/

section PlainNames

variable {name : String}

theorem isPlainName_iff :
    isPlainName name = true ↔ name ≠ "" ∧ name ≠ ".." ∧ '/' ∉ name.toList := by
  simp [isPlainName, and_assoc]

/-- A plain name is one part, which is followed from the working directory. -/
theorem parts_of_isPlainName (plain : isPlainName name = true) :
    Path.isAbsolute name = false ∧ Path.parts name = [name] := by
  obtain ⟨hempty, -, hslash⟩ := isPlainName_iff.1 plain
  refine ⟨?_, ?_⟩
  · rw [Path.isAbsolute, decide_eq_false_iff_not]
    exact fun hhead => hslash (List.mem_of_head? hhead)
  · have hne : name.toList ≠ [] := by simpa using hempty
    simp [Path.parts, Path.pieces_of_notMem hslash, hne]

/-- Whether a path is the name of an entry of the working directory: it is one part, and that part
is neither of those that stand for the directory itself and for the one above it. -/
def Path.NamesEntry (path : String) : Prop :=
  Path.isAbsolute path = false ∧ ∃ part, Path.parts path = [part] ∧ part ≠ "." ∧ part ≠ ".."

theorem namesEntry_iff (plain : isPlainName name = true) : Path.NamesEntry name ↔ name ≠ "." := by
  obtain ⟨habsolute, hparts⟩ := parts_of_isPlainName plain
  constructor
  · rintro ⟨-, part, hpart, hdot, -⟩
    obtain rfl := List.singleton_inj.1 (hparts.symm.trans hpart)
    exact hdot
  · intro hdot
    exact ⟨habsolute, name, hparts, hdot, (isPlainName_iff.1 plain).2.1⟩

/-- A plain name leads to the entry with that name, and the dot to the working directory. -/
theorem placeOf_of_isPlainName (plain : isPlainName name = true) (fs : FileSystem) :
    fs.placeOf name =
      if name = "." then fs.workingDirectory else fs.workingDirectory ++ [name] := by
  obtain ⟨habsolute, hparts⟩ := parts_of_isPlainName plain
  have hdots := (isPlainName_iff.1 plain).2.1
  have hstart : fs.start name = fs.workingDirectory := by
    rw [FileSystem.start, habsolute, if_neg Bool.false_ne_true]
  rw [FileSystem.placeOf, hstart, hparts, FileSystem.resolve, if_neg hdots, FileSystem.resolve,
    FileSystem.resolve]

end PlainNames

/-! ### A project in the working directory -/

section Here

variable {world : World}

theorem locate_here {fs : FileSystem}
    (hdirectory : (fs.root.directoryAt? fs.workingDirectory).isSome) :
    fs.locate "." = .ok (.directory fs.workingDirectory) := by
  have husable : FileSystem.IsUsablePath "." := by decide +kernel
  have hparts : Path.parts "." = ["."] := by decide
  have hstart : fs.start "." = fs.workingDirectory := if_neg (by decide)
  rw [FileSystem.locate_eq_ok, hparts, hstart]
  exact ⟨husable, .stay hdirectory (.stop hdirectory)⟩

/-- The working directory cannot be removed, even if it is empty. -/
theorem removeDirectory_here {fs : FileSystem}
    (hempty : fs.root.directoryAt? fs.workingDirectory = some []) :
    fs.removeDirectory "." = .error .invalidArgument := by
  have hparts : (Path.parts ".").getLast? = some "." := by decide
  rw [FileSystem.removeDirectory, locate_here (Option.isSome_of_eq_some hempty), ok_bind]
  simp only [hempty, hparts]
  rfl

/-- The content of the working directory goes before it turns out that the directory stays. -/
theorem removeTree_here {fs : FileSystem}
    (hdirectory : (fs.root.directoryAt? fs.workingDirectory).isSome) :
    fs.removeTree "." =
      (.error .invalidArgument, fs.modifyAt fs.workingDirectory fun _ => []) := by
  obtain ⟨entries, hentries⟩ := Option.isSome_iff_exists.1 hdirectory
  have hremove : (fs.modifyAt fs.workingDirectory fun _ => []).removeDirectory "." =
      .error .invalidArgument :=
    removeDirectory_here (Entries.directoryAt?_modifyAt hentries)
  rw [FileSystem.removeTree, locate_here hdirectory]
  simp only [hremove]

/-- **A project that is made in the working directory empties it, and fails.** -/
theorem Project.generateOn_here {project : Project} {schema : Schema} {artifacts : List Artifact}
    {answer : World → String → Except (List String) Bool} (here : project.path = ".")
    (ready : project.artifacts schema = .ok artifacts)
    (hdirectory : (world.files.root.directoryAt? world.files.workingDirectory).isSome)
    (yes : answer world "." = .ok true) :
    (project.generateOn schema .never answer world).1 = .error (.remove "." .invalidArgument) ∧
      (project.generateOn schema .never answer world).2.files =
        world.files.modifyAt world.files.workingDirectory fun _ => [] := by
  have hkind : ∀ world' : World, world'.files = world.files →
      world'.files.kind? "." = some .directory := by
    intro world' hfiles
    rw [FileSystem.kind?, hfiles, locate_here hdirectory]
  have hremove : (removePath "." : Disk .never _).run (world.asked ".") =
      (.error .invalidArgument,
        (world.asked ".").after
          (world.files.modifyAt world.files.workingDirectory fun _ => [])) := by
    rw [removePath, Disk.run_bind, Disk.run_kind?, hkind (world.asked ".") rfl]
    show Refusals.removeAll .never "." (world.asked ".") = _
    rw [Refusals.removeAll_of_allowed rfl, show (world.asked ".").files = world.files from rfl,
      removeTree_here hdirectory]
  have hclear : (clearPath (Disk.ask answer) "." : Disk .never _).run world =
      (.error (.remove "." .invalidArgument),
        (world.asked ".").after
          (world.files.modifyAt world.files.workingDirectory fun _ => [])) := by
    rw [clearPath, Disk.run_bind, Disk.run_kind?, hkind world rfl]
    simp only [Option.isNone_some, Bool.false_eq_true, if_false, Disk.run_bind, Disk.run_ask, yes,
      hremove]
    rfl
  rw [Project.generateOn, Project.generate, ready]
  simp only [Disk.run_bind, here, hclear]
  exact ⟨rfl, rfl⟩

end Here

/-- A working directory with a schema of one command and with another file. -/
def notedDirectory : World :=
  ⟨⟨[("work", .directory [("keep.txt", .file "keep"), ("schema.json", .file
    "[\x7b\"name\": \"run\", \"help\": \"None\", \"hidden\": \"False\", \"params\": []\x7d]")])],
    ["work"]⟩, [], 0⟩

/-- The command that makes a project in the working directory. -/
def newHere : List String := ["new", ".", "--force"]

theorem ofWords_newHere :
    Invocation.ofWords newHere = .ok ⟨none, .new (some ".") none none none true⟩ := by
  decide +kernel

/-- The other file is not kept, although it has nothing to do with the project. -/
theorem not_newConfinedTo_here : ¬ NewConfinedTo "." (· ++ ["."]) := by
  intro confined
  have houtside := confined .never (fun _ _ => .ok false) notedDirectory newHere _ _ _ _
    ofWords_newHere
  have hkeep := houtside.surface? ["work", "keep.txt"] (by decide)
  have hbefore : (notedDirectory.files.root.surface? ["work", "keep.txt"]).isSome = true := by
    decide +kernel
  have hafter : ((worldAfter .never (fun _ _ => .ok false) newHere
      notedDirectory).files.root.surface? ["work", "keep.txt"]).isSome = false := by
    decide +kernel
  rw [hkeep, hbefore] at hafter
  cases hafter

/-- **A plain name is that of an entry of the working directory, and making a project of that name
changes nothing but this entry, exactly if the name is not the single dot.**  Nothing outside the
working directory ever changes; but with the dot everything in it is removed, and there is no
project. -/
theorem plainName_confines_iff (name : String) (plain : isPlainName name = true) :
    (Path.NamesEntry name ↔ name ≠ ".") ∧
    (NewConfinedTo name (· ++ [name]) ↔ name ≠ ".") ∧
    NewConfinedTo name id ∧
    (name = "." → ∀ (entry : Option String) (schema : Schema) (artifacts : List Artifact)
      (world : World), (⟨name, name, entry⟩ : Project).artifacts schema = .ok artifacts →
        (world.files.root.directoryAt? world.files.workingDirectory).isSome →
          let outcome := (⟨name, name, entry⟩ : Project).generateOn schema .never
            (fun _ _ => .ok true) world
          outcome.1 = .error (.remove name .invalidArgument) ∧
            outcome.2.files = world.files.modifyAt world.files.workingDirectory fun _ => []) := by
  have hempty : name ≠ "" := (isPlainName_iff.1 plain).1
  refine ⟨namesEntry_iff plain, ⟨?_, ?_⟩, ?_, ?_⟩
  · rintro confined rfl
    exact not_newConfinedTo_here confined
  · intro hdot
    refine newConfinedTo_placeOf hempty fun fs => ?_
    have hplace : fs.placeOf name = fs.workingDirectory ++ [name] :=
      (placeOf_of_isPlainName plain fs).trans (if_neg hdot)
    exact hplace ▸ List.prefix_rfl
  · refine newConfinedTo_placeOf hempty fun fs => ?_
    rw [placeOf_of_isPlainName plain]
    split_ifs
    · exact List.prefix_rfl
    · exact List.prefix_append _ _
  · rintro rfl entry schema artifacts world ready hdirectory
    exact Project.generateOn_here rfl ready hdirectory rfl

/-- With another name, the file is kept. -/
theorem plainName_confines_iff_notedDirectory :
    isPlainName "my" = true ∧ Path.NamesEntry "my" ∧
      Invocation.ofWords ["new", "my", "--force"] =
        .ok ⟨none, .new (some "my") none none none true⟩ ∧
      notedDirectory.files.SameOutside ["work", "my"]
        (worldAfter .never (fun _ _ => .ok false) ["new", "my", "--force"] notedDirectory).files ∧
      (worldAfter .never (fun _ _ => .ok false) ["new", "my", "--force"]
        notedDirectory).files.kind? "my" = some .directory := by
  have plain : isPlainName "my" = true := by decide
  have hwords : Invocation.ofWords ["new", "my", "--force"] =
      .ok ⟨none, .new (some "my") none none none true⟩ := by
    decide +kernel
  obtain ⟨hentry, hconfined, -, -⟩ := plainName_confines_iff "my" plain
  exact ⟨plain, hentry.2 (by decide), hwords,
    hconfined.2 (by decide) .never _ notedDirectory _ _ _ _ _ hwords, by decide +kernel⟩

/-- The single dot is a plain name but not one of an entry: a project of that name is made in place
of everything in the working directory. -/
theorem newHere_removesAll :
    isPlainName "." = true ∧ ¬ Path.NamesEntry "." ∧ ¬ NewConfinedTo "." (· ++ ["."]) ∧
      Invocation.ofWords newHere = .ok ⟨none, .new (some ".") none none none true⟩ ∧
      notedDirectory.files.read "keep.txt" = .ok "keep" ∧
      (worldAfter .never (fun _ _ => .ok false) newHere notedDirectory).files.read "keep.txt" =
        .error .notFound ∧
      (worldAfter .never (fun _ _ => .ok false) newHere notedDirectory).files.read "schema.json" =
        .error .notFound := by
  have plain : isPlainName "." = true := by decide
  exact ⟨plain, fun hentry => (namesEntry_iff plain).1 hentry rfl, not_newConfinedTo_here,
    ofWords_newHere, by decide +kernel, by decide +kernel, by decide +kernel⟩

end CommandTree
