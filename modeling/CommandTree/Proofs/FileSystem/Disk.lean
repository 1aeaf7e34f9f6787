import CommandTree.Project.Generation
import CommandTree.Proofs.FileSystem.Operations

/-!
# Disks that refuse operations

A file system says whether an operation makes sense.  A disk may refuse it all the same, at any
time and for reasons of its own: there is no space left, or something may not be touched.  Programs
for the class of monads with access to files run on every disk.

* `World` is a file system in use, `Refusals` is what a disk refuses, and `Disk` is the monad of the
  programs that run on it.
* `World.attemptUnless_eq_ok`, `Refusals.writeFile_eq_ok`, `Refusals.removeAll_eq_ok` : operations
  that succeed do to the files what they should; `Refusals.writeFile_eq_error` and others : what
  operations do that fail.
* `Disk.Quiet` : programs that ask no question.
* `Disk.Models` : a program does the same on a disk that never refuses and on a bare file system.
-/

namespace CommandTree

/-- A file system in use. -/
structure World where
  /-- The files. -/
  files : FileSystem
  /-- The paths about which there was a question, in order. -/
  questions : List String
  /-- The number of operations so far. -/
  operations : Nat

namespace World

/-- The world after an operation. -/
def after (world : World) (files : FileSystem) : World :=
  { world with files, operations := world.operations + 1 }

/-- The world after a question about a path. -/
def asked (world : World) (path : String) : World :=
  { world with questions := world.questions ++ [path] }

/-- An operation that changes nothing if it fails. -/
def attempt (world : World) (change : FileSystem → Except FileError FileSystem) :
    Except FileError Unit × World :=
  match change world.files with
  | .ok files => (.ok (), world.after files)
  | .error error => (.error error, world.after world.files)

/-- An operation that changes nothing if it fails or is refused. -/
def attemptUnless (world : World) (refusal : Option FileError)
    (change : FileSystem → Except FileError FileSystem) : Except FileError Unit × World :=
  match refusal with
  | none => world.attempt change
  | some error => (.error error, world.after world.files)

end World

/-- What a disk refuses, and what is left then. -/
structure Refusals where
  /-- Whether a directory may not be made. -/
  makeDirectory : World → String → Option FileError
  /-- Whether a text may not be written.  A part of it may stand in the file all the same. -/
  write : World → String → String → Option (FileError × Option String)
  /-- Whether a file may not be removed. -/
  removeFile : World → String → Option FileError
  /-- Whether a directory may not be removed, and which entries it has then. -/
  removeTree : World → String → Option (FileError × Entries)

namespace Refusals

/-- Nothing is refused. -/
def never : Refusals :=
  ⟨fun _ _ => none, fun _ _ _ => none, fun _ _ => none, fun _ _ => none⟩

/-- Writes a file, unless that is refused. -/
def writeFile (refusals : Refusals) (path text : String) (world : World) :
    Except FileError Unit × World :=
  match refusals.write world path text with
  | none => world.attempt fun fs => fs.write path text
  | some (error, none) => (.error error, world.after world.files)
  | some (error, some part) => (.error error, (world.attempt fun fs => fs.write path part).2)

/-- Removes a directory and everything in it, unless that is refused. -/
def removeAll (refusals : Refusals) (path : String) (world : World) :
    Except FileError Unit × World :=
  match refusals.removeTree world path with
  | none => ((world.files.removeTree path).1, world.after (world.files.removeTree path).2)
  | some (error, rest) =>
    match world.files.locate path with
    | .ok (.directory place) =>
      (.error error, world.after (world.files.modifyAt place fun _ => rest))
    | _ => (.error error, world.after world.files)

end Refusals

/-- Programs that run on a disk. -/
def Disk (_refusals : Refusals) (α : Type) : Type :=
  StateM World α

namespace Disk

variable {refusals : Refusals} {α β : Type}

instance : Monad (Disk refusals) := inferInstanceAs (Monad (StateM World))

/-- Runs a program. -/
def run (program : Disk refusals α) (world : World) : α × World :=
  StateT.run program world

/-- An operation of the disk. -/
def step (operation : World → α × World) : Disk refusals α :=
  fun world => operation world

instance : FileAccess (Disk refusals) where
  kind? path := step fun world => (world.files.kind? path, world)
  read path := step fun world => (world.files.read path, world)
  write path text := step (refusals.writeFile path text)
  makeDirectory path := step fun world =>
    world.attemptUnless (refusals.makeDirectory world path) fun fs => fs.makeDirectory path
  removeFile path := step fun world =>
    world.attemptUnless (refusals.removeFile world path) fun fs => fs.removeFile path
  removeTree path := step (refusals.removeAll path)

/-- A question that is answered somehow, and that leaves the files alone. -/
def ask (answer : World → String → Except (List String) Bool) : ReplacePrompt (Disk refusals) :=
  fun path => step fun world => (answer world path, world.asked path)

/-! ### Running programs -/

theorem run_bind (program : Disk refusals α) (next : α → Disk refusals β)
    (world : World) : (program >>= next).run world =
      (next (program.run world).1).run (program.run world).2 := rfl

theorem run_kind? (path : String) (world : World) :
    (FileAccess.kind? path : Disk refusals _).run world = (world.files.kind? path, world) := rfl

theorem run_write (path text : String) (world : World) :
    (FileAccess.write path text : Disk refusals _).run world =
      refusals.writeFile path text world := rfl

theorem run_removeTree (path : String) (world : World) :
    (FileAccess.removeTree path : Disk refusals _).run world = refusals.removeAll path world := rfl

theorem run_ask (answer : World → String → Except (List String) Bool) (path : String)
    (world : World) :
    (ask answer path : Disk refusals _).run world = (answer world path, world.asked path) := rfl

end Disk

/-! ### Operations that succeed or fail -/

section Operations

variable {world world' : World} {path text : String} {error : FileError}
  {change : FileSystem → Except FileError FileSystem} {refusals : Refusals}

namespace World

theorem attempt_eq_ok (h : world.attempt change = (.ok (), world')) :
    change world.files = .ok world'.files := by
  unfold attempt at h
  cases hchange : change world.files with
  | ok files =>
    simp only [hchange, Prod.mk.injEq, true_and] at h
    rw [← h, after]
  | error error => simp [hchange] at h

/-- A change is made, or nothing happens. -/
theorem files_attempt (world : World) (change : FileSystem → Except FileError FileSystem) :
    change world.files = .ok (world.attempt change).2.files ∨
      (world.attempt change).2.files = world.files := by
  unfold attempt
  cases change world.files with
  | ok files => exact .inl rfl
  | error error => exact .inr rfl

theorem attempt_eq_error (h : world.attempt change = (.error error, world')) :
    world'.files = world.files := by
  unfold attempt at h
  cases hchange : change world.files with
  | ok files => simp [hchange] at h
  | error error =>
    simp only [hchange, Prod.mk.injEq] at h
    rw [← h.2, after]

theorem questions_attempt (world : World) (change : FileSystem → Except FileError FileSystem) :
    (world.attempt change).2.questions = world.questions := by
  unfold attempt
  cases change world.files <;> rfl

variable {refusal : Option FileError}

theorem attemptUnless_eq_ok (h : world.attemptUnless refusal change = (.ok (), world')) :
    change world.files = .ok world'.files := by
  cases refusal with
  | none => exact attempt_eq_ok h
  | some error => cases h

theorem attemptUnless_eq_error (h : world.attemptUnless refusal change = (.error error, world')) :
    world'.files = world.files := by
  cases refusal with
  | none => exact attempt_eq_error h
  | some error => rw [← (Prod.mk.inj h).2, after]

theorem questions_attemptUnless (world : World) (refusal : Option FileError)
    (change : FileSystem → Except FileError FileSystem) :
    (world.attemptUnless refusal change).2.questions = world.questions := by
  cases refusal with
  | none => exact questions_attempt world change
  | some error => rfl

end World

namespace Refusals

theorem writeFile_eq_ok (h : refusals.writeFile path text world = (.ok (), world')) :
    world.files.write path text = .ok world'.files := by
  unfold writeFile at h
  split at h
  · exact World.attempt_eq_ok h
  · cases h
  · cases h

/-- A text that cannot be written changes nothing, or a part of it is written. -/
theorem writeFile_eq_error (h : refusals.writeFile path text world = (.error error, world')) :
    world'.files = world.files ∨ ∃ part, world.files.write path part = .ok world'.files := by
  unfold writeFile at h
  split at h
  · exact .inl (World.attempt_eq_error h)
  · rw [← (Prod.mk.inj h).2]
    exact .inl rfl
  · rename_i part _
    rw [← (Prod.mk.inj h).2]
    obtain hchange | hsame := world.files_attempt fun fs => fs.write path part
    · exact .inr ⟨part, hchange⟩
    · exact .inl hsame

theorem removeAll_of_allowed (allowed : refusals.removeTree world path = none) :
    refusals.removeAll path world =
      ((world.files.removeTree path).1, world.after (world.files.removeTree path).2) := by
  rw [removeAll, allowed]

theorem removeAll_eq_ok (h : refusals.removeAll path world = (.ok (), world')) :
    world.files.removeTree path = (.ok (), world'.files) := by
  cases hrefused : refusals.removeTree world path with
  | none =>
    rw [removeAll_of_allowed hrefused] at h
    obtain ⟨hresult, rfl⟩ := Prod.mk.inj h
    exact Prod.ext hresult rfl
  | some refusal =>
    simp only [removeAll, hrefused] at h
    split at h <;> cases h

/-- Whether a directory is removed or not, nothing else changes. -/
theorem removeAll_outside (refusals : Refusals) (path : String) (world : World) :
    world.files.SameOutside (world.files.placeOf path)
      (refusals.removeAll path world).2.files := by
  unfold removeAll
  split
  · exact FileSystem.removeTree_outside world.files path
  · split
    · rename_i hlocate
      rw [← FileSystem.place_of_locate hlocate]
      exact .modifyAt world.files _ _
    · exact .refl _ _

end Refusals

end Operations

/-! ### Programs that ask no question -/

namespace Disk

variable {refusals : Refusals} {α β : Type}

/-- Whether a program asks no question. -/
def Quiet (program : Disk refusals α) : Prop :=
  ∀ world, (program.run world).2.questions = world.questions

theorem Quiet.questions_eq {program : Disk refusals α} (h : program.Quiet) {world after : World}
    {result : α} (hrun : program.run world = (result, after)) :
    after.questions = world.questions := by
  have hquiet := h world
  rwa [hrun] at hquiet

theorem quiet_pure (a : α) : Quiet (pure a : Disk refusals α) :=
  fun _ => rfl

theorem Quiet.bind {program : Disk refusals α} {next : α → Disk refusals β}
    (h : program.Quiet) (hnext : ∀ a, (next a).Quiet) : (program >>= next).Quiet :=
  fun world => (hnext _ _).trans (h world)

theorem quiet_kind? (path : String) : Quiet (FileAccess.kind? path : Disk refusals _) :=
  fun _ => rfl

theorem quiet_makeDirectory (path : String) :
    Quiet (FileAccess.makeDirectory path : Disk refusals _) :=
  fun world => world.questions_attemptUnless _ _

theorem quiet_removeFile (path : String) : Quiet (FileAccess.removeFile path : Disk refusals _) :=
  fun world => world.questions_attemptUnless _ _

theorem quiet_write (path text : String) :
    Quiet (FileAccess.write path text : Disk refusals _) := by
  intro world
  rw [run_write, Refusals.writeFile]
  split
  · exact world.questions_attempt _
  · rfl
  · exact world.questions_attempt _

theorem quiet_removeTree (path : String) :
    Quiet (FileAccess.removeTree path : Disk refusals _) := by
  intro world
  rw [run_removeTree, Refusals.removeAll]
  split
  · rfl
  · split <;> rfl

/-! ### Disks that refuse nothing -/

/-- A program for a bare file system and one for a disk do the same to the files. -/
def Models (bare : StateM FileSystem α) (program : Disk refusals α) : Prop :=
  ∀ world, (program.run world).1 = (bare.run world.files).1 ∧
    (program.run world).2.files = (bare.run world.files).2

theorem models_pure (a : α) : Models (pure a) (pure a : Disk refusals α) :=
  fun _ => ⟨rfl, rfl⟩

theorem Models.bind {bare : StateM FileSystem α} {program : Disk refusals α}
    {bareNext : α → StateM FileSystem β} {next : α → Disk refusals β}
    (h : Models bare program) (hnext : ∀ a, Models (bareNext a) (next a)) :
    Models (bare >>= bareNext) (program >>= next) := by
  intro world
  obtain ⟨hresult, hfiles⟩ := h world
  have hlater := hnext (program.run world).1 (program.run world).2
  rw [hresult, hfiles] at hlater
  rw [run_bind, hresult]
  exact hlater

theorem models_attempt (change : FileSystem → Except FileError FileSystem) :
    Models (FileSystem.update change)
      (step fun world => world.attempt change : Disk refusals _) := by
  intro world
  have hdisk : (step fun world => world.attempt change : Disk refusals _).run world =
      world.attempt change := rfl
  rw [hdisk, World.attempt, FileSystem.update, StateT.run_bind, StateT.run_get, pure_bind]
  cases change world.files <;> exact ⟨rfl, rfl⟩

theorem models_kind? (path : String) :
    Models (FileAccess.kind? path) (FileAccess.kind? path : Disk .never _) :=
  fun _ => ⟨rfl, rfl⟩

theorem models_write (path text : String) :
    Models (FileAccess.write path text) (FileAccess.write path text : Disk .never _) :=
  models_attempt fun fs => fs.write path text

theorem models_makeDirectory (path : String) :
    Models (FileAccess.makeDirectory path) (FileAccess.makeDirectory path : Disk .never _) :=
  models_attempt fun fs => fs.makeDirectory path

theorem models_removeFile (path : String) :
    Models (FileAccess.removeFile path) (FileAccess.removeFile path : Disk .never _) :=
  models_attempt fun fs => fs.removeFile path

theorem models_removeTree (path : String) :
    Models (FileAccess.removeTree path) (FileAccess.removeTree path : Disk .never _) :=
  fun _ => ⟨rfl, rfl⟩

end Disk

end CommandTree
