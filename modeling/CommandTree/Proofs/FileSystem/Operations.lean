import CommandTree.Proofs.FileSystem.Places
import CommandTree.Proofs.Outcome

/-!
# What operations do to a file system

An operation that succeeds changes the place of its path and nothing else.  One statement for each
of them says what is there afterwards:

* `makeDirectory_spec` : an empty directory, where there was nothing.
* `read_of_write` : the file, which can be read again.
* `write_join` : the directory of the file, with one entry more or changed.
* `removeFile_spec`, `removeTree_spec` : nothing.
* `removeTree_outside` : a directory that cannot be removed may lose its content, and no more.
* `removeTree_of_vacant` : a directory that was made where there was nothing can be removed.
-/

namespace CommandTree

theorem Entries.node?_modifyAt_erase (root : Entries) (parent : List String) (name : String) :
    (modifyAt (Members.erase name) root parent).node? (parent ++ [name]) = none := by
  induction parent generalizing root with
  | nil =>
    rw [modifyAt, List.nil_append, node?_singleton, Members.get?_erase, if_pos rfl]
  | cons first parent ih =>
    rw [modifyAt, List.cons_append, node?]
    rcases hget : Members.get? root first with _ | (text | inner)
    · simp [hget]
    · simp [hget]
    · simp only [Members.get?_insert, if_true]
      exact ih inner

namespace FileSystem

variable {fs fs' : FileSystem} {path : String}

/-! ### What there is at a path -/

/-- A path leads to a missing entry of a directory. -/
def Vacant (fs : FileSystem) (path : String) : Prop :=
  ∃ parent name, fs.locate path = .ok (.vacant parent name)

/-- A path leads to a directory with given entries. -/
structure HasDirectory (fs : FileSystem) (path : String) (entries : Entries) : Prop where
  /-- The path leads to a directory. -/
  located : fs.locate path = .ok (.directory (fs.placeOf path))
  /-- These are its entries. -/
  entries : fs.root.directoryAt? (fs.placeOf path) = some entries

namespace SameOutside

variable (h : SameOutside (fs.placeOf path) fs fs') (vacant : fs.Vacant path)

include h vacant

theorem vacant_of_node? (nothing : fs'.root.node? (fs.placeOf path) = none) : fs'.Vacant path := by
  obtain ⟨parent, name, hlocate⟩ := vacant
  rw [← place_of_locate hlocate] at h nothing
  refine ⟨parent, name, (h.locate hlocate).trans ?_⟩
  rw [locationAt, show fs'.root.node? (parent ++ [name]) = none from nothing]

theorem hasDirectory_of_directoryAt? {entries : Entries}
    (hentries : fs'.root.directoryAt? (fs.placeOf path) = some entries) :
    fs'.HasDirectory path entries := by
  refine ⟨?_, by rw [h.placeOf_eq, hentries]⟩
  rw [h.placeOf_eq]
  obtain ⟨parent, name, hlocate⟩ := vacant
  rw [← place_of_locate hlocate] at h hentries ⊢
  have hnode : fs'.root.node? (parent ++ [name]) = some (.directory entries) :=
    Entries.node?_eq_directory.2 hentries
  rw [h.locate hlocate, locationAt, hnode]
  rfl

end SameOutside

/-! ### Making a directory -/

theorem makeDirectory_eq_ok : fs.makeDirectory path = .ok fs' ↔ ∃ parent name,
    fs.locate path = .ok (.vacant parent name) ∧
      fs' = fs.modifyAt parent (Members.insert name (.directory [])) := by
  rw [makeDirectory, bind_eq_ok]
  constructor
  · rintro ⟨place | ⟨parent, name, text⟩ | ⟨parent, name⟩, hlocate, hmade⟩
    · cases hmade
    · cases hmade
    · exact ⟨parent, name, hlocate, (Except.ok.inj hmade).symm⟩
  · rintro ⟨parent, name, hlocate, rfl⟩
    exact ⟨_, hlocate, rfl⟩

/-- A directory is made where there is nothing, and is empty. -/
theorem makeDirectory_spec (h : fs.makeDirectory path = .ok fs') :
    fs.Vacant path ∧ SameOutside (fs.placeOf path) fs fs' ∧
      fs'.root.directoryAt? (fs.placeOf path) = some [] := by
  obtain ⟨parent, name, hlocate, rfl⟩ := makeDirectory_eq_ok.1 h
  have hplace : parent ++ [name] = fs.placeOf path := place_of_locate hlocate
  obtain ⟨here, -⟩ := (locate_eq_ok.1 hlocate).2.holds
  obtain ⟨entries, hentries⟩ := Option.isSome_iff_exists.1 here
  refine ⟨⟨parent, name, hlocate⟩, hplace ▸ SameOutside.insert fs parent name _, ?_⟩
  rw [← hplace, ← Entries.node?_eq_directory, FileSystem.modifyAt,
    Entries.node?_concat (Entries.directoryAt?_modifyAt hentries), Members.get?_insert, if_pos rfl]

/-! ### Writing a file -/

theorem write_eq_ok {text : String} : fs.write path text = .ok fs' ↔
    Path.endsInSlash path = false ∧ ∃ parent name,
      (fs.locate path = .ok (.vacant parent name) ∨
        ∃ before, fs.locate path = .ok (.file parent name before)) ∧
      fs' = fs.modifyAt parent (Members.insert name (.file text)) := by
  rw [write, bind_eq_ok]
  constructor
  · rintro ⟨location, hlocate, hwritten⟩
    cases hslash : Path.endsInSlash path with
    | true =>
      simp only [hslash, if_true] at hwritten
      cases location <;> cases hwritten
    | false =>
      simp only [hslash] at hwritten
      cases location with
      | directory => cases hwritten
      | file parent name before =>
        exact ⟨rfl, parent, name, .inr ⟨before, hlocate⟩, (Except.ok.inj hwritten).symm⟩
      | vacant parent name =>
        exact ⟨rfl, parent, name, .inl hlocate, (Except.ok.inj hwritten).symm⟩
  · rintro ⟨hslash, parent, name, hlocate | ⟨before, hlocate⟩, rfl⟩
    · exact ⟨_, hlocate, by simp [hslash, pure_eq_ok]⟩
    · exact ⟨_, hlocate, by simp [hslash, pure_eq_ok]⟩

/-- A file that has been written can be read. -/
theorem read_of_write {text : String} (h : fs.write path text = .ok fs') :
    fs'.read path = .ok text := by
  obtain ⟨hslash, parent, name, hentry, rfl⟩ := write_eq_ok.1 h
  obtain ⟨location, located, hlocation⟩ : ∃ location, fs.locate path = .ok location ∧
      (location = .vacant parent name ∨ ∃ before, location = .file parent name before) := by
    obtain located | ⟨before, located⟩ := hentry
    · exact ⟨_, located, .inl rfl⟩
    · exact ⟨_, located, .inr ⟨before, rfl⟩⟩
  have here : (fs.root.directoryAt? parent).isSome := by
    have hholds := (locate_eq_ok.1 located).2.holds
    obtain rfl | ⟨before, rfl⟩ := hlocation
    · exact hholds.1
    · exact hholds.1
  obtain ⟨entries, hentries⟩ := Option.isSome_iff_exists.1 here
  have hnode : (fs.modifyAt parent (Members.insert name (.file text))).root.node?
      (parent ++ [name]) = some (.file text) := by
    rw [FileSystem.modifyAt, Entries.node?_concat (Entries.directoryAt?_modifyAt hentries),
      Members.get?_insert, if_pos rfl]
  have hlocate := (SameOutside.insert fs parent name (.file text)).locate_entry located hlocation
  rw [locationAt, hnode] at hlocate
  rw [read, hlocate, ok_bind]
  simp only [hslash]
  rfl

theorem run_write (files : FileSystem) (path text : String) :
    (FileAccess.write path text : StateM FileSystem _).run files =
      match files.write path text with
      | .ok written => (.ok (), written)
      | .error cause => (.error cause, files) := by
  have hrun : (FileAccess.write path text : StateM FileSystem _) =
      update fun fs => fs.write path text := rfl
  rw [hrun, update, StateT.run_bind, StateT.run_get, pure_bind]
  cases files.write path text <;> rfl

/-- Whether a file of the given name can be in the directory of a path. -/
def Fits (path name : String) : Prop :=
  IsUsablePath (Path.join path name) ∧ IsStep name

/-- A file that is written into a directory becomes an entry of it. -/
theorem write_join {entries : Entries} {name text : String} (h : fs.HasDirectory path entries)
    (hname : Path.IsFileName name) (hwrite : fs.write (Path.join path name) text = .ok fs') :
    Fits path name ∧
      fs' = fs.modifyAt (fs.placeOf path) (Members.insert name (.file text)) := by
  obtain ⟨-, parent, key, hlocate | ⟨before, hlocate⟩, rfl⟩ := write_eq_ok.1 hwrite
  all_goals
    obtain ⟨hfits, hlocation⟩ := (locate_join h.located hname).1 hlocate
    have hentry : parent = fs.placeOf path ∧ key = name := by
      unfold locationAt at hlocation
      split at hlocation <;> simp_all
    obtain ⟨rfl, rfl⟩ := hentry
    exact ⟨hfits, rfl⟩

/-- A file in a directory is read under its name. -/
theorem read_join {entries : Entries} {name text : String} (h : fs.HasDirectory path entries)
    (hname : Path.IsFileName name) (hfits : Fits path name)
    (hentry : Members.get? entries name = some (.file text)) :
    fs.locate (Path.join path name) = .ok (.file (fs.placeOf path) name text) ∧
      fs.read (Path.join path name) = .ok text := by
  have hlocate : fs.locate (Path.join path name) = .ok (.file (fs.placeOf path) name text) := by
    refine (locate_join h.located hname).2 ⟨hfits, ?_⟩
    rw [locationAt, Entries.node?_concat h.entries, hentry]
  have hbase : path ≠ "" := (locate_eq_ok.1 h.located).1.2.1
  refine ⟨hlocate, ?_⟩
  rw [read, hlocate, ok_bind]
  simp only [Path.endsInSlash_join hbase hname]
  rfl

/-! ### Removing -/

/-- After a removal there is nothing at the place of the path, and elsewhere what there was. -/
structure Removed (path : String) (fs fs' : FileSystem) : Prop where
  /-- There is nothing at the place. -/
  nothing : fs'.root.node? (fs.placeOf path) = none
  /-- Everything else is as it was. -/
  outside : SameOutside (fs.placeOf path) fs fs'

theorem removeFile_spec (h : fs.removeFile path = .ok fs') : Removed path fs fs' := by
  rw [removeFile, bind_eq_ok] at h
  obtain ⟨place | ⟨parent, name, text⟩ | ⟨parent, name⟩, hlocate, hremoved⟩ := h
  · cases hremoved
  · cases hslash : Path.endsInSlash path with
    | true =>
      simp only [hslash, if_true] at hremoved
      cases hremoved
    | false =>
      simp only [hslash] at hremoved
      obtain rfl := Except.ok.inj hremoved
      have hplace : parent ++ [name] = fs.placeOf path := place_of_locate hlocate
      refine ⟨?_, hplace ▸ SameOutside.erase fs parent name⟩
      rw [← hplace]
      exact Entries.node?_modifyAt_erase fs.root parent name
  · cases hremoved

/-- The last part of a path is the name under which there is something at its place, unless it
consists of dots. -/
theorem placeOf_eq_concat {last : String} (hlast : (Path.parts path).getLast? = some last)
    (hdot : last ≠ ".") (hdots : last ≠ "..") :
    (fs.placeOf path).dropLast ++ [last] = fs.placeOf path := by
  obtain ⟨parts, hparts⟩ := List.getLast?_eq_some_iff.1 hlast
  have hplace : fs.placeOf path = resolve (fs.start path) parts ++ [last] := by
    rw [placeOf, hparts, resolve_append, resolve, if_neg hdot, if_neg hdots, resolve]
  rw [hplace, List.dropLast_concat]

theorem removeDirectory_eq_ok : fs.removeDirectory path = .ok fs' ↔
    fs.HasDirectory path [] ∧ ∃ last, (Path.parts path).getLast? = some last ∧ last ≠ "." ∧
      last ≠ ".." ∧ fs' = fs.modifyAt (fs.placeOf path).dropLast (Members.erase last) := by
  rw [removeDirectory, bind_eq_ok]
  constructor
  · rintro ⟨place | ⟨parent, name, text⟩ | ⟨parent, name⟩, hlocate, hremoved⟩
    · obtain rfl : place = fs.placeOf path := place_of_locate hlocate
      have here : (fs.root.directoryAt? (fs.placeOf path)).isSome :=
        (locate_eq_ok.1 hlocate).2.holds
      obtain ⟨entries, hentries⟩ := Option.isSome_iff_exists.1 here
      simp only [hentries, Option.getD_some] at hremoved
      obtain rfl | hnonempty := eq_or_ne entries []
      · cases hlast : (Path.parts path).getLast? with
        | none =>
          simp only [hlast] at hremoved
          cases hremoved
        | some last =>
          simp only [hlast, List.isEmpty_nil, Bool.true_eq_false, if_false] at hremoved
          split_ifs at hremoved with hdot hdots
          exact ⟨⟨hlocate, hentries⟩, last, rfl, hdot, hdots, (Except.ok.inj hremoved).symm⟩
      · simp only [List.isEmpty_eq_false_iff.2 hnonempty, if_true] at hremoved
        cases hremoved
    · cases hremoved
    · cases hremoved
  · rintro ⟨hdirectory, last, hlast, hdot, hdots, rfl⟩
    refine ⟨_, hdirectory.located, ?_⟩
    simp [hdirectory.entries, hlast, hdot, hdots, pure_eq_ok]

/-- Removing a directory empties it first. -/
theorem removeTree_eq_ok : fs.removeTree path = (.ok (), fs') ↔
    fs.locate path = .ok (.directory (fs.placeOf path)) ∧
      (fs.modifyAt (fs.placeOf path) fun _ => []).removeDirectory path = .ok fs' := by
  unfold removeTree
  rcases hlocate : fs.locate path with error | (place | ⟨parent, name, text⟩ | ⟨parent, name⟩)
  · simp
  · obtain rfl : place = fs.placeOf path := place_of_locate hlocate
    cases hremove : (fs.modifyAt (fs.placeOf path) fun _ => []).removeDirectory path <;>
      simp [hremove]
  · simp
  · simp

theorem removeTree_spec (h : fs.removeTree path = (.ok (), fs')) : Removed path fs fs' := by
  obtain ⟨-, hremove⟩ := removeTree_eq_ok.1 h
  obtain ⟨-, last, hlast, hdot, hdots, rfl⟩ := removeDirectory_eq_ok.1 hremove
  -- first the content goes, then the entry in the directory above
  have hempty := SameOutside.modifyAt fs (fs.placeOf path) fun _ => []
  have hplace : (fs.placeOf path).dropLast ++ [last] = fs.placeOf path :=
    placeOf_eq_concat hlast hdot hdots
  rw [hempty.placeOf_eq]
  have herase := SameOutside.erase (fs.modifyAt (fs.placeOf path) fun _ => [])
    (fs.placeOf path).dropLast last
  have hnothing := Entries.node?_modifyAt_erase (fs.modifyAt (fs.placeOf path) fun _ => []).root
    (fs.placeOf path).dropLast last
  rw [hplace] at herase hnothing
  exact ⟨hnothing, hempty.trans herase⟩

/-- Whether a directory can be removed or not, nothing else changes. -/
theorem removeTree_outside (fs : FileSystem) (path : String) :
    SameOutside (fs.placeOf path) fs (fs.removeTree path).2 := by
  rcases hresult : fs.removeTree path with ⟨error | _, fs'⟩
  · unfold removeTree at hresult
    rcases hlocate : fs.locate path with _ | (place | _ | _)
    · simp only [hlocate, Prod.mk.injEq] at hresult
      exact hresult.2 ▸ .refl _ _
    · obtain rfl : place = fs.placeOf path := place_of_locate hlocate
      simp only [hlocate] at hresult
      cases hremove : (fs.modifyAt (fs.placeOf path) fun _ => []).removeDirectory path with
      | ok => simp [hremove] at hresult
      | error =>
        simp only [hremove, Prod.mk.injEq] at hresult
        exact hresult.2 ▸ .modifyAt fs _ _
    · simp only [hlocate, Prod.mk.injEq] at hresult
      exact hresult.2 ▸ .refl _ _
    · simp only [hlocate, Prod.mk.injEq] at hresult
      exact hresult.2 ▸ .refl _ _
  · exact (removeTree_spec hresult).outside

/-- A directory can be removed again if it was made where there was nothing. -/
theorem removeTree_of_vacant {entries : Entries} (vacant : fs.Vacant path)
    (same : SameOutside (fs.placeOf path) fs fs')
    (hentries : fs'.root.directoryAt? (fs.placeOf path) = some entries) :
    ∃ fs'', fs'.removeTree path = (.ok (), fs'') := by
  have hdirectory := same.hasDirectory_of_directoryAt? vacant hentries
  have hempty : ((fs'.modifyAt (fs.placeOf path) fun _ => []).HasDirectory path []) :=
    (same.trans (SameOutside.modifyAt _ _ _)).hasDirectory_of_directoryAt? vacant
      (Entries.directoryAt?_modifyAt hentries)
  -- a missing entry has a name, so the path does not end in dots
  obtain ⟨parent, name, hlocate⟩ := vacant
  obtain ⟨hlast, hstep⟩ := (locate_eq_ok.1 hlocate).2.getLast?_eq
  refine ⟨_, removeTree_eq_ok.2 ⟨hdirectory.located, removeDirectory_eq_ok.2
    ⟨?_, name, hlast, hstep.1, hstep.2.1, rfl⟩⟩⟩
  rw [same.placeOf_eq]
  exact hempty

end FileSystem

end CommandTree
