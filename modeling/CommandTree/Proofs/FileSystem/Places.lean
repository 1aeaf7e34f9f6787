import CommandTree.FileSystem.Tree
import CommandTree.Proofs.FileSystem.Paths
import CommandTree.Proofs.OrderedMap

/-!
# Places in a file system

Every operation on a file system changes the entries of one directory.  What such a change does is
said in terms of places, the lists of names that lead from the root to a file or a directory.

* `Entries.node?` is what there is at a place, `Entries.surface?` the same without what is below.
* `Entries.surface?_modifyAt` : a change of one directory shows at no other place unless it shows
  in that directory.
* `FileSystem.SameOutside` : two file systems differ at most at a place and below it.
* `FileSystem.Leads` : parts of a path lead from a place to a location; `Leads.place_eq` : the place
  of the location does not depend on what there is.
* `FileSystem.SameOutside.locate` : where a path leads to a missing entry, it leads to that entry
  after any change to it.
* `FileSystem.locate_join` : a path of a file in a directory leads to the entry with its name.
-/

namespace CommandTree

/-! ### Nodes at places -/

/-- A node without what is below it. -/
def FileNode.surface : FileNode → FileNode
  | .file text => .file text
  | .directory _ => .directory []

namespace Entries

/-- What there is at a place below.  The place of the directory itself is empty. -/
def node? (entries : Entries) : List String → Option FileNode
  | [] => some (.directory entries)
  | name :: rest =>
    match Members.get? entries name with
    | some (.directory inner) => node? inner rest
    | some (.file text) => if rest.isEmpty then some (.file text) else none
    | none => none

/-- What there is at a place below, without what is below that. -/
def surface? (entries : Entries) (place : List String) : Option FileNode :=
  (entries.node? place).map FileNode.surface

variable {root inner : Entries} {place rest : List String}

theorem node?_eq_directory : root.node? place = some (.directory inner) ↔
    root.directoryAt? place = some inner := by
  induction place generalizing root with
  | nil => simp [node?, directoryAt?]
  | cons name place ih =>
    rw [node?, directoryAt?]
    rcases Members.get? root name with _ | (text | entries)
    · simp
    · simp only [reduceCtorEq, iff_false]
      split <;> simp
    · exact ih

/-- Whether there is a directory at a place can be seen without what is below it. -/
theorem isSome_directoryAt? :
    (root.directoryAt? place).isSome ↔ root.surface? place = some (.directory []) := by
  rw [Option.isSome_iff_exists]
  simp only [← node?_eq_directory, surface?, Option.map_eq_some_iff]
  constructor
  · rintro ⟨inner, hinner⟩
    exact ⟨_, hinner, rfl⟩
  · rintro ⟨text | inner, hnode, hsurface⟩
    · cases hsurface
    · exact ⟨inner, hnode⟩

theorem node?_append (h : root.directoryAt? place = some inner) :
    root.node? (place ++ rest) = inner.node? rest := by
  induction place generalizing root with
  | nil =>
    obtain rfl := Option.some.inj h
    rfl
  | cons name place ih =>
    rw [directoryAt?] at h
    rw [List.cons_append, node?]
    rcases hget : Members.get? root name with _ | (text | entries)
    · simp [hget] at h
    · simp [hget] at h
    · simp only [hget] at h
      exact ih h

theorem node?_singleton (entries : Entries) (name : String) :
    entries.node? [name] = Members.get? entries name := by
  rw [node?]
  rcases Members.get? entries name with _ | (text | inner) <;> simp [node?]

/-- What there is in a directory. -/
theorem node?_concat (h : root.directoryAt? place = some inner) (name : String) :
    root.node? (place ++ [name]) = Members.get? inner name := by
  rw [node?_append h, node?_singleton]

/-- Below a place where there is no directory there is none. -/
theorem directoryAt?_append_of_eq_none (h : root.directoryAt? place = none) :
    root.directoryAt? (place ++ rest) = none := by
  induction place generalizing root with
  | nil => cases h
  | cons name place ih =>
    rw [directoryAt?] at h
    rw [List.cons_append, directoryAt?]
    rcases hget : Members.get? root name with _ | (text | entries)
    · rfl
    · rfl
    · simp only [hget] at h
      exact ih h

theorem directoryAt?_eq_none (h : ∀ inner, root.node? place ≠ some (.directory inner)) :
    root.directoryAt? place = none :=
  Option.eq_none_iff_forall_ne_some.2 fun inner hinner => h inner (node?_eq_directory.2 hinner)

/-! ### Changes of one directory -/

variable {change : Entries → Entries}

/-- The entries of a changed directory are the changed ones. -/
theorem directoryAt?_modifyAt (h : root.directoryAt? place = some inner) :
    (modifyAt change root place).directoryAt? place = some (change inner) := by
  induction place generalizing root with
  | nil =>
    obtain rfl := Option.some.inj h
    rfl
  | cons name place ih =>
    rw [directoryAt?] at h
    rw [modifyAt]
    rcases hget : Members.get? root name with _ | (text | entries)
    · simp [hget] at h
    · simp [hget] at h
    · simp only [hget] at h
      simp only [directoryAt?, Members.get?_insert, if_true]
      exact ih h

/-- A change of one directory shows at another place only if it shows in the directory. -/
theorem surface?_modifyAt {other : List String} (h : ∀ inner, root.directoryAt? place = some inner →
      ∀ rest, other = place ++ rest → (change inner).surface? rest = inner.surface? rest) :
    (modifyAt change root place).surface? other = root.surface? other := by
  induction place generalizing root other with
  | nil => exact h root rfl other rfl
  | cons name place ih =>
    rw [modifyAt]
    rcases hget : Members.get? root name with _ | (text | entries)
    · rfl
    · rfl
    · cases other with
      | nil => rfl
      | cons first rest =>
        -- only the way through the changed entry can lead to something new
        simp only [surface?, node?, Members.get?_insert]
        by_cases hfirst : first = name
        · subst hfirst
          simp only [if_true, hget]
          refine ih fun inner hinner below hbelow => ?_
          refine h inner ?_ below (by rw [hbelow, List.cons_append])
          rw [directoryAt?, hget]
          exact hinner
        · simp only [if_neg hfirst]

/-- A change of one directory shows neither above it nor beside it. -/
theorem surface?_modifyAt_of_not_prefix {other : List String} (h : ¬ place <+: other) :
    (modifyAt change root place).surface? other = root.surface? other :=
  surface?_modifyAt fun _ _ rest hrest => absurd ⟨rest, hrest.symm⟩ h

/-- A change of one entry of a directory shows at this entry and below it only. -/
theorem surface?_modifyAt_entry {name : String} {other : List String}
    (hchange : ∀ inner key, key ≠ name →
      Members.get? (change inner) key = Members.get? inner key)
    (h : ¬ place ++ [name] <+: other) :
    (modifyAt change root place).surface? other = root.surface? other := by
  refine surface?_modifyAt fun inner _ rest hrest => ?_
  cases rest with
  | nil => rfl
  | cons first rest =>
    have hfirst : first ≠ name := by
      rintro rfl
      exact h ⟨rest, by simp [hrest]⟩
    simp only [surface?, node?, hchange inner first hfirst]

end Entries

namespace FileSystem

/-! ### File systems that differ in one place -/

/-- Two file systems have the same files and directories except at a place and below it. -/
structure SameOutside (place : List String) (fs fs' : FileSystem) : Prop where
  /-- Relative paths start in the same directory. -/
  workingDirectory : fs'.workingDirectory = fs.workingDirectory
  /-- At all other places there is the same. -/
  surface? : ∀ other, ¬ place <+: other → fs'.root.surface? other = fs.root.surface? other

namespace SameOutside

variable {place : List String} {fs fs' fs'' : FileSystem}

theorem refl (place : List String) (fs : FileSystem) : SameOutside place fs fs :=
  ⟨rfl, fun _ _ => rfl⟩

theorem trans (h : SameOutside place fs fs') (h' : SameOutside place fs' fs'') :
    SameOutside place fs fs'' :=
  ⟨h'.workingDirectory.trans h.workingDirectory,
    fun other hother => (h'.surface? other hother).trans (h.surface? other hother)⟩

theorem modifyAt (fs : FileSystem) (place : List String) (change : Entries → Entries) :
    SameOutside place fs (fs.modifyAt place change) :=
  ⟨rfl, fun _ hother => Entries.surface?_modifyAt_of_not_prefix hother⟩

theorem modifyAt_entry (fs : FileSystem) (parent : List String) {name : String}
    {change : Entries → Entries} (hchange : ∀ inner key, key ≠ name →
      Members.get? (change inner) key = Members.get? inner key) :
    SameOutside (parent ++ [name]) fs (fs.modifyAt parent change) :=
  ⟨rfl, fun _ hother => Entries.surface?_modifyAt_entry hchange hother⟩

theorem insert (fs : FileSystem) (parent : List String) (name : String) (node : FileNode) :
    SameOutside (parent ++ [name]) fs (fs.modifyAt parent (Members.insert name node)) :=
  modifyAt_entry fs parent fun inner key hkey => by rw [Members.get?_insert, if_neg hkey]

theorem erase (fs : FileSystem) (parent : List String) (name : String) :
    SameOutside (parent ++ [name]) fs (fs.modifyAt parent (Members.erase name)) :=
  modifyAt_entry fs parent fun inner key hkey => by rw [Members.get?_erase, if_neg hkey]

/-- If there is no directory at the place, then none is lost. -/
theorem isSome_directoryAt? (h : SameOutside place fs fs')
    (nowhere : fs.root.directoryAt? place = none) {other : List String}
    (hother : (fs.root.directoryAt? other).isSome) : (fs'.root.directoryAt? other).isSome := by
  -- a directory at or below the place would mean that there is one at the place
  have houtside : ¬ place <+: other := by
    rintro ⟨rest, rfl⟩
    rw [Entries.directoryAt?_append_of_eq_none nowhere] at hother
    cases hother
  rw [Entries.isSome_directoryAt?] at hother ⊢
  rw [h.surface? other houtside, hother]

end SameOutside

/-! ### Where paths lead -/

/-- Whether a part of a path is the name of an entry, and not too long for one. -/
def IsStep (part : String) : Prop :=
  part ≠ "." ∧ part ≠ ".." ∧ part.utf8ByteSize ≤ longestName

instance (part : String) : Decidable (IsStep part) :=
  inferInstanceAs (Decidable (_ ∧ _ ∧ _))

/-- Parts of a path lead from a place to a location. -/
inductive Leads (root : Entries) : List String → List String → Location → Prop
  | stop {place : List String} (here : (root.directoryAt? place).isSome) :
      Leads root place [] (.directory place)
  | stay {place rest : List String} {location : Location} (here : (root.directoryAt? place).isSome)
      (further : Leads root place rest location) : Leads root place ("." :: rest) location
  | up {place rest : List String} {location : Location} (here : (root.directoryAt? place).isSome)
      (further : Leads root place.dropLast rest location) :
      Leads root place (".." :: rest) location
  | down {place rest : List String} {part : String} {location : Location}
      (here : (root.directoryAt? place).isSome) (hstep : IsStep part)
      (below : (root.directoryAt? (place ++ [part])).isSome)
      (further : Leads root (place ++ [part]) rest location) :
      Leads root place (part :: rest) location
  | file {place : List String} {part text : String} (here : (root.directoryAt? place).isSome)
      (hstep : IsStep part) (below : root.node? (place ++ [part]) = some (.file text)) :
      Leads root place [part] (.file place part text)
  | vacant {place : List String} {part : String} (here : (root.directoryAt? place).isSome)
      (hstep : IsStep part) (below : root.node? (place ++ [part]) = none) :
      Leads root place [part] (.vacant place part)

/-- The place of a location. -/
def Location.place : Location → List String
  | directory place => place
  | file parent name _ | vacant parent name => parent ++ [name]

section Following

variable {root : Entries} {place parts : List String} {location : Location}

theorem follow_stay (here : (root.directoryAt? place).isSome) :
    follow root place ("." :: parts) = follow root place parts := by
  obtain ⟨entries, hentries⟩ := Option.isSome_iff_exists.1 here
  simp only [follow, hentries, if_true]

theorem follow_up (here : (root.directoryAt? place).isSome) :
    follow root place (".." :: parts) = follow root place.dropLast parts := by
  obtain ⟨entries, hentries⟩ := Option.isSome_iff_exists.1 here
  have hdots : ¬ ".." = "." := by decide
  simp only [follow, hentries, if_neg hdots, if_true]

/-- Where a part is the name of an entry, it depends on the entry how it is followed. -/
theorem follow_step {part : String} (here : (root.directoryAt? place).isSome)
    (hstep : IsStep part) : follow root place (part :: parts) =
      match root.node? (place ++ [part]) with
      | some (.directory _) => follow root (place ++ [part]) parts
      | some (.file text) =>
        if parts.isEmpty then .ok (.file place part text) else .error .notADirectory
      | none => if parts.isEmpty then .ok (.vacant place part) else .error .notFound := by
  obtain ⟨entries, hentries⟩ := Option.isSome_iff_exists.1 here
  rw [follow, Entries.node?_concat hentries]
  rcases hget : Members.get? entries part with _ | (text | inner) <;>
    simp only [hentries, hget, if_neg hstep.1, if_neg hstep.2.1, if_neg (Nat.not_lt.2 hstep.2.2)]

/-- No other part than dots and names of entries can be followed. -/
theorem isStep_of_follow {part : String} (hdot : part ≠ ".") (hdots : part ≠ "..")
    (h : follow root place (part :: parts) = .ok location) : IsStep part := by
  refine ⟨hdot, hdots, Nat.not_lt.1 fun hlong => ?_⟩
  rw [follow] at h
  cases hentries : root.directoryAt? place with
  | none => simp [hentries] at h
  | some entries =>
    simp only [hentries, if_neg hdot, if_neg hdots, if_pos hlong] at h
    cases h

theorem isSome_directoryAt?_of_follow (h : follow root place parts = .ok location) :
    (root.directoryAt? place).isSome := by
  cases parts with
  | nil =>
    rw [follow] at h
    split_ifs at h with here
    exact here
  | cons part rest =>
    rw [follow] at h
    cases hentries : root.directoryAt? place with
    | none => simp [hentries] at h
    | some entries => rfl

theorem follow_down {part : String} (here : (root.directoryAt? place).isSome)
    (hstep : IsStep part) (below : (root.directoryAt? (place ++ [part])).isSome) :
    follow root place (part :: parts) = follow root (place ++ [part]) parts := by
  obtain ⟨inner, hinner⟩ := Option.isSome_iff_exists.1 below
  simp only [follow_step here hstep, Entries.node?_eq_directory.2 hinner]

theorem leads_of_follow (h : follow root place parts = .ok location) :
    Leads root place parts location := by
  have here := isSome_directoryAt?_of_follow h
  induction parts generalizing place with
  | nil =>
    rw [follow, if_pos here] at h
    obtain rfl := Except.ok.inj h
    exact .stop here
  | cons part rest ih =>
    have hfurther : ∀ {place}, follow root place rest = .ok location →
        Leads root place rest location :=
      fun hfollow => ih hfollow (isSome_directoryAt?_of_follow hfollow)
    obtain rfl | hdot := eq_or_ne part "."
    · exact .stay here (hfurther (follow_stay here ▸ h))
    obtain rfl | hdots := eq_or_ne part ".."
    · exact .up here (hfurther (follow_up here ▸ h))
    have hstep := isStep_of_follow hdot hdots h
    rw [follow_step here hstep] at h
    rcases hnode : root.node? (place ++ [part]) with _ | (text | inner)
    · simp only [hnode] at h
      split_ifs at h with hrest
      obtain rfl := Except.ok.inj h
      obtain rfl := List.isEmpty_iff.1 hrest
      exact .vacant here hstep hnode
    · simp only [hnode] at h
      split_ifs at h with hrest
      obtain rfl := Except.ok.inj h
      obtain rfl := List.isEmpty_iff.1 hrest
      exact .file here hstep hnode
    · simp only [hnode] at h
      exact .down here hstep (by simp [Entries.node?_eq_directory.1 hnode]) (hfurther h)

theorem Leads.follow (h : Leads root place parts location) :
    follow root place parts = .ok location := by
  induction h with
  | stop here => rw [FileSystem.follow, if_pos here]
  | stay here _ ih => rw [follow_stay here, ih]
  | up here _ ih => rw [follow_up here, ih]
  | down here hstep below _ ih => rw [follow_down here hstep below, ih]
  | file here hstep below => simp [follow_step here hstep, below]
  | vacant here hstep below => simp [follow_step here hstep, below]

/-- Following parts of a path succeeds exactly if they lead somewhere. -/
theorem follow_eq_ok :
    follow root place parts = .ok location ↔ Leads root place parts location :=
  ⟨leads_of_follow, Leads.follow⟩

/-- The place to which parts of a path lead from a place, whatever there is. -/
def resolve (place : List String) : List String → List String
  | [] => place
  | part :: rest =>
    if part = "." then resolve place rest
    else if part = ".." then resolve place.dropLast rest
    else resolve (place ++ [part]) rest

theorem resolve_append (place parts more : List String) :
    resolve place (parts ++ more) = resolve (resolve place parts) more := by
  induction parts generalizing place with
  | nil => rfl
  | cons part parts ih =>
    simp only [List.cons_append, resolve]
    split_ifs <;> exact ih _

/-- Parts of a path lead to the same place whenever they lead anywhere. -/
theorem Leads.place_eq (h : Leads root place parts location) :
    location.place = resolve place parts := by
  induction h with
  | stop => rfl
  | stay _ _ ih => simpa [resolve] using ih
  | up _ _ ih => simpa [resolve] using ih
  | down _ hstep _ _ ih => simpa [resolve, hstep.1, hstep.2.1] using ih
  | file _ hstep _ => simp [resolve, hstep.1, hstep.2.1, Location.place]
  | vacant _ hstep _ => simp [resolve, hstep.1, hstep.2.1, Location.place]

/-- What there is where a location says. -/
def Location.Holds (root : Entries) : Location → Prop
  | directory place => (root.directoryAt? place).isSome
  | file parent name text =>
    (root.directoryAt? parent).isSome ∧ root.node? (parent ++ [name]) = some (.file text)
  | vacant parent name =>
    (root.directoryAt? parent).isSome ∧ root.node? (parent ++ [name]) = none

/-- A location is as the file system says. -/
theorem Leads.holds (h : Leads root place parts location) : location.Holds root := by
  induction h with
  | stop here => exact here
  | stay _ _ ih => exact ih
  | up _ _ ih => exact ih
  | down _ _ _ _ ih => exact ih
  | file here _ below => exact ⟨here, below⟩
  | vacant here _ below => exact ⟨here, below⟩

/-- Parts behind those that lead to a directory are followed from there. -/
theorem Leads.follow_append {here more : List String}
    (h : Leads root place parts (.directory here)) :
    FileSystem.follow root place (parts ++ more) = FileSystem.follow root here more := by
  -- the induction is on the way to the directory, so its location must be a variable
  generalize hdirectory : Location.directory here = directory at h
  induction h with
  | stop => rw [Location.directory.inj hdirectory, List.nil_append]
  | stay here _ ih => rw [List.cons_append, follow_stay here, ih hdirectory]
  | up here _ ih => rw [List.cons_append, follow_up here, ih hdirectory]
  | down here hstep below _ ih =>
    rw [List.cons_append, follow_down here hstep below, ih hdirectory]
  | file => cases hdirectory
  | vacant => cases hdirectory

/-- The entry of a directory as a location. -/
def locationAt (root : Entries) (parent : List String) (name : String) : Location :=
  match root.node? (parent ++ [name]) with
  | some (.directory _) => .directory (parent ++ [name])
  | some (.file text) => .file parent name text
  | none => .vacant parent name

/-- An entry of a directory is found under its name. -/
theorem leads_locationAt {part : String} (here : (root.directoryAt? place).isSome)
    (hstep : IsStep part) : Leads root place [part] (locationAt root place part) := by
  unfold locationAt
  rcases hnode : root.node? (place ++ [part]) with _ | (text | inner)
  · exact .vacant here hstep hnode
  · exact .file here hstep hnode
  · have below : (root.directoryAt? (place ++ [part])).isSome := by
      simp [Entries.node?_eq_directory.1 hnode]
    exact .down here hstep below (.stop below)

/-- Parts that lead to a missing entry or to a file lead to that entry wherever no directory is
missing. -/
theorem Leads.locationAt {root' : Entries} {parent : List String} {name : String}
    (h : Leads root place parts location)
    (hentry : location = .vacant parent name ∨ ∃ text, location = .file parent name text)
    (hdirectories : ∀ other, (root.directoryAt? other).isSome →
      (root'.directoryAt? other).isSome) :
    Leads root' place parts (locationAt root' parent name) := by
  induction h with
  | stop => simp at hentry
  | stay here _ ih => exact .stay (hdirectories _ here) (ih hentry)
  | up here _ ih => exact .up (hdirectories _ here) (ih hentry)
  | down here hstep below _ ih =>
    exact .down (hdirectories _ here) hstep (hdirectories _ below) (ih hentry)
  | file here hstep _ =>
    obtain ⟨⟨⟩⟩ | ⟨_, ⟨⟩⟩ := hentry
    exact leads_locationAt (hdirectories _ here) hstep
  | vacant here hstep _ =>
    obtain ⟨⟨⟩⟩ | ⟨_, ⟨⟩⟩ := hentry
    exact leads_locationAt (hdirectories _ here) hstep

/-- Parts that lead to a missing entry end in its name. -/
theorem Leads.getLast?_eq {parent : List String} {name : String}
    (h : Leads root place parts (.vacant parent name)) :
    parts.getLast? = some name ∧ IsStep name := by
  generalize hvacant : Location.vacant parent name = vacant at h
  induction h with
  | stop => cases hvacant
  | stay _ _ ih =>
    obtain ⟨hlast, hstep⟩ := ih hvacant
    exact ⟨by simp [List.getLast?_cons, hlast], hstep⟩
  | up _ _ ih =>
    obtain ⟨hlast, hstep⟩ := ih hvacant
    exact ⟨by simp [List.getLast?_cons, hlast], hstep⟩
  | down _ _ _ _ ih =>
    obtain ⟨hlast, hstep⟩ := ih hvacant
    exact ⟨by simp [List.getLast?_cons, hlast], hstep⟩
  | file => cases hvacant
  | vacant _ hstep _ =>
    obtain ⟨rfl, rfl⟩ := Location.vacant.inj hvacant
    exact ⟨rfl, hstep⟩

end Following

/-! ### Finding places -/

/-- Whether a text can be used as a path. -/
def IsUsablePath (path : String) : Prop :=
  '\x00' ∉ path.toList ∧ path ≠ "" ∧ path.utf8ByteSize ≤ longestPath

instance (path : String) : Decidable (IsUsablePath path) :=
  inferInstanceAs (Decidable (_ ∧ _ ∧ _))

/-- The place where a path starts. -/
def start (fs : FileSystem) (path : String) : List String :=
  if Path.isAbsolute path then [] else fs.workingDirectory

/-- The place to which a path leads, whatever there is. -/
def placeOf (fs : FileSystem) (path : String) : List String :=
  resolve (fs.start path) (Path.parts path)

variable {fs fs' : FileSystem} {path : String}

theorem locate_eq_ok {location : Location} : fs.locate path = .ok location ↔
    IsUsablePath path ∧ Leads fs.root (fs.start path) (Path.parts path) location := by
  unfold locate
  by_cases hchars : '\x00' ∈ path.toList
  · simp [IsUsablePath, hchars]
  by_cases hempty : path = ""
  · simp [IsUsablePath, hempty]
  by_cases hlong : longestPath < path.utf8ByteSize
  · simp [IsUsablePath, hchars, hempty, hlong, Nat.not_le.2 hlong]
  have husable : IsUsablePath path := ⟨hchars, hempty, Nat.not_lt.1 hlong⟩
  have hcontains : path.toList.contains '\x00' = false := by simpa using hchars
  have hnonempty : path.isEmpty = false := by simpa using hempty
  rw [hcontains, hnonempty, if_neg Bool.false_ne_true, if_neg Bool.false_ne_true, if_neg hlong,
    follow_eq_ok]
  exact (and_iff_right husable).symm

theorem place_of_locate {location : Location} (h : fs.locate path = .ok location) :
    location.place = fs.placeOf path :=
  (locate_eq_ok.1 h).2.place_eq

namespace SameOutside

variable {place : List String}

theorem start_eq (h : SameOutside place fs fs') (path : String) :
    fs'.start path = fs.start path := by
  rw [start, start, h.workingDirectory]

theorem placeOf_eq (h : SameOutside place fs fs') (path : String) :
    fs'.placeOf path = fs.placeOf path := by
  rw [placeOf, placeOf, h.start_eq]

/-- Where a path leads to a missing entry or to a file, it leads to that entry after any change to
it. -/
theorem locate_entry {parent : List String} {name : String} {location : Location}
    (h : SameOutside (parent ++ [name]) fs fs') (located : fs.locate path = .ok location)
    (hentry : location = .vacant parent name ∨ ∃ text, location = .file parent name text) :
    fs'.locate path = .ok (locationAt fs'.root parent name) := by
  obtain ⟨husable, hleads⟩ := locate_eq_ok.1 located
  have hnowhere : fs.root.directoryAt? (parent ++ [name]) = none := by
    have hholds := hleads.holds
    refine Entries.directoryAt?_eq_none fun inner hinner => ?_
    obtain rfl | ⟨text, rfl⟩ := hentry
    · cases hinner.symm.trans hholds.2
    · cases hinner.symm.trans hholds.2
  refine locate_eq_ok.2 ⟨husable, ?_⟩
  rw [h.start_eq]
  exact hleads.locationAt hentry fun other hother => h.isSome_directoryAt? hnowhere hother

theorem locate {parent : List String} {name : String}
    (h : SameOutside (parent ++ [name]) fs fs')
    (vacant : fs.locate path = .ok (.vacant parent name)) :
    fs'.locate path = .ok (locationAt fs'.root parent name) :=
  h.locate_entry vacant (.inl rfl)

end SameOutside

/-- The path of a file in a directory leads to the entry with its name. -/
theorem locate_join {place : List String} {name : String} {location : Location}
    (located : fs.locate path = .ok (.directory place)) (hname : Path.IsFileName name) :
    fs.locate (Path.join path name) = .ok location ↔
      (IsUsablePath (Path.join path name) ∧ IsStep name) ∧
        location = locationAt fs.root place name := by
  obtain ⟨husable, hleads⟩ := locate_eq_ok.1 located
  have here : (fs.root.directoryAt? place).isSome := hleads.holds
  have hstart : fs.start (Path.join path name) = fs.start path := by
    rw [start, start, Path.isAbsolute_join husable.2.1 hname]
  rw [locate_eq_ok, hstart, Path.parts_join husable.2.1 hname, ← follow_eq_ok,
    hleads.follow_append, and_assoc]
  refine and_congr_right fun _ => ⟨fun hfollow => ?_, ?_⟩
  · have hstep := isStep_of_follow hname.2.2.1 hname.2.2.2 hfollow
    rw [(leads_locationAt here hstep).follow] at hfollow
    exact ⟨hstep, (Except.ok.inj hfollow).symm⟩
  · rintro ⟨hstep, rfl⟩
    exact (leads_locationAt here hstep).follow

end FileSystem

end CommandTree
