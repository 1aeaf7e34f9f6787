import CommandTree.FileSystem.Path
import Mathlib.Data.List.Basic

/-!
# Paths of files in a directory

The path of a file in a directory is the path of the directory and, behind it, the name of the
file.

* `Path.IsFileName` : texts that can be the name of a file.
* `Path.parts_join` : the parts of the path are those of the directory and the name.
* `Path.extension?_join` : a file in a directory has the extension of its name.
-/

namespace CommandTree

namespace Path

/-! ### Names and extensions -/

theorem pieces_ne_nil (chars : List Char) : pieces chars ≠ [] := by
  cases chars with
  | nil => simp [pieces]
  | cons c rest =>
    rw [pieces]
    split
    · simp
    · split <;> simp

/-- A slash separates the pieces before it from those behind it. -/
theorem pieces_append (lead inner : List Char) :
    pieces (lead ++ '/' :: inner) = pieces lead ++ pieces inner := by
  induction lead with
  | nil => simp [pieces]
  | cons c lead ih =>
    obtain ⟨piece, more, hpieces⟩ := List.exists_cons_of_ne_nil (pieces_ne_nil lead)
    rw [List.cons_append, pieces, pieces, ih, hpieces]
    split <;> rfl

theorem pieces_of_notMem {chars : List Char} (h : '/' ∉ chars) : pieces chars = [chars] := by
  induction chars with
  | nil => rfl
  | cons c rest ih =>
    simp only [List.mem_cons, not_or] at h
    rw [pieces, if_neg (Ne.symm h.1), ih h.2]

/-- The text of a path inside a directory is that of the directory, a slash if it does not end in
one, and the inner path. -/
theorem toList_join_eq {base inner : String} (hbase : base ≠ "")
    (hinner : isAbsolute inner = false) :
    (join base inner).toList = base.toList ++ inner.toList ∧ endsInSlash base = true ∨
      (join base inner).toList = base.toList ++ '/' :: inner.toList := by
  have hempty : base.isEmpty = false := by simpa using hbase
  unfold join
  rw [hinner, hempty, Bool.or_self, if_neg Bool.false_ne_true]
  split
  · rename_i hslash
    exact .inl ⟨String.toList_append, hslash⟩
  · exact .inr (by simp)

/-- The text of a path inside a directory is that of the inner path, after a slash at most. -/
theorem toList_join (base : String) {inner : String} (hinner : isAbsolute inner = false) :
    (join base inner).toList = inner.toList ∨
      ∃ lead, (join base inner).toList = lead ++ '/' :: inner.toList := by
  by_cases hbase : base = ""
  · exact .inl (by simp [join, hbase])
  obtain ⟨htext, hslash⟩ | htext := toList_join_eq hbase hinner
  · rw [endsInSlash, decide_eq_true_eq] at hslash
    obtain ⟨lead, hlead⟩ := List.getLast?_eq_some_iff.1 hslash
    exact .inr ⟨lead, by simp [htext, hlead]⟩
  · exact .inr ⟨base.toList, htext⟩

/-- Whether a text can be the name of a file. -/
def IsFileName (name : String) : Prop :=
  '/' ∉ name.toList ∧ name ≠ "" ∧ name ≠ "." ∧ name ≠ ".."

instance (name : String) : Decidable (IsFileName name) :=
  inferInstanceAs (Decidable (_ ∧ _ ∧ _ ∧ _))

theorem IsFileName.isAbsolute_eq {name : String} (h : IsFileName name) :
    isAbsolute name = false := by
  rw [isAbsolute, decide_eq_false_iff_not]
  exact fun hhead => h.1 (List.mem_of_head? hhead)

/-- The name of a file in a directory is the last part of its path. -/
theorem fileName?_join (base : String) {name : String} (h : IsFileName name) :
    fileName? (join base name) = some name := by
  have habsolute := h.isAbsolute_eq
  obtain ⟨hslash, hproper⟩ := h
  have hpieces := pieces_of_notMem hslash
  have hlast : (properParts (join base name)).getLast? = some name := by
    obtain hlist | ⟨lead, hlist⟩ := toList_join base habsolute
    · rw [properParts, parts, hlist, hpieces]
      simp [hproper]
    · rw [properParts, parts, hlist, pieces_append, hpieces]
      simp [hproper]
  rw [fileName?, hlast]
  simp [hproper]

/-- A file in a directory has the extension of its name. -/
theorem extension?_join (base : String) {name : String} (h : IsFileName name) :
    extension? (join base name) = extension? name := by
  have hname := fileName?_join "" h
  have hjoin : join "" name = name := by simp [join]
  rw [hjoin] at hname
  rw [extension?, extension?, fileName?_join base h, hname]

/-! ### Parts -/

variable {base name : String}

/-- The parts of the path of a file are those of the directory and the name. -/
theorem parts_join (hbase : base ≠ "") (hname : IsFileName name) :
    parts (join base name) = parts base ++ [name] := by
  have hpieces : ((pieces name.toList).filter (!·.isEmpty)).map String.ofList = [name] := by
    have hne : name.toList ≠ [] := by simpa using hname.2.1
    simp [pieces_of_notMem hname.1, hne]
  obtain ⟨htext, hslash⟩ | htext := toList_join_eq hbase hname.isAbsolute_eq
  · rw [endsInSlash, decide_eq_true_eq] at hslash
    obtain ⟨lead, hlead⟩ := List.getLast?_eq_some_iff.1 hslash
    have hnil : (pieces []).filter (!·.isEmpty) = [] := rfl
    rw [parts, parts, htext, hlead, List.append_assoc, List.singleton_append, pieces_append,
      pieces_append, List.filter_append, List.filter_append, hnil, List.append_nil, List.map_append,
      hpieces]
  · rw [parts, parts, htext, pieces_append, List.filter_append, List.map_append, hpieces]

theorem isAbsolute_join (hbase : base ≠ "") (hname : IsFileName name) :
    isAbsolute (join base name) = isAbsolute base := by
  obtain ⟨c, rest, hchars⟩ : ∃ c rest, base.toList = c :: rest :=
    List.exists_cons_of_ne_nil (by simpa using hbase)
  obtain ⟨htext, -⟩ | htext := toList_join_eq hbase hname.isAbsolute_eq <;>
    simp [isAbsolute, htext, hchars]

theorem endsInSlash_join (hbase : base ≠ "") (hname : IsFileName name) :
    endsInSlash (join base name) = false := by
  have hne : name.toList ≠ [] := by simpa using hname.2.1
  have hlast : ∀ c ∈ name.toList.getLast?, c ≠ '/' := by
    rintro c hc rfl
    exact hname.1 (List.mem_of_getLast? hc)
  have hend : (join base name).toList.getLast? = name.toList.getLast? := by
    obtain ⟨lead, hlead⟩ : ∃ lead, (join base name).toList = lead ++ name.toList := by
      obtain ⟨htext, -⟩ | htext := toList_join_eq hbase hname.isAbsolute_eq
      · exact ⟨_, htext⟩
      · exact ⟨base.toList ++ ['/'], by simp [htext]⟩
    rw [hlead, List.getLast?_append_of_ne_nil _ hne]
  rw [endsInSlash, hend, decide_eq_false_iff_not]
  exact fun h => hlast '/' h rfl

end Path

end CommandTree
