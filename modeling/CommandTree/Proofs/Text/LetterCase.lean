import CommandTree.Proofs.Text.CodePoints
import CommandTree.Text.Alphabetic
import CommandTree.Text.LetterCase

/-!
# Small forms

The small form of a letter is a letter without a small form of its own, so that writing a text in
small letters a second time changes nothing.  Some capitals have no small form at all, such as the
double-struck capitals of mathematics: they stay capitals.

* `small_of_mem_lowercaseRuns` : the small forms in the table are letters, no capitals, and their
  own small forms.
* `mem_lowercase_cases` : a character of the small form of a letter is the letter itself, or one of
  these; the dot of the dotted capital I is the only one that is no letter.
* `IsLoneCapital` holds for capitals without a small form; `isLoneCapital_of_mem_lowercase` : they
  are the only capitals among small forms.
* `isAlphabetic_of_isUppercase` : capitals are letters.
-/

namespace CommandTree

/-! ### The table of small forms -/

/-- The small forms of the letters of a run. -/
def CaseRun.smallForms (run : CaseRun) : CodeRun :=
  ⟨(run.letters.first + run.shift).toNat, (run.letters.last + run.shift).toNat, run.letters.step⟩

/-- The small forms of all letters that have one of one character. -/
def smallFormRuns : CodeRuns :=
  lowercaseRuns.map CaseRun.smallForms

/-- The letters that have a small form of one character. -/
def casedRuns : CodeRuns :=
  lowercaseRuns.map CaseRun.letters

/-- Whether the numbers of a run are those of characters. -/
def CodeRun.isValid (run : CodeRun) : Bool :=
  Nat.blt run.last 0xD800 || Nat.blt 0xDFFF run.first && Nat.blt run.last 0x110000

/-- The numbers of small forms are those of characters. -/
theorem isValid_of_mem_lowercaseRuns : ∀ run ∈ lowercaseRuns,
    0 ≤ run.letters.first + run.shift ∧ run.smallForms.isValid = true := by
  decide +kernel

/-- All small forms are letters; none of them is a capital, and none has a small form. -/
theorem smallFormRuns_spec :
    smallFormRuns.bits &&& alphabeticRuns.bits = smallFormRuns.bits ∧
      smallFormRuns.bits &&& uppercaseRuns.bits = 0 ∧
      smallFormRuns.bits &&& casedRuns.bits = 0 := by
  decide +kernel

/-- All capitals are letters. -/
theorem uppercaseRuns_alphabeticRuns :
    uppercaseRuns.bits &&& alphabeticRuns.bits = uppercaseRuns.bits := by
  decide +kernel

/-- The dot of the dotted capital I is neither a capital nor does it have a small form. -/
theorem dot_spec : isUppercase '\u0307' = false ∧ lowercase '\u0307' = ['\u0307'] := by
  decide +kernel

/-! ### Characters -/

theorem CaseRun.contains_smallForms {run : CaseRun} {code : Nat}
    (hshift : 0 ≤ run.letters.first + run.shift) (h : run.letters.contains code = true) :
    run.smallForms.contains (code + run.shift).toNat = true := by
  obtain ⟨hfirst, hlast, hstep⟩ := CodeRun.contains_iff.1 h
  have hdistance : (code + run.shift).toNat - (run.letters.first + run.shift).toNat =
      code - run.letters.first := by omega
  refine CodeRun.contains_iff.2 ⟨?_, ?_, ?_⟩
  · simp only [smallForms]
    omega
  · simp only [smallForms]
    omega
  · rw [smallForms, hdistance, hstep]

theorem CodeRun.toNat_ofNat_of_isValid {run : CodeRun} {code : Nat} (hvalid : run.isValid = true)
    (h : run.contains code = true) : (Char.ofNat code).toNat = code := by
  obtain ⟨hfirst, hlast, -⟩ := CodeRun.contains_iff.1 h
  simp only [isValid, Bool.or_eq_true, Bool.and_eq_true, Nat.blt_eq] at hvalid
  have hchar : code.isValidChar := by
    simp only [Nat.isValidChar]
    omega
  exact congrArg Char.toNat (dif_pos hchar)

theorem isAlphabetic_of_isUppercase {c : Char} (h : isUppercase c = true) :
    isAlphabetic c = true :=
  CodeRuns.contains_of_land_eq uppercaseRuns_alphabeticRuns h

theorem lowercase_eq_self {c : Char} (hdotted : c ≠ '\u0130')
    (hcased : casedRuns.contains c.toNat = false) : lowercase c = [c] := by
  have hnone : lowercaseRuns.find? (·.letters.contains c.toNat) = none := by
    refine List.find?_eq_none.2 fun run hrun hcontains => ?_
    have hmem := CodeRuns.contains_iff.2 ⟨run.letters, List.mem_map_of_mem hrun, hcontains⟩
    rw [casedRuns, hmem] at hcased
    cases hcased
  rw [lowercase, if_neg hdotted, hnone]

/-- A small form in the table is a letter, no capital, and its own small form. -/
theorem small_of_mem_lowercaseRuns {run : CaseRun} {code : Nat} (hrun : run ∈ lowercaseRuns)
    (h : run.letters.contains code = true) :
    isAlphabetic (Char.ofNat (code + run.shift).toNat) = true ∧
      isUppercase (Char.ofNat (code + run.shift).toNat) = false ∧
      lowercase (Char.ofNat (code + run.shift).toNat) = [Char.ofNat (code + run.shift).toNat] := by
  obtain ⟨halphabetic, huppercase, hcased⟩ := smallFormRuns_spec
  obtain ⟨hshift, hvalid⟩ := isValid_of_mem_lowercaseRuns run hrun
  have hcontains := CaseRun.contains_smallForms hshift h
  have hsmall : smallFormRuns.contains (code + run.shift).toNat = true :=
    CodeRuns.contains_iff.2 ⟨_, List.mem_map_of_mem hrun, hcontains⟩
  rw [← CodeRun.toNat_ofNat_of_isValid hvalid hcontains] at hsmall
  generalize Char.ofNat (code + run.shift).toNat = small at hsmall
  have hcapital : isUppercase small = false :=
    CodeRuns.not_contains_of_land_eq_zero huppercase hsmall
  have hdotted : small ≠ '\u0130' := by
    rintro rfl
    revert hcapital
    decide +kernel
  exact ⟨CodeRuns.contains_of_land_eq halphabetic hsmall, hcapital,
    lowercase_eq_self hdotted (CodeRuns.not_contains_of_land_eq_zero hcased hsmall)⟩

/-- A character of the small form of a character is that character itself, the dot of the dotted
capital I, or a letter that is small. -/
theorem mem_lowercase_cases {c d : Char} (h : d ∈ lowercase c) :
    d = c ∧ lowercase c = [c] ∨ d = '\u0307' ∨
      isAlphabetic d = true ∧ isUppercase d = false ∧ lowercase d = [d] := by
  rw [lowercase] at h ⊢
  split_ifs at h ⊢ with hdotted
  · obtain rfl | rfl : d = 'i' ∨ d = '\u0307' := by simpa using h
    · exact .inr (.inr (by decide +kernel))
    · exact .inr (.inl rfl)
  · split at h
    · rename_i run hrun
      obtain rfl := List.mem_singleton.1 h
      have hcontains := List.find?_some hrun
      exact .inr (.inr (small_of_mem_lowercaseRuns (List.mem_of_find?_eq_some hrun) hcontains))
    · exact .inl ⟨List.mem_singleton.1 h, rfl⟩

/-- The small form of a small form is itself. -/
theorem lowercase_of_mem_lowercase {c d : Char} (h : d ∈ lowercase c) : lowercase d = [d] := by
  obtain ⟨rfl, hself⟩ | rfl | ⟨-, -, hself⟩ := mem_lowercase_cases h
  · exact hself
  · exact dot_spec.2
  · exact hself

/-! ### Capitals without a small form -/

/-- A capital that is its own small form, as there is no other. -/
def IsLoneCapital (c : Char) : Prop :=
  isUppercase c = true ∧ lowercase c = [c]

instance (c : Char) : Decidable (IsLoneCapital c) :=
  inferInstanceAs (Decidable (_ ∧ _))

theorem isLoneCapital_of_mem_lowercase {c d : Char} (h : d ∈ lowercase c)
    (hd : isUppercase d = true) : d = c ∧ IsLoneCapital c := by
  obtain ⟨rfl, hself⟩ | rfl | ⟨-, hsmall, -⟩ := mem_lowercase_cases h
  · exact ⟨rfl, hd, hself⟩
  · rw [dot_spec.1] at hd
    cases hd
  · rw [hsmall] at hd
    cases hd

end CommandTree
