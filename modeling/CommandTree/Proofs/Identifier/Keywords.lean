import CommandTree.Proofs.Identifier.Unique

/-!
# Keywords

The reserved words hold the keywords of the generated language in small letters, but three of its
keywords start with a capital.  No identifier is one of these either, as it has no capitals from
`A` to `Z`: the small form of a character is never one of them.

* `isUpper_of_mem_lowercase` : small forms are not capitals from `A` to `Z`.
* `identifierVariant_notMem_keywords` : the identifier of a text is not a keyword, and neither is a
  variant of it.
-/

namespace CommandTree

/-- The keywords of the generated language. -/
def languageKeywords : List String := [
  "False", "None", "True", "and", "as", "assert", "async", "await", "break", "class", "continue",
  "def", "del", "elif", "else", "except", "finally", "for", "from", "global", "if", "import", "in",
  "is", "lambda", "nonlocal", "not", "or", "pass", "raise", "return", "try", "while", "with",
  "yield"]

/-! ### Small letters -/

theorem isUpper_eq_false {c : Char} (h : c.toNat < 0x41 ∨ 0x5A < c.toNat) :
    c.isUpper = false := by
  refine decide_eq_false fun hrange => ?_
  simp only [ge_iff_le, UInt32.le_iff_toNat_le] at hrange
  change 0x41 ≤ c.toNat ∧ c.toNat ≤ 0x5A at hrange
  omega

/-- A number that is not the code of a character leads to the character with the code zero. -/
theorem toNat_ofNat_cases (n : Nat) : (Char.ofNat n).toNat = n ∨ (Char.ofNat n).toNat = 0 := by
  by_cases hn : n.isValidChar
  · exact .inl (congrArg Char.toNat (dif_pos hn))
  · exact .inr (congrArg Char.toNat (dif_neg hn))

/-- The small form of a character is not a capital from `A` to `Z`. -/
theorem isUpper_of_mem_lowercase {c d : Char} (h : d ∈ lowercase c) : d.isUpper = false := by
  -- all runs lead beyond the letter Z, and the first one has the capitals from A to Z
  have hbeyond : ∀ run ∈ lowercaseRuns, (0x5A : Int) < run.letters.first + run.shift := by
    decide +kernel
  rw [lowercase] at h
  split_ifs at h with hdotted
  · obtain rfl | rfl : d = 'i' ∨ d = '\u0307' := by simpa using h
    · rfl
    · rfl
  · split at h
    · rename_i run hrun
      obtain rfl := List.mem_singleton.1 h
      have hcontains := List.find?_some hrun
      have hfar := hbeyond run (List.mem_of_find?_eq_some hrun)
      simp only [CodeRun.contains, Bool.and_eq_true, decide_eq_true_eq] at hcontains
      have hcode := toNat_ofNat_cases (c.toNat + run.shift).toNat
      apply isUpper_eq_false
      omega
    · rename_i hnone
      obtain rfl := List.mem_singleton.1 h
      have hfirst := List.find?_eq_none.1 hnone ⟨⟨0x41, 0x5A, 1⟩, 32⟩ List.mem_cons_self
      apply isUpper_eq_false
      simp only [CodeRun.contains, Nat.mod_one, beq_self_eq_true, Bool.and_true,
        Bool.and_eq_true, decide_eq_true_eq] at hfirst
      omega

theorem isUpper_of_mem_snakeCase {text : String} {c : Char} (h : c ∈ (snakeCase text).toList) :
    c.isUpper = false := by
  obtain rfl | ⟨d, -, h⟩ := mem_snakeCase h
  · rfl
  · exact isUpper_of_mem_lowercase h

theorem isUpper_of_mem_identifierVariant {text : String} {n : Nat} {c : Char}
    (h : c ∈ (identifierVariant (identifierOf text) n).toList) : c.isUpper = false := by
  have hdigit : ∀ {c : Char}, c.isDigit = true → c.isUpper = false := by
    intro c h
    simp only [Char.isDigit, Bool.and_eq_true, decide_eq_true_eq, UInt32.le_iff_toNat_le] at h
    exact isUpper_eq_false (.inl (Nat.lt_of_le_of_lt h.2 (by decide)))
  obtain h | rfl | h := mem_identifierVariant h
  · obtain rfl | ⟨h, -⟩ := mem_identifierOf h
    · rfl
    · exact isUpper_of_mem_snakeCase h
  · rfl
  · exact hdigit h

/-! ### Keywords -/

/-- A keyword is a reserved word, or it has a capital. -/
theorem languageKeywords_cases : ∀ word ∈ languageKeywords,
    word ∈ reservedWords ∨ word.toList.any Char.isUpper = true := by
  decide

/-- **No variant of an identifier is a keyword.** -/
theorem identifierVariant_notMem_keywords (text : String) (n : Nat) :
    identifierVariant (identifierOf text) n ∉ languageKeywords := by
  intro hmem
  obtain hreserved | hany := languageKeywords_cases _ hmem
  · exact identifierVariant_notMem_reservedWords (identifierOf_notMem_reservedWords text) n
      hreserved
  · obtain ⟨c, hc, hcapital⟩ := List.any_eq_true.1 hany
    rw [isUpper_of_mem_identifierVariant hc] at hcapital
    cases hcapital

end CommandTree
