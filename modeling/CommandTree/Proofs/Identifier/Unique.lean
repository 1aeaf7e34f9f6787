import CommandTree.Identifier
import Std.Data.String.ToNat
import Mathlib.Data.List.Nodup
import Mathlib.Tactic.SplitIfs

/-!
# Unique identifiers

* `claimIdentifier_spec` : the claimed identifier is the first variant that is not taken, and it is
  among the first variants of which there is one more than there are taken identifiers.
* `eq_of_identifierVariant_eq` : a numbered variant ends with a digit, so a word that does not is no
  numbered variant.
* `claimIdentifier_notMem_reservedWords` : a claimed identifier is never a reserved word, as neither
  the identifier of a text nor a numbered variant is one.
* `isIdentifierChar_of_mem_identifierOf`, `isIdentifierChar_of_mem_identifierVariant` : both consist
  of characters that may stand in an identifier.
-/

namespace CommandTree

/-! ### Variants -/

theorem base_ne_identifierVariant (base : String) (n : Nat) :
    base ≠ identifierVariant base (n + 1) := by
  intro h
  have hlen := congrArg String.length h
  have hpos : "_".length = 1 := rfl
  simp only [identifierVariant, String.length_append] at hlen
  omega

theorem identifierVariant_injective (base : String) :
    Function.Injective (identifierVariant base) := by
  intro m n h
  cases m with
  | zero =>
    cases n with
    | zero => rfl
    | succ n => exact absurd h (base_ne_identifierVariant base n)
  | succ m =>
    cases n with
    | zero => exact absurd h.symm (base_ne_identifierVariant base m)
    | succ n =>
      have hrepr : Nat.repr (m + 2) = Nat.repr (n + 2) := by
        simpa [identifierVariant] using h
      have := Nat.repr_injective hrepr
      omega

/-- Some variant is not taken, as the variants outnumber the taken identifiers. -/
theorem exists_free_variant (taken : List String) (base : String) :
    ∃ k ≤ taken.length, identifierVariant base k ∉ taken := by
  by_contra hall
  push Not at hall
  have hsub : (List.range (taken.length + 1)).map (identifierVariant base) ⊆ taken := by
    intro name hname
    obtain ⟨k, hk, rfl⟩ := List.mem_map.1 hname
    exact hall k (by simpa [Nat.lt_succ_iff] using hk)
  have hlen := (List.nodup_range.map (identifierVariant_injective base)).length_le_of_subset hsub
  simp only [List.length_map, List.length_range] at hlen
  omega

/-- The search stops at the first free variant if there is one within its reach. -/
theorem freeVariant_spec {taken : List String} {base : String} {tries n : Nat}
    (h : ∃ k ≤ tries, identifierVariant base (n + k) ∉ taken) :
    ∃ m ≤ tries, freeVariant taken base tries n = identifierVariant base (n + m) ∧
      identifierVariant base (n + m) ∉ taken ∧
      ∀ k < m, identifierVariant base (n + k) ∈ taken := by
  induction tries generalizing n with
  | zero =>
    obtain ⟨k, hk, hfree⟩ := h
    obtain rfl : k = 0 := by omega
    exact ⟨0, Nat.le_refl 0, rfl, hfree, by omega⟩
  | succ tries ih =>
    simp only [freeVariant, List.contains_iff_mem]
    split_ifs with htaken
    · have hlater : ∃ k ≤ tries, identifierVariant base (n + 1 + k) ∉ taken := by
        obtain ⟨k, hk, hfree⟩ := h
        cases k with
        | zero => exact absurd htaken hfree
        | succ k => exact ⟨k, by omega, by rwa [Nat.add_assoc, Nat.add_comm 1]⟩
      obtain ⟨m, hm, heq, hfree, hleast⟩ := ih hlater
      have hshift : ∀ k, n + 1 + k = n + (k + 1) := by omega
      rw [hshift] at heq hfree
      refine ⟨m + 1, by omega, heq, hfree, fun k hk => ?_⟩
      cases k with
      | zero => exact htaken
      | succ k => exact hshift k ▸ hleast k (by omega)
    · exact ⟨0, by omega, rfl, htaken, by omega⟩

/-- **The claimed identifier is the first free variant.** -/
theorem claimIdentifier_spec (taken : List String) (base : String) :
    ∃ m ≤ taken.length, claimIdentifier taken base = identifierVariant base m ∧
      identifierVariant base m ∉ taken ∧ ∀ k < m, identifierVariant base k ∈ taken := by
  have h := freeVariant_spec (n := 0) (by simpa using exists_free_variant taken base)
  simpa [claimIdentifier] using h

theorem claimIdentifier_notMem (taken : List String) (base : String) :
    claimIdentifier taken base ∉ taken := by
  obtain ⟨m, -, heq, hfree, -⟩ := claimIdentifier_spec taken base
  rwa [heq]

/-- A text that is not taken is claimed as it is. -/
theorem claimIdentifier_of_notMem {taken : List String} {base : String} (h : base ∉ taken) :
    claimIdentifier taken base = base := by
  obtain ⟨m, -, heq, -, hleast⟩ := claimIdentifier_spec taken base
  cases m with
  | zero => exact heq
  | succ m => exact absurd (hleast 0 (Nat.succ_pos m)) h

/-! ### Reserved words -/

/-- Reserved words neither start nor end with an underscore, and do not end with a digit. -/
theorem reservedWords_ends : ∀ word ∈ reservedWords, word.toList.head? ≠ some '_' ∧
    word.toList.getLast? ≠ some '_' ∧ word.toList.getLast?.any Char.isDigit = false := by
  decide

theorem underscore_append_notMem_reservedWords (text : String) :
    "_" ++ text ∉ reservedWords := by
  intro h
  exact (reservedWords_ends _ h).1 (by simp)

theorem append_underscore_notMem_reservedWords (text : String) :
    text ++ "_" ∉ reservedWords := by
  intro h
  exact (reservedWords_ends _ h).2.1 (by simp)

theorem identifierOf_notMem_reservedWords (text : String) :
    identifierOf text ∉ reservedWords := by
  simp only [identifierOf]
  split
  · decide
  · split_ifs with hdigit hreserved
    · exact underscore_append_notMem_reservedWords _
    · exact append_underscore_notMem_reservedWords _
    · simpa using hreserved

/-- A numbered variant ends with a digit. -/
theorem isDigit_getLast?_identifierVariant (base : String) (n : Nat) :
    (identifierVariant base (n + 1)).toList.getLast?.any Char.isDigit = true := by
  obtain ⟨c, hc⟩ : ∃ c, (Nat.toDigits 10 (n + 2)).getLast? = some c := by
    cases hlast : (Nat.toDigits 10 (n + 2)).getLast? with
    | none => exact absurd (List.getLast?_eq_none_iff.1 hlast) Nat.toDigits_ne_nil
    | some c => exact ⟨c, rfl⟩
  have hdigit := Nat.isDigit_of_mem_toDigits (by decide) (by decide) (List.mem_of_getLast? hc)
  have hlast : (identifierVariant base (n + 1)).toList.getLast? = some c := by
    simp [identifierVariant, List.getLast?_append, List.getLast?_cons, hc]
  rw [hlast, Option.any_some, hdigit]

/-- A word that does not end with a digit is a variant of itself only. -/
theorem eq_of_identifierVariant_eq {base word : String} {n : Nat}
    (hword : word.toList.getLast?.any Char.isDigit = false)
    (h : identifierVariant base n = word) : base = word := by
  cases n with
  | zero => exact h
  | succ n =>
    rw [← h, isDigit_getLast?_identifierVariant] at hword
    cases hword

theorem identifierVariant_notMem_reservedWords {base : String} (h : base ∉ reservedWords)
    (n : Nat) : identifierVariant base n ∉ reservedWords := by
  intro hmem
  exact h (eq_of_identifierVariant_eq (reservedWords_ends _ hmem).2.2 rfl ▸ hmem)

theorem claimIdentifier_notMem_reservedWords (taken : List String) {base : String}
    (h : base ∉ reservedWords) : claimIdentifier taken base ∉ reservedWords := by
  obtain ⟨m, -, heq, -⟩ := claimIdentifier_spec taken base
  rw [heq]
  exact identifierVariant_notMem_reservedWords h m

/-! ### Characters -/

theorem isIdentifierChar_of_isDigit {c : Char} (h : c.isDigit = true) :
    isIdentifierChar c = true := by
  have hrun : (CodeRun.mk 0x30 0x39 1).contains c.toNat = true := by
    simp only [Char.isDigit, Bool.and_eq_true, decide_eq_true_eq, UInt32.le_iff_toNat_le] at h
    simp only [CodeRun.contains, Bool.and_eq_true, decide_eq_true_eq, Nat.mod_one, beq_self_eq_true,
      and_true]
    exact h
  have hnumeric : isNumeric c = true :=
    CodeRuns.contains_iff.2 ⟨_, List.mem_cons_self, hrun⟩
  simp [isIdentifierChar, isAlphanumeric, hnumeric]

theorem isIdentifierChar_underscore : isIdentifierChar '_' = true := by
  simp [isIdentifierChar]

/-- The characters of the snake case of a text are underscores and those of the small forms of its
characters. -/
theorem mem_snakeCase {text : String} {c : Char} (h : c ∈ (snakeCase text).toList) :
    c = '_' ∨ ∃ d ∈ text.toList, c ∈ lowercase d := by
  rw [snakeCase, String.toList_ofList] at h
  cases htext : text.toList with
  | nil => simp [htext] at h
  | cons first rest =>
    simp only [htext, List.mem_map, List.mem_append, List.mem_flatMap] at h
    obtain ⟨d, hd, rfl⟩ := h
    split_ifs
    · exact .inl rfl
    · obtain hd | ⟨e, he, hd⟩ := hd
      · exact .inr ⟨first, List.mem_cons_self, hd⟩
      · split_ifs at hd
        · exact (List.mem_cons.1 hd).imp_right fun hd => ⟨e, List.mem_cons_of_mem first he, hd⟩
        · exact .inr ⟨e, List.mem_cons_of_mem first he, hd⟩

/-- The characters of the identifier of a text are underscores and those of its snake case that may
stand in an identifier. -/
theorem mem_identifierOf {text : String} {c : Char} (h : c ∈ (identifierOf text).toList) :
    c = '_' ∨ c ∈ (snakeCase text).toList ∧ isIdentifierChar c = true := by
  have hchars : ∀ d ∈ (snakeCase text).toList.map (fun c => if isIdentifierChar c then c else '_'),
      d = '_' ∨ d ∈ (snakeCase text).toList ∧ isIdentifierChar d = true := by
    intro d hd
    obtain ⟨d', hmem, rfl⟩ := List.mem_map.1 hd
    split_ifs with hd'
    · exact .inr ⟨hmem, hd'⟩
    · exact .inl rfl
  have hunderscore : ∀ {d : Char}, d ∈ "_".toList → d = '_' := by
    intro d hd
    simpa using hd
  rw [identifierOf] at h
  generalize (snakeCase text).toList.map (fun c => if isIdentifierChar c then c else '_') = chars
    at h hchars
  cases chars with
  | nil => exact .inl (hunderscore h)
  | cons first rest =>
    simp only at h
    split_ifs at h <;> simp only [String.toList_append, String.toList_ofList, List.mem_append] at h
    · exact h.elim (fun h => .inl (hunderscore h)) (hchars c)
    · exact h.elim (hchars c) fun h => .inl (hunderscore h)
    · exact hchars c h

theorem isIdentifierChar_of_mem_identifierOf {text : String} {c : Char}
    (h : c ∈ (identifierOf text).toList) : isIdentifierChar c = true := by
  obtain rfl | ⟨-, h⟩ := mem_identifierOf h
  · exact isIdentifierChar_underscore
  · exact h

/-- The characters of a variant are those of the text itself, underscores and digits. -/
theorem mem_identifierVariant {base : String} {n : Nat} {c : Char}
    (h : c ∈ (identifierVariant base n).toList) :
    c ∈ base.toList ∨ c = '_' ∨ c.isDigit = true := by
  cases n with
  | zero => exact .inl h
  | succ n =>
    simp only [identifierVariant, String.toList_append, List.mem_append] at h
    obtain (h | h) | h := h
    · exact .inl h
    · exact .inr (.inl (by simpa using h))
    · have hdigits : c ∈ Nat.toDigits 10 (n + 2) := by simpa using h
      exact .inr (.inr (Nat.isDigit_of_mem_toDigits (by decide) (by decide) hdigits))

theorem isIdentifierChar_of_mem_identifierVariant {base : String}
    (hbase : ∀ c ∈ base.toList, isIdentifierChar c = true) (n : Nat) {c : Char}
    (h : c ∈ (identifierVariant base n).toList) : isIdentifierChar c = true := by
  obtain h | rfl | h := mem_identifierVariant h
  · exact hbase c h
  · exact isIdentifierChar_underscore
  · exact isIdentifierChar_of_isDigit h

end CommandTree
