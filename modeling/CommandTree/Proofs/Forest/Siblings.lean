import CommandTree.Proofs.Forest.Basic

/-!
# Siblings in a forest

A place says which labels are the last of their siblings by how the forest is built.  The list of
what is around each label says the same by numbers alone: two labels are siblings if the same label
is around both of them, or none.

* `HasLaterSibling` : a label that comes later has the same label around it.
* `Forest.last_placed` : a label without such a sibling is the last one, unless siblings follow the
  whole forest.
* `Forest.around_placed` : what is around a label is what is around the label directly around it,
  and that label itself.
-/

namespace CommandTree

/-- Whether the same number is around the label with number `k` and around a label after it. -/
def HasLaterSibling (enclosers : List (Option Nat)) (k : Nat) : Prop :=
  ∃ outer ∈ enclosers.drop (k + 1), enclosers[k]? = some outer

instance (enclosers : List (Option Nat)) (k : Nat) : Decidable (HasLaterSibling enclosers k) :=
  inferInstanceAs (Decidable (∃ outer ∈ _, _))

section Lists

variable {outer : Option Nat} {first second : List (Option Nat)} {k : Nat}

theorem hasLaterSibling_zero : HasLaterSibling (outer :: first) 0 ↔ outer ∈ first := by
  simp [HasLaterSibling]

/-- If what is around a label is around no label of a second part, then its siblings are in the
first part. -/
theorem hasLaterSibling_left (hk : k < first.length) (h : first[k] ∉ second) :
    HasLaterSibling (outer :: (first ++ second)) (k + 1) ↔ HasLaterSibling first k := by
  have hdrop : (first ++ second).drop (k + 1) = first.drop (k + 1) ++ second :=
    List.drop_append_of_le_length hk
  rw [HasLaterSibling, HasLaterSibling, List.drop_succ_cons, List.getElem?_cons_succ, hdrop,
    List.getElem?_append_left hk, List.getElem?_eq_getElem hk]
  constructor
  · rintro ⟨o, hmem, heq⟩
    obtain rfl := Option.some.inj heq
    rcases List.mem_append.1 hmem with hfirst | hsecond
    · exact ⟨_, hfirst, rfl⟩
    · exact absurd hsecond h
  · rintro ⟨o, hmem, heq⟩
    exact ⟨o, List.mem_append_left _ hmem, heq⟩

/-- The siblings after a label of the second part are in that part. -/
theorem hasLaterSibling_right :
    HasLaterSibling (outer :: (first ++ second)) (first.length + k + 1) ↔
      HasLaterSibling second k := by
  have hdrop : (first ++ second).drop (first.length + k + 1) = second.drop (k + 1) := by
    rw [Nat.add_assoc, List.drop_append, List.drop_of_length_le (Nat.le_add_right _ _),
      List.nil_append, Nat.add_sub_cancel_left]
  rw [HasLaterSibling, HasLaterSibling, List.drop_succ_cons, List.getElem?_cons_succ, hdrop,
    List.getElem?_append_right (Nat.le_add_right _ _), Nat.add_sub_cancel_left]

end Lists

namespace Forest

variable {α : Type} {outer : Option Nat} {start : Nat}

/-- Around a label of a forest is what is around the whole forest, or another label of it. -/
theorem mem_enclosers {a : Forest α} {o : Option Nat} (h : o ∈ a.enclosers outer start) :
    o = outer ∨ ∃ m < a.preorder.length, o = some (start + m) := by
  induction a generalizing outer start with
  | nil => cases h
  | cons label below rest ih ih' =>
    rw [enclosers, List.mem_cons, List.mem_append] at h
    rw [preorder, List.length_cons, List.length_append]
    rcases h with rfl | hbelow | hrest
    · exact .inl rfl
    · refine .inr ?_
      obtain rfl | ⟨m, hm, rfl⟩ := ih hbelow
      · exact ⟨0, by omega, rfl⟩
      · exact ⟨m + 1, by omega, by rw [Nat.add_right_comm, Nat.add_assoc]⟩
    · obtain rfl | ⟨m, hm, rfl⟩ := ih' hrest
      · exact .inl rfl
      · exact .inr ⟨1 + below.preorder.length + m, by omega, by simp only [Nat.add_assoc]⟩

theorem outer_mem_enclosers {a : Forest α} :
    outer ∈ a.enclosers outer start ↔ a.isNil = false := by
  cases a with
  | nil => simp [enclosers, isNil]
  | cons label below rest => simp [enclosers, isNil]

theorem length_placed (a : Forest α) (around : List Bool) (more : Bool) :
    (a.placed around more).length = a.preorder.length := by
  rw [← a.map_snd_placed around more, List.length_map]

/-! ### Labels below the first label, and after those -/

section Parts

variable {label : α} {below rest : Forest α} {around : List Bool} {more : Bool} {k : Nat}

theorem getElem?_placed_below (hk : k < below.preorder.length) :
    ((cons label below rest).placed around more)[k + 1]? =
      (below.placed (around ++ [rest.isNil && !more]) false)[k]? := by
  rw [placed, List.getElem?_cons_succ, List.getElem?_append_left (by rwa [length_placed])]

theorem getElem?_placed_rest :
    ((cons label below rest).placed around more)[below.preorder.length + k + 1]? =
      (rest.placed around more)[k]? := by
  have hlength := length_placed below (around ++ [rest.isNil && !more]) false
  rw [placed, List.getElem?_cons_succ, ← hlength,
    List.getElem?_append_right (Nat.le_add_right _ _), Nat.add_sub_cancel_left]

theorem getElem?_enclosers_below (hk : k < below.preorder.length) :
    ((cons label below rest).enclosers outer start)[k + 1]? =
      (below.enclosers (some start) (start + 1))[k]? := by
  rw [enclosers, List.getElem?_cons_succ, List.getElem?_append_left (by rwa [length_enclosers])]

theorem getElem?_enclosers_rest :
    ((cons label below rest).enclosers outer start)[below.preorder.length + k + 1]? =
      (rest.enclosers outer (start + 1 + below.preorder.length))[k]? := by
  have hlength := length_enclosers below (some start) (start + 1)
  rw [enclosers, List.getElem?_cons_succ, ← hlength,
    List.getElem?_append_right (Nat.le_add_right _ _), Nat.add_sub_cancel_left]

/-- Around what lies below the first label is that label or one below it: neither what is around
the whole forest nor what is around a label after them. -/
theorem encloser_below (rest : Forest α) (before : ∀ j ∈ outer, j < start) {o : Option Nat}
    (h : o ∈ below.enclosers (some start) (start + 1)) :
    o ≠ outer ∧ o ∉ rest.enclosers outer (start + 1 + below.preorder.length) := by
  obtain ⟨m, hm, rfl⟩ : ∃ m ≤ below.preorder.length, o = some (start + m) := by
    obtain rfl | ⟨m, hm, rfl⟩ := mem_enclosers h
    · exact ⟨0, Nat.zero_le _, rfl⟩
    · exact ⟨m + 1, hm, by rw [Nat.add_right_comm, Nat.add_assoc]⟩
  have hne : some (start + m) ≠ outer := by
    intro heq
    have hlt := before (start + m) heq.symm
    omega
  refine ⟨hne, ?_⟩
  intro hmem
  obtain heq | ⟨m', -, heq⟩ := mem_enclosers hmem
  · exact hne heq
  · have hnumber := Option.some.inj heq
    omega

/-- The siblings of the first label are the trees after it. -/
theorem hasLaterSibling_first (before : ∀ j ∈ outer, j < start) :
    HasLaterSibling ((cons label below rest).enclosers outer start) 0 ↔ rest.isNil = false := by
  have hbelow : outer ∉ below.enclosers (some start) (start + 1) := fun hmem =>
    (encloser_below rest before hmem).1 rfl
  rw [enclosers, hasLaterSibling_zero, List.mem_append, or_iff_right hbelow, outer_mem_enclosers]

/-- The siblings of a label below the first one are below it, too. -/
theorem hasLaterSibling_below (before : ∀ j ∈ outer, j < start) (hk : k < below.preorder.length) :
    HasLaterSibling ((cons label below rest).enclosers outer start) (k + 1) ↔
      HasLaterSibling (below.enclosers (some start) (start + 1)) k := by
  have hk' : k < (below.enclosers (some start) (start + 1)).length := by rwa [length_enclosers]
  exact hasLaterSibling_left hk' (encloser_below rest before (List.getElem_mem hk')).2

/-- The siblings of a label after the first tree come after it, too. -/
theorem hasLaterSibling_rest :
    HasLaterSibling ((cons label below rest).enclosers outer start)
        (below.preorder.length + k + 1) ↔
      HasLaterSibling (rest.enclosers outer (start + 1 + below.preorder.length)) k := by
  rw [enclosers, ← length_enclosers below (some start) (start + 1)]
  exact hasLaterSibling_right

end Parts

/-- **A label is the last of its siblings if no later label has the same label around it**, unless
it is at the top and siblings follow the whole forest. -/
theorem last_placed {a : Forest α} {around : List Bool} {more : Bool}
    (before : ∀ j ∈ outer, j < start) {k : Nat} {place : Place} {label : α}
    (h : (a.placed around more)[k]? = some (place, label)) :
    place.last = true ↔ ¬ HasLaterSibling (a.enclosers outer start) k ∧
      (more = true → (a.enclosers outer start)[k]? ≠ some outer) := by
  induction a generalizing outer start around more k with
  | nil => simp [placed] at h
  | cons first below rest ih ih' =>
    cases k with
    | zero =>
      obtain ⟨rfl, -⟩ := Prod.mk.inj (Option.some.inj h)
      rw [hasLaterSibling_first before, enclosers]
      cases rest.isNil <;> cases more <;> simp
    | succ k =>
      by_cases hk : k < below.preorder.length
      · rw [getElem?_placed_below hk] at h
        have inside : ∀ j ∈ some start, j < start + 1 := by simp
        rw [hasLaterSibling_below before hk, getElem?_enclosers_below hk, ih inside h]
        -- the whole forest is around none of the labels below
        have hk' : k < (below.enclosers (some start) (start + 1)).length := by
          rwa [length_enclosers]
        have hne := (encloser_below rest before (List.getElem_mem hk')).1
        simp [List.getElem?_eq_getElem hk', hne]
      · obtain ⟨i, rfl⟩ := Nat.exists_eq_add_of_le (Nat.le_of_not_lt hk)
        rw [getElem?_placed_rest] at h
        have after : ∀ j ∈ outer, j < start + 1 + below.preorder.length := by
          intro j hj
          have hlt := before j hj
          omega
        rw [ih' after h, hasLaterSibling_rest, getElem?_enclosers_rest]

/-- **What is around a label is what is around the label directly around it, and that label**, or,
at the top, what is around the whole forest. -/
theorem around_placed (outer : Option Nat) (start : Nat) {a : Forest α} {around : List Bool}
    {more : Bool} {k : Nat} {place : Place} {label : α}
    (h : (a.placed around more)[k]? = some (place, label)) :
    ((a.enclosers outer start)[k]? = some outer ∧ place.around = around) ∨
      ∃ m < k, (a.enclosers outer start)[k]? = some (some (start + m)) ∧
        ∃ place' label', (a.placed around more)[m]? = some (place', label') ∧
          place.around = place'.around ++ [place'.last] := by
  induction a generalizing outer start around more k with
  | nil => simp [placed] at h
  | cons first below rest ih ih' =>
    cases k with
    | zero =>
      obtain ⟨rfl, -⟩ := Prod.mk.inj (Option.some.inj h)
      exact .inl ⟨rfl, rfl⟩
    | succ k =>
      by_cases hk : k < below.preorder.length
      · rw [getElem?_placed_below hk] at h
        rw [getElem?_enclosers_below hk]
        refine .inr ?_
        obtain ⟨hencloser, haround⟩ | ⟨m, hm, hencloser, place', label', hplace, haround⟩ :=
          ih (some start) (start + 1) h
        · exact ⟨0, Nat.succ_pos k, hencloser, _, _, rfl, haround⟩
        · refine ⟨m + 1, Nat.succ_lt_succ hm, ?_, place', label', ?_, haround⟩
          · rw [hencloser, Nat.add_right_comm, Nat.add_assoc]
          · rw [getElem?_placed_below (Nat.lt_trans hm hk), hplace]
      · obtain ⟨i, rfl⟩ := Nat.exists_eq_add_of_le (Nat.le_of_not_lt hk)
        rw [getElem?_placed_rest] at h
        rw [getElem?_enclosers_rest]
        obtain hencloser | ⟨m, hm, hencloser, place', label', hplace, haround⟩ :=
          ih' outer (start + 1 + below.preorder.length) h
        · exact .inl hencloser
        · refine .inr ⟨below.preorder.length + m + 1, by omega, ?_, place', label', ?_, haround⟩
          · rw [hencloser]
            congr 2
            omega
          · rw [getElem?_placed_rest, hplace]

end Forest

end CommandTree
