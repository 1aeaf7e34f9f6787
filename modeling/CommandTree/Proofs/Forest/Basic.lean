import CommandTree.Proofs.Outcome

/-!
# Forests

Trees of nodes, declarations and commands all have the same shape, and most questions about them
ask only for their order and for what lies below what.  A forest is such a sequence of trees with
labels of any type.  As both children and siblings are forests again, one induction suffices.

* `Forest.preorder` lists the labels in document order.
* `Forest.enclosers` says for every place of that list at which place the node around it stands.
* `Forest.Matches` relates two forests of the same shape label by label.
* `Forest.InnerNodes` holds if every label with something below it has a property.
* `Forest.placed` says for every label in document order whether it and the labels around it are the
  last of their siblings.
-/

namespace CommandTree

/-- A sequence of trees: the label of the first tree, the trees below that label, and the trees
after the first one. -/
inductive Forest (α : Type) where
  /-- No tree. -/
  | nil
  /-- A tree and the trees after it. -/
  | cons (label : α) (below rest : Forest α)

namespace Forest

variable {α β : Type}

/-- The labels in document order: a label, those below it, and those after it. -/
def preorder : Forest α → List α
  | nil => []
  | cons label below rest => label :: (below.preorder ++ rest.preorder)

/-- The trees of one forest, then those of another. -/
def append : Forest α → Forest α → Forest α
  | nil, after => after
  | cons label below rest, after => cons label below (rest.append after)

/-- A forest of the same shape with other labels. -/
def map (f : α → β) : Forest α → Forest β
  | nil => nil
  | cons label below rest => cons (f label) (below.map f) (rest.map f)

/-- For every label in document order, the number of the label directly around it; labels at the
top are directly inside `outer`, and the first label has the number `start`. -/
def enclosers (outer : Option Nat) (start : Nat) : Forest α → List (Option Nat)
  | nil => []
  | cons _ below rest =>
    outer :: (below.enclosers (some start) (start + 1) ++
      rest.enclosers outer (start + 1 + below.preorder.length))

/-- Two forests have the same shape, and labels in the same place are related. -/
inductive Matches (r : α → β → Prop) : Forest α → Forest β → Prop
  | nil : Matches r nil nil
  | cons {a : α} {b : β} {below rest : Forest α} {below' rest' : Forest β} (hlabel : r a b)
      (hbelow : Matches r below below') (hrest : Matches r rest rest') :
      Matches r (cons a below rest) (cons b below' rest')

/-- Every label with something below it has a property. -/
def InnerNodes (p : α → Prop) : Forest α → Prop
  | nil => True
  | cons label below rest => (below ≠ nil → p label) ∧ below.InnerNodes p ∧ rest.InnerNodes p

/-- Whether a forest has no tree. -/
def isNil : Forest α → Bool
  | nil => true
  | cons .. => false

/-- The place of a label in a forest. -/
structure Place where
  /-- For every label around it, from the top down, whether that one is the last of its siblings. -/
  around : List Bool
  /-- Whether the label is the last of its siblings. -/
  last : Bool
  deriving DecidableEq, Repr

/-- The labels in document order, with their places; `more` says whether siblings follow the whole
forest. -/
def placed (around : List Bool) (more : Bool) : Forest α → List (Place × α)
  | nil => []
  | cons label below rest =>
    let last := rest.isNil && !more
    (⟨around, last⟩, label) ::
      (below.placed (around ++ [last]) false ++ rest.placed around more)

/-! ### Order -/

@[simp] theorem preorder_append (a b : Forest α) :
    (a.append b).preorder = a.preorder ++ b.preorder := by
  induction a with
  | nil => rfl
  | cons label below rest _ ih => simp [append, preorder, ih]

theorem isNil_append (a b : Forest α) : (a.append b).isNil = (a.isNil && b.isNil) := by
  cases a <;> rfl

theorem placed_append (around : List Bool) (more : Bool) (a b : Forest α) :
    (a.append b).placed around more =
      a.placed around (more || !b.isNil) ++ b.placed around more := by
  induction a with
  | nil => rfl
  | cons label below rest _ ih =>
    have hlast : ((rest.append b).isNil && !more) = (rest.isNil && !(more || !b.isNil)) := by
      rw [isNil_append]
      cases rest.isNil <;> cases b.isNil <;> cases more <;> rfl
    simp only [append, placed, hlast, ih, List.cons_append, List.append_assoc]

/-- The places are those of the labels in document order. -/
theorem map_snd_placed (around : List Bool) (more : Bool) (a : Forest α) :
    (a.placed around more).map Prod.snd = a.preorder := by
  induction a generalizing around more with
  | nil => rfl
  | cons label below rest ih ih' => simp [placed, preorder, ih, ih']

theorem map_append (f : α → β) (a b : Forest α) :
    (a.append b).map f = (a.map f).append (b.map f) := by
  induction a with
  | nil => rfl
  | cons label below rest _ ih => simp [append, map, ih]

theorem map_congr {f g : α → β} {forest : Forest α}
    (h : ∀ label ∈ forest.preorder, f label = g label) : forest.map f = forest.map g := by
  induction forest with
  | nil => rfl
  | cons label below rest ih ih' =>
    simp only [preorder, List.forall_mem_cons, List.forall_mem_append] at h
    obtain ⟨hlabel, hbelow, hrest⟩ := h
    simp only [map, hlabel, ih hbelow, ih' hrest]

theorem map_map {γ : Type} (f : α → β) (g : β → γ) (a : Forest α) :
    (a.map f).map g = a.map (g ∘ f) := by
  induction a with
  | nil => rfl
  | cons label below rest ih ih' => simp [map, ih, ih']

/-! ### What encloses what -/

theorem length_enclosers (a : Forest α) (outer : Option Nat) (start : Nat) :
    (a.enclosers outer start).length = a.preorder.length := by
  induction a generalizing outer start with
  | nil => rfl
  | cons label below rest ih ih' => simp [enclosers, preorder, ih, ih']

/-- The number that encloses a label is smaller than its own, and the label with that number has
whatever property labels with something below them have. -/
theorem encloser_spec {p : α → Prop} {a : Forest α} (inner : a.InnerNodes p) {outer : Option Nat}
    {start k j : Nat} (h : (a.enclosers outer start)[k]? = some (some j)) :
    outer = some j ∨ ∃ m < k, j = start + m ∧ ∃ label, a.preorder[m]? = some label ∧ p label := by
  induction a generalizing outer start k with
  | nil => simp [enclosers] at h
  | cons label below rest ih ih' =>
    obtain ⟨hlabel, hbelow, hrest⟩ := inner
    cases k with
    | zero => exact .inl (by simpa [enclosers] using h)
    | succ k =>
      simp only [enclosers, List.getElem?_cons_succ, List.getElem?_append, length_enclosers] at h
      split_ifs at h with hk
      · -- a label below: around it is the first label, or one further down
        have hne : below ≠ nil := by
          rintro rfl
          simp [preorder] at hk
        refine .inr ?_
        obtain houter | ⟨m, hm, rfl, l, hl, hp⟩ := ih hbelow h
        · exact ⟨0, by omega, by simpa using houter.symm, label, rfl, hlabel hne⟩
        · refine ⟨m + 1, by omega, by omega, l, ?_, hp⟩
          simpa [preorder, List.getElem?_append_left (by omega : m < below.preorder.length)]
            using hl
      · obtain houter | ⟨m, hm, rfl, l, hl, hp⟩ := ih' hrest h
        · exact .inl houter
        · refine .inr ⟨below.preorder.length + m + 1, by omega, by omega, l, ?_, hp⟩
          simpa [preorder, List.getElem?_append_right] using hl

theorem InnerNodes.append {p : α → Prop} {a b : Forest α} (ha : a.InnerNodes p)
    (hb : b.InnerNodes p) : (a.append b).InnerNodes p := by
  induction a with
  | nil => exact hb
  | cons label below rest _ ih => exact ⟨ha.1, ha.2.1, ih ha.2.2⟩

theorem InnerNodes.map {p : α → Prop} {q : β → Prop} {f : α → β} {a : Forest α}
    (inner : a.InnerNodes p) (h : ∀ label, p label → q (f label)) : (a.map f).InnerNodes q := by
  induction a with
  | nil => trivial
  | cons label below rest ih ih' =>
    obtain ⟨hlabel, hbelow, hrest⟩ := inner
    refine ⟨fun hne => h label (hlabel ?_), ih hbelow, ih' hrest⟩
    rintro rfl
    exact hne rfl

/-! ### Forests of the same shape -/

namespace Matches

variable {r : α → β → Prop} {a : Forest α} {b : Forest β}

theorem forall₂_preorder (h : Matches r a b) : List.Forall₂ r a.preorder b.preorder := by
  induction h with
  | nil => exact .nil
  | cons hlabel _ _ ih ih' => exact .cons hlabel (List.rel_append ih ih')

theorem length_preorder (h : Matches r a b) : a.preorder.length = b.preorder.length :=
  h.forall₂_preorder.length_eq

theorem enclosers_eq (h : Matches r a b) (outer : Option Nat) (start : Nat) :
    a.enclosers outer start = b.enclosers outer start := by
  induction h generalizing outer start with
  | nil => rfl
  | cons _ hbelow _ ih ih' => simp [enclosers, ih, ih', hbelow.length_preorder]

theorem map_right {γ : Type} {q : α → γ → Prop} (h : Matches r a b) (f : β → γ)
    (hq : ∀ x y, r x y → q x (f y)) : Matches q a (b.map f) := by
  induction h with
  | nil => exact .nil
  | cons hlabel _ _ ih ih' => exact .cons (hq _ _ hlabel) ih ih'

theorem of_append {a a' : Forest α} (h : Matches r (a.append a') b) :
    ∃ c c', c.append c' = b ∧ Matches r a c ∧ Matches r a' c' := by
  induction a generalizing b with
  | nil => exact ⟨Forest.nil, b, rfl, .nil, h⟩
  | cons label below rest _ ih =>
    cases h with
    | @cons _ label' _ _ below' _ hlabel hbelow hrest =>
      obtain ⟨c, c', rfl, hc, hc'⟩ := ih hrest
      exact ⟨Forest.cons label' below' c, c', rfl, .cons hlabel hbelow hc, hc'⟩

theorem innerNodes {p : α → Prop} {q : β → Prop} (h : Matches r a b)
    (hpq : ∀ x y, r x y → p x → q y) (inner : a.InnerNodes p) : b.InnerNodes q := by
  induction h with
  | nil => trivial
  | cons hlabel hbelow _ ih ih' =>
    obtain ⟨hinner, innerBelow, innerRest⟩ := inner
    refine ⟨fun hne => hpq _ _ hlabel (hinner ?_), ih innerBelow, ih' innerRest⟩
    rintro rfl
    cases hbelow
    exact hne rfl

end Matches

end Forest

end CommandTree
