import CommandTree.Host.OfDeclarations
import CommandTree.Proofs.Declaration.Forest

/-!
# Putting the tree together again

The host of some declarations is found by looking, for every group, for the declarations that refer
to it.  For the declarations of a forest this gives the forest back:

* `Forest.hosts` makes the host command of every declaration by recursion on the forest.
* `Forest.Linked.hostOfDeclarations_preorder` : looking for parents in the list gives the same
  commands, if the declarations are linked, their identifiers are distinct, and only groups have
  something below them.
-/

namespace CommandTree

namespace Forest

/-- The labels at the top. -/
def roots {α : Type} : Forest α → List α
  | nil => []
  | cons label _ rest => label :: rest.roots

/-- The host commands of a forest of declarations, one for each declaration. -/
def hosts : Forest Declaration → List HostCommand
  | nil => []
  | cons declaration below rest => declaration.hostCommand below.hosts :: rest.hosts

/-- Below every declaration of a forest are exactly the declarations of a list that refer to it. -/
def FoundIn (all : List Declaration) : Forest Declaration → Prop
  | nil => True
  | cons declaration below rest =>
    all.filter (·.parent = .node declaration.identifier) = below.roots ∧
      below.FoundIn all ∧ rest.FoundIn all

/-! ### Who refers to whom -/

variable {forest : Forest Declaration} {parent : Parent}

/-- Nobody in a forest refers to a place outside it other than the common parent. -/
theorem Linked.filter_other (linked : forest.Linked parent) {p : Parent} (hp : p ≠ parent)
    (hout : ∀ name ∈ identifiers forest.preorder, p ≠ .node name) :
    forest.preorder.filter (·.parent = p) = [] := by
  induction forest generalizing parent with
  | nil => rfl
  | cons declaration below rest ih ih' =>
    obtain ⟨rfl, hbelow, hrest⟩ := linked
    simp only [identifiers, preorder, List.map_cons, List.map_append, List.forall_mem_cons,
      List.forall_mem_append] at hout
    obtain ⟨hself, houtBelow, houtRest⟩ := hout
    simp [preorder, hp.symm, ih hbelow hself houtBelow, ih' hrest hp houtRest]

/-- To the common parent refer exactly the declarations at the top. -/
theorem Linked.filter_parent (linked : forest.Linked parent)
    (hout : ∀ name ∈ identifiers forest.preorder, parent ≠ .node name) :
    forest.preorder.filter (·.parent = parent) = forest.roots := by
  induction forest with
  | nil => rfl
  | cons declaration below rest _ ih' =>
    obtain ⟨hparent, hbelow, hrest⟩ := linked
    simp only [identifiers, preorder, List.map_cons, List.map_append, List.forall_mem_cons,
      List.forall_mem_append] at hout
    obtain ⟨hself, houtBelow, houtRest⟩ := hout
    simp [preorder, roots, hparent, hbelow.filter_other hself houtBelow, ih' hrest houtRest]

/-- If a list agrees with a forest on who refers to a declaration of the forest, then below every
declaration are those that refer to it. -/
theorem Linked.foundIn (linked : forest.Linked parent)
    (distinct : (identifiers forest.preorder).Nodup)
    (hout : ∀ name ∈ identifiers forest.preorder, parent ≠ .node name) {all : List Declaration}
    (hall : ∀ name ∈ identifiers forest.preorder,
      all.filter (·.parent = .node name) = forest.preorder.filter (·.parent = .node name)) :
    forest.FoundIn all := by
  induction forest generalizing parent with
  | nil => trivial
  | cons declaration below rest ih ih' =>
    obtain ⟨rfl, hbelow, hrest⟩ := linked
    simp only [identifiers, preorder, List.map_cons, List.map_append, List.forall_mem_cons,
      List.forall_mem_append] at hout hall
    simp only [identifiers, preorder, List.map_cons, List.map_append, List.nodup_cons,
      List.nodup_append, List.mem_append, not_or] at distinct
    obtain ⟨⟨hnotBelow, hnotRest⟩, hdistinct, hdistinct', hdisjoint⟩ := distinct
    obtain ⟨hself, houtBelow, houtRest⟩ := hout
    obtain ⟨hallSelf, hallBelow, hallRest⟩ := hall
    have hne : ∀ name ∈ identifiers below.preorder ++ identifiers rest.preorder,
        Parent.node declaration.identifier ≠ .node name := by
      intro name hname
      rw [ne_eq, Parent.node.injEq]
      rintro rfl
      exact (List.mem_append.1 hname).elim hnotBelow hnotRest
    have hneBelow := fun name hname => hne name (List.mem_append_left _ hname)
    have hneRest := fun name hname => hne name (List.mem_append_right _ hname)
    refine ⟨?_, ih hbelow hdistinct hneBelow fun name hname => ?_,
      ih' hrest hdistinct' houtRest fun name hname => ?_⟩
    · rw [hallSelf]
      simp [hself, hbelow.filter_parent hneBelow, hrest.filter_other hself.symm hneRest]
    · have hother := hrest.filter_other (houtBelow name hname).symm fun other hmem heq =>
        hdisjoint _ hname _ hmem (Parent.node.inj heq)
      rw [hallBelow name hname]
      simp [houtBelow name hname, hother]
    · have hother := hbelow.filter_other (hneRest name hname).symm fun other hmem heq =>
        hdisjoint _ hmem _ hname (Parent.node.inj heq).symm
      rw [hallRest name hname]
      simp [houtRest name hname, hother]

/-! ### The commands of the forest -/

/-- Looking for parents finds the commands of a forest, if one looks far enough down. -/
theorem FoundIn.hostChildren_eq {all : List Declaration} (found : forest.FoundIn all)
    (inner : forest.InnerNodes (·.kind = .group))
    (hroots : all.filter (·.parent = parent) = forest.roots) {levels : Nat}
    (hlevels : forest.preorder.length ≤ levels) :
    hostChildren all levels parent = forest.hosts := by
  induction levels generalizing forest parent with
  | zero =>
    cases forest with
    | nil => rfl
    | cons declaration below rest => simp [preorder] at hlevels
  | succ levels ih =>
    simp only [hostChildren, hroots]
    clear hroots
    -- one command after the other; what lies below each is one level further down
    induction forest with
    | nil => rfl
    | cons declaration below rest _ ihRest =>
      obtain ⟨hfilter, hbelow, hrest⟩ := found
      obtain ⟨hkind, innerBelow, innerRest⟩ := inner
      simp only [preorder, List.length_cons, List.length_append] at hlevels
      have hchildren := ih hbelow innerBelow hfilter (by omega)
      simp only [roots, hosts, List.map_cons, ihRest hrest innerRest (by omega)]
      cases hk : declaration.kind with
      | group => simp only [hchildren]
      | command =>
        have hnil : below = nil := by
          by_contra hne
          simp [hkind hne] at hk
        simp [hnil, hosts]

/-- **Looking for parents gives the commands of the forest back**: one for each declaration, in the
same order and below the same group. -/
theorem Linked.hostOfDeclarations_preorder (linked : forest.Linked .root)
    (distinct : (identifiers forest.preorder).Nodup)
    (inner : forest.InnerNodes (·.kind = .group)) :
    hostOfDeclarations forest.preorder = forest.hosts := by
  have hout : ∀ name ∈ identifiers forest.preorder, Parent.root ≠ .node name := by simp
  have found : forest.FoundIn forest.preorder := linked.foundIn distinct hout fun _ _ => rfl
  exact found.hostChildren_eq inner (linked.filter_parent hout) (Nat.le_refl _)

end Forest

/-- The declarations of a schema have the shape of its forest, and the host made from them is that
of the forest. -/
theorem Schema.exists_declared {schema : Schema} {declarations : List Declaration}
    (lowered : schema.lower = .ok declarations) :
    ∃ declared : Forest Declaration, declared.preorder = declarations ∧
      schema.forest.Matches Declares declared ∧ declared.InnerNodes (·.kind = .group) ∧
      hostOfDeclarations declarations = declared.hosts := by
  obtain ⟨declared, hdeclare, rfl⟩ := Schema.lower_eq_ok.1 lowered
  obtain ⟨hmatch, hlinked, hdistinct, -⟩ := Forest.declare_spec hdeclare
  have inner := schema.innerNodes_declared hmatch
  exact ⟨declared, rfl, hmatch, inner, hlinked.hostOfDeclarations_preorder hdistinct inner⟩

end CommandTree
