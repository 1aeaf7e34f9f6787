import CommandTree.Click.Program
import CommandTree.Proofs.Declaration.Forest

/-!
# Parent links

A declaration refers to the group around it by an identifier, and the tree is put together again by
looking for that identifier.  This is sound however the nodes are named:

* `Forest.Linked.parents_eq` : the parents of linked declarations are those of the shape.
* `parent_links_sound` : identifiers are distinct and not reserved, and every reference means the
  one declaration of the group around the node, which comes earlier.
-/

namespace CommandTree

/-- What a declaration is attached to if the declaration around it has the given number. -/
def parentAt (declarations : List Declaration) : Option Nat → Parent
  | none => .root
  | some j => match declarations[j]? with
    | some declaration => .node declaration.identifier
    | none => .root

/-- The parents of linked declarations are those of their shape, also in the middle of other
declarations. -/
theorem Forest.Linked.parents_eq {forest : Forest Declaration} {parent : Parent}
    (linked : forest.Linked parent) (before after : List Declaration) (outer : Option Nat)
    (houter : parentAt (before ++ forest.preorder ++ after) outer = parent) :
    forest.preorder.map Declaration.parent =
      (forest.enclosers outer before.length).map
        (parentAt (before ++ forest.preorder ++ after)) := by
  induction forest generalizing parent before after outer with
  | nil => rfl
  | cons declaration below rest ih ih' =>
    obtain ⟨hparent, hbelow, hrest⟩ := linked
    simp only [preorder, List.append_assoc, List.cons_append] at houter ⊢
    -- the whole list, seen from the forest below and from the forest after
    have hb := ih hbelow (before ++ [declaration]) (rest.preorder ++ after) (some before.length)
      (by simp [parentAt])
    have hr := ih' hrest (before ++ declaration :: below.preorder) after outer
      (by simpa using houter)
    simp only [List.append_assoc, List.cons_append, List.nil_append, List.length_append,
      List.length_cons, List.length_nil, Nat.zero_add] at hb hr
    have hlen : before.length + (below.preorder.length + 1) =
        before.length + 1 + below.preorder.length := by omega
    rw [hlen] at hr
    simp only [enclosers, List.map_cons, List.map_append, hb, hr, houter, hparent]

/-- The parent of every declaration of a schema is the declaration of the group around its node. -/
theorem Schema.parents_eq {schema : Schema} {declarations : List Declaration}
    (lowered : schema.lower = .ok declarations) :
    declarations.map Declaration.parent = schema.enclosers.map (parentAt declarations) := by
  obtain ⟨forest, hdeclare, rfl⟩ := Schema.lower_eq_ok.1 lowered
  obtain ⟨hmatch, hlinked, -⟩ := Forest.declare_spec hdeclare
  have h := hlinked.parents_eq [] [] none rfl
  simpa [Schema.enclosers, hmatch.enclosers_eq] using h

/-- The declarations of a schema match its nodes in document order. -/
theorem Schema.declares_preorder {schema : Schema} {declarations : List Declaration}
    (lowered : schema.lower = .ok declarations) :
    List.Forall₂ Declares schema.preorder declarations := by
  obtain ⟨forest, hdeclare, rfl⟩ := Schema.lower_eq_ok.1 lowered
  rw [← schema.preorder_forest]
  exact (Forest.declare_spec hdeclare).1.forall₂_preorder

/-- The declaration around another one comes earlier and is a group. -/
theorem Schema.encloser_spec {schema : Schema} {declarations : List Declaration}
    (lowered : schema.lower = .ok declarations) {i j : Nat}
    (h : schema.enclosers[i]? = some (some j)) :
    j < i ∧ ∃ declaration, declarations[j]? = some declaration ∧ declaration.kind = .group := by
  obtain ⟨forest, hdeclare, rfl⟩ := Schema.lower_eq_ok.1 lowered
  obtain ⟨hmatch, -⟩ := Forest.declare_spec hdeclare
  rw [Schema.enclosers, hmatch.enclosers_eq] at h
  obtain houter | ⟨m, hm, rfl, declaration, hget, hkind⟩ :=
    Forest.encloser_spec (schema.innerNodes_declared hmatch) h
  · cases houter
  · rw [Nat.zero_add]
    exact ⟨hm, declaration, hget, hkind⟩

theorem Schema.identifiers_spec {schema : Schema} {declarations : List Declaration}
    (lowered : schema.lower = .ok declarations) :
    (identifiers declarations).Nodup ∧ ∀ name ∈ identifiers declarations, name ∉ reservedWords := by
  obtain ⟨forest, hdeclare, rfl⟩ := Schema.lower_eq_ok.1 lowered
  obtain ⟨-, -, hnodup, hnew⟩ := Forest.declare_spec hdeclare
  exact ⟨hnodup, fun name hname => (hnew name hname).2⟩

/-- Identifiers and parent links mean what they should. -/
structure SoundLinks (schema : Schema) (declarations : List Declaration) : Prop where
  /-- The declarations declare the nodes in document order. -/
  declares : List.Forall₂ Declares schema.preorder declarations
  /-- No two declarations have the same identifier. -/
  distinct : (identifiers declarations).Nodup
  /-- No identifier is a reserved word or the root of the target. -/
  notReserved : ∀ name ∈ identifiers declarations, name ∉ reservedWords ∧ name ≠ Click.target.root
  /-- A declaration is attached to the root exactly if its node is at the top. -/
  root_iff : ∀ (i : Nat) (hi : i < declarations.length),
    declarations[i].parent = .root ↔ schema.enclosers[i]? = some none
  /-- If a declaration is attached to an identifier, then one declaration alone has it: an earlier
  one, a group, and the declaration of the group directly around the node. -/
  parent_spec : ∀ (i : Nat) (hi : i < declarations.length) (p : String),
    declarations[i].parent = .node p →
      ∃ (j : Nat) (hj : j < i), schema.enclosers[i]? = some (some j) ∧
        declarations[j].identifier = p ∧ declarations[j].kind = .group ∧
        ∀ (k : Nat) (hk : k < declarations.length), declarations[k].identifier = p → k = j

/-- The parent of a declaration is the one that its encloser gives. -/
theorem Schema.parent_eq {schema : Schema} {declarations : List Declaration}
    (lowered : schema.lower = .ok declarations) {i : Nat} (hi : i < declarations.length) :
    ∃ outer, schema.enclosers[i]? = some outer ∧
      declarations[i].parent = parentAt declarations outer := by
  have h := congrArg (·[i]?) (Schema.parents_eq lowered)
  simp only [List.getElem?_map, List.getElem?_eq_getElem hi, Option.map_some] at h
  obtain ⟨outer, houter, heq⟩ := Option.map_eq_some_iff.1 h.symm
  exact ⟨outer, houter, heq.symm⟩

/-- Declarations with the same identifier are the same. -/
theorem eq_of_identifier_eq {declarations : List Declaration}
    (distinct : (identifiers declarations).Nodup) {k j : Nat} (hk : k < declarations.length)
    (hj : j < declarations.length)
    (h : declarations[k].identifier = declarations[j].identifier) : k = j := by
  have hk' : k < (identifiers declarations).length := by simpa [identifiers] using hk
  have hj' : j < (identifiers declarations).length := by simpa [identifiers] using hj
  have heq : (identifiers declarations)[k] = (identifiers declarations)[j] := by
    simpa [identifiers] using h
  exact (List.Nodup.getElem_inj_iff distinct).1 heq

/-- **Identifiers and parent links are sound**, whatever the names of the nodes are. -/
theorem parent_links_sound (schema : Schema) (declarations : List Declaration)
    (lowered : schema.lower = .ok declarations) : SoundLinks schema declarations := by
  obtain ⟨hnodup, hreserved⟩ := Schema.identifiers_spec lowered
  have hroot : Click.target.root ∈ reservedWords := by decide
  refine ⟨Schema.declares_preorder lowered, hnodup, ?_, ?_, ?_⟩
  · exact fun name hname => ⟨hreserved name hname, fun h => hreserved name hname (h ▸ hroot)⟩
  · intro i hi
    obtain ⟨outer, houter, hparent⟩ := Schema.parent_eq lowered hi
    rw [hparent, houter]
    cases outer with
    | none => simp [parentAt]
    | some j =>
      obtain ⟨-, declaration, hdeclaration, -⟩ := Schema.encloser_spec lowered houter
      simp [parentAt, hdeclaration]
  · intro i hi p hp
    obtain ⟨outer, houter, hparent⟩ := Schema.parent_eq lowered hi
    rw [hparent] at hp
    cases outer with
    | none => cases hp
    | some j =>
      obtain ⟨hj, declaration, hdeclaration, hkind⟩ := Schema.encloser_spec lowered houter
      obtain ⟨hj', rfl⟩ := List.getElem?_eq_some_iff.1 hdeclaration
      simp only [parentAt, hdeclaration, Parent.node.injEq] at hp
      exact ⟨j, hj, houter, hp, hkind, fun k hk hsame =>
        eq_of_identifier_eq hnodup hk hj' (hsame.trans hp.symm)⟩

/-- A schema in which names repeat each other and look like numbered identifiers. -/
def repeatedTools : Schema :=
  ⟨[.command ⟨"tool", "None", none, "False", []⟩,
    .group ⟨⟨"tool", "None", none, "False", []⟩, [],
      [⟨"tool_2", "None", none, "False", []⟩, ⟨"\"class\"", "None", none, "False", []⟩]⟩]⟩

/-- The declarations of `repeatedTools`. -/
def repeatedToolDeclarations : List Declaration :=
  let attributes (name : String) : OrderedMap Literal :=
    .ofList [("name", .text name), ("help", .absent), ("hidden", .truth false)]
  [⟨.command, .root, "tool", attributes "tool", []⟩,
   ⟨.group, .root, "tool_2", attributes "tool", []⟩,
   ⟨.command, .node "tool_2", "tool_2_2", attributes "tool_2", []⟩,
   ⟨.command, .node "tool_2", "class_", attributes "class", []⟩]

theorem parent_links_sound_repeatedTools :
    repeatedTools.lower = .ok repeatedToolDeclarations ∧
      SoundLinks repeatedTools repeatedToolDeclarations :=
  have lowered : repeatedTools.lower = .ok repeatedToolDeclarations := by decide +kernel
  ⟨lowered, parent_links_sound _ _ lowered⟩

end CommandTree
