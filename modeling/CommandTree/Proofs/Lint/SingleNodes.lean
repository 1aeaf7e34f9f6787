import CommandTree.Proofs.Declaration.DocumentOrder
import CommandTree.Proofs.Lint.DuplicateSiblings

/-!
# Rules about single nodes

Two rules look at the nodes one by one: one asks for a help text, one reports arguments.  Both read
the document, and the compiler makes its declarations of the same document on a walk of its own.

* `LintRule.saysNothing_iff` : a help text that the rule objects to is one whose meaning is nothing,
  unless there are quotes around it.
* `emptyHelp_exact` : the warnings are those about the declarations without help, in order, but for
  the quoted ones.
* `Visit.exists_fates` and `exists_fates` : every parameter of a node is declared, if it is an
  option, or reported, if it is an argument; and node by node nothing else is.
* `params_accounted` : no parameter of a schema gets lost between the two.
-/

namespace CommandTree

/-! ### Help -/

/-- Whether a literal says nothing: it has no value, or it is a text that cannot be seen. -/
def Literal.saysNothing : Literal → Bool
  | absent => true
  | text value => isBlankText value
  | _ => false

/-- Whether a declaration has no help, or a help that says nothing. -/
def Declaration.lacksHelp (declaration : Declaration) : Bool :=
  (declaration.attributes.get? "help").any Literal.saysNothing

theorem not_isQuoted_of_isBlankText {text : String} (h : isBlankText text = true) :
    ¬ IsQuoted text := by
  rintro ⟨inner, rfl⟩
  rw [isBlankText, List.all_eq_true] at h
  have hquote : isBlank '"' = true := h '"' (by simp)
  exact absurd hquote (by decide)

/-- The rule objects to a text exactly if its meaning is nothing and it is not quoted. -/
theorem LintRule.saysNothing_iff {help : String} {literal : Literal}
    (h : Literal.ofText "help" help = .ok literal) :
    saysNothing help = true ↔ literal.saysNothing = true ∧ ¬ IsQuoted help := by
  have hlookup : ValueType.lookup "help" = some .text := rfl
  by_cases habsent : help = absentWord
  · obtain rfl : Literal.absent = literal := by simpa [Literal.ofText, habsent] using h
    have hword : ¬ IsQuoted absentWord := by decide
    simp [saysNothing, Literal.saysNothing, habsent, hword]
  · obtain rfl : Literal.text (Literal.unquote help) = literal := by
      simpa [Literal.ofText, Literal.ofTyped, habsent, hlookup] using h
    simp only [saysNothing, Literal.saysNothing, habsent, decide_false, Bool.or_false]
    constructor
    · intro hblank
      have hquoted := not_isQuoted_of_isBlankText hblank
      rw [Literal.unquote_of_not_isQuoted hquoted]
      exact ⟨hblank, hquoted⟩
    · rintro ⟨hblank, hquoted⟩
      rwa [Literal.unquote_of_not_isQuoted hquoted] at hblank

/-- A declaration has the meaning of the help of its node as an attribute. -/
theorem Declares.exists_help {node : NodeKind × Entry} {declaration : Declaration}
    (h : Declares node declaration) : ∃ literal, Literal.ofText "help" node.2.help = .ok literal ∧
      declaration.attributes.get? "help" = some literal := by
  obtain ⟨name, help, hidden, -, hhelp, -, hattributes⟩ := h.normalized.attributes
  refine ⟨help, hhelp, ?_⟩
  rw [OrderedMap.get?, hattributes]
  simp [Members.get?_cons]

/-- The warning about a node without help. -/
def LintRule.helpWarning (visit : Visit) : Diagnostic :=
  { severity := .warning
    phase := "empty-help"
    message := visit.kind.name ++ " '" ++ visit.location ++ "' has no help"
    location := some visit.location }

/-- Whether a node should be warned of, seen from the node and its declaration. -/
def LintRule.lacksHelp (placement : Visit × Declaration) : Bool :=
  placement.2.lacksHelp && !decide (IsQuoted placement.1.entry.help)

theorem Declares.checkHelp_eq {visit : Visit} {declaration : Declaration}
    (h : Declares visit.node declaration) :
    LintRule.checkHelp visit =
      if LintRule.lacksHelp (visit, declaration) then [LintRule.helpWarning visit] else [] := by
  obtain ⟨literal, hliteral, hget⟩ := h.exists_help
  have hiff : LintRule.saysNothing visit.entry.help = LintRule.lacksHelp (visit, declaration) := by
    have hsays : LintRule.saysNothing visit.entry.help = true ↔
        literal.saysNothing = true ∧ ¬ IsQuoted visit.entry.help :=
      LintRule.saysNothing_iff hliteral
    rw [Bool.eq_iff_iff, hsays]
    simp [LintRule.lacksHelp, Declaration.lacksHelp, hget]
  rw [← hiff]
  rfl

/-- The walk of the rule warns of the nodes of which the declarations lack a help, in order. -/
theorem flatMap_checkHelp {visits : List Visit} {declarations : List Declaration}
    (h : List.Forall₂ (fun visit declaration => Declares visit.node declaration) visits
      declarations) :
    visits.flatMap LintRule.checkHelp =
      ((visits.zip declarations).filter LintRule.lacksHelp).map fun placement =>
        LintRule.helpWarning placement.1 := by
  induction h with
  | nil => rfl
  | cons hnode _ ih =>
    rw [List.flatMap_cons, hnode.checkHelp_eq, ih, List.zip_cons_cons, List.filter_cons]
    split_ifs <;> rfl

/-- The warnings of the rule are exact. -/
structure ExactHelpWarnings (schema : Schema) (declarations : List Declaration) : Prop where
  /-- The nodes in document order, where they have their locations, are those that are declared. -/
  declares : List.Forall₂ (fun visit declaration => Declares visit.node declaration) schema.visits
    declarations
  /-- In document order, there is one warning for each declaration without help of which the node
  has no quoted help, and no other one. -/
  warnings : LintRule.emptyHelp.check schema =
    ((schema.placements declarations).filter LintRule.lacksHelp).map fun placement =>
      LintRule.helpWarning placement.1

section Lowered

variable {schema : Schema} {declarations : List Declaration}

/-- The nodes with their locations match the declarations. -/
theorem Schema.declares_visits (lowered : schema.lower = .ok declarations) :
    List.Forall₂ (fun visit declaration => Declares visit.node declaration) schema.visits
      declarations := by
  have hdeclares := Schema.declares_preorder lowered
  rwa [← schema.map_node_visits, List.forall₂_map_left_iff] at hdeclares

/-- **The warnings about missing help are exact**: they are about the declarations of which the help
is absent or blank, unless the document has quotes around it. -/
theorem emptyHelp_exact (lowered : schema.lower = .ok declarations) :
    ExactHelpWarnings schema declarations := by
  have hdeclares := Schema.declares_visits lowered
  exact ⟨hdeclares, flatMap_checkHelp hdeclares⟩

end Lowered

/-- Commands without help: none, blank, quoted blank and quoted `None`; and one that has a help. -/
def silentTools : Schema :=
  ⟨[.group ⟨⟨"tools", "None", none, "False", []⟩, [⟨⟨"deep", "", none, "True", []⟩, [], []⟩],
      [⟨"blank", " \t\u2003", none, "False", []⟩, ⟨"quoted", "\" \"", none, "False", []⟩,
        ⟨"word", "\"None\"", none, "False", []⟩, ⟨"run", "Run", none, "False", []⟩]⟩]⟩

theorem emptyHelp_exact_silentTools :
    ∃ declarations, silentTools.lower = .ok declarations ∧
      ExactHelpWarnings silentTools declarations ∧
      (LintRule.emptyHelp.check silentTools).map Diagnostic.location =
        [some "tools", some "tools/blank", some "tools/deep"] := by
  obtain ⟨declarations, lowered⟩ : ∃ declarations, silentTools.lower = .ok declarations :=
    ⟨_, by rfl⟩
  exact ⟨declarations, lowered, emptyHelp_exact lowered, by decide +kernel⟩

/-- A command with a help between quotes that is empty. -/
def quotedSilence : Schema :=
  ⟨[.command ⟨"run", "\"\"", none, "False", []⟩]⟩

/-- A declaration with an empty help is not warned of if the help is quoted in the document. -/
theorem check_quotedSilence :
    (quotedSilence.lower.map fun declarations => declarations.map fun declaration =>
        declaration.attributes.get? "help") = .ok [some (.text "")] ∧
    LintRule.emptyHelp.check quotedSilence = [] := by
  decide +kernel

/-! ### Parameters -/

/-- What becomes of a parameter. -/
inductive Fate where
  /-- It is an option of a declaration. -/
  | declared (option : OptionDeclaration)
  /-- It is reported not to be one. -/
  | reported (diagnostic : Diagnostic)

namespace Fate

/-- The option that is declared. -/
def option? : Fate → Option OptionDeclaration
  | declared option => some option
  | reported _ => none

/-- The diagnostic that is reported. -/
def diagnostic? : Fate → Option Diagnostic
  | declared _ => none
  | reported diagnostic => some diagnostic

/-- Every fate is one or the other. -/
theorem length_eq (fates : List Fate) :
    fates.length = (fates.filterMap option?).length + (fates.filterMap diagnostic?).length := by
  induction fates with
  | nil => rfl
  | cons fate rest ih =>
    cases fate <;> simp only [List.filterMap_cons, option?, diagnostic?, List.length_cons, ih] <;>
      omega

end Fate

/-- The notice about an argument of a node. -/
def LintRule.argumentNotice (visit : Visit) (param : Param) : Diagnostic :=
  { severity := .info
    phase := "argument-dropped"
    message := "argument '" ++ (param.get? "name").getD "<unnamed>" ++ "' of '" ++
      visit.location ++ "' will not be emitted"
    location := some visit.location }

/-- The fate of a parameter of a node is what it should be: an option is declared, with the meaning
of its attributes, and an argument is reported, with its name and the location of the node. -/
def Fate.IsOf (visit : Visit) (param : Param) : Fate → Prop
  | declared option => param.kind = .option ∧ NormalizedOption param option
  | reported diagnostic =>
    param.kind = .argument ∧ diagnostic = LintRule.argumentNotice visit param

/-- **Every parameter of a node has one fate**, if the options of the node are declared in order. -/
theorem Visit.exists_fates (visit : Visit) {params : List Param}
    {options : List OptionDeclaration}
    (h : List.Forall₂ NormalizedOption (params.filter Param.isOption) options) :
    ∃ fates : List Fate, List.Forall₂ (Fate.IsOf visit) params fates ∧
      fates.filterMap Fate.option? = options ∧
      fates.filterMap Fate.diagnostic? =
        (params.filter (!Param.isOption ·)).map (LintRule.argumentNotice visit) := by
  induction params generalizing options with
  | nil =>
    cases h
    exact ⟨[], .nil, rfl, rfl⟩
  | cons param rest ih =>
    cases hkind : param.kind with
    | option =>
      have hoption : param.isOption = true := by simp [Param.isOption, hkind]
      rw [List.filter_cons_of_pos hoption] at h
      cases h with
      | @cons _ option _ _ hnormalized hrest =>
        obtain ⟨fates, hfates, hoptions, hdiagnostics⟩ := ih hrest
        refine ⟨.declared option :: fates, .cons ⟨hkind, hnormalized⟩ hfates, ?_, ?_⟩
        · simp [Fate.option?, hoptions]
        · simp [List.filterMap_cons, Fate.diagnostic?, hdiagnostics, hoption]
    | argument =>
      have hoption : ¬ param.isOption = true := by simp [Param.isOption, hkind]
      rw [List.filter_cons_of_neg hoption] at h
      obtain ⟨fates, hfates, hoptions, hdiagnostics⟩ := ih h
      refine ⟨.reported (LintRule.argumentNotice visit param) :: fates,
        .cons ⟨hkind, rfl⟩ hfates, ?_, ?_⟩
      · simp [List.filterMap_cons, Fate.option?, hoptions]
      · simp [Fate.diagnostic?, hdiagnostics, hoption]

/-- Node by node, the fates of the parameters are the options of the declarations and the findings of
the rule. -/
theorem exists_fates {visits : List Visit} {declarations : List Declaration}
    (h : List.Forall₂ (fun visit declaration => Declares visit.node declaration) visits
      declarations) :
    ∃ fates : List (List Fate),
      List.Forall₂ (fun visit fates => List.Forall₂ (Fate.IsOf visit) visit.entry.params fates)
        visits fates ∧
      fates.map (·.filterMap Fate.option?) = declarations.map Declaration.options ∧
      fates.flatMap (·.filterMap Fate.diagnostic?) = visits.flatMap LintRule.checkArguments := by
  induction h with
  | nil => exact ⟨[], .nil, rfl, rfl⟩
  | @cons visit declaration _ _ hnode _ ih =>
    obtain ⟨fates, hfates, hoptions, hdiagnostics⟩ := visit.exists_fates hnode.normalized.options
    obtain ⟨rest, hrest, hrestOptions, hrestDiagnostics⟩ := ih
    refine ⟨fates :: rest, .cons hfates hrest, ?_, ?_⟩
    · rw [List.map_cons, List.map_cons, hoptions, hrestOptions]
    · rw [List.flatMap_cons, List.flatMap_cons, hdiagnostics, hrestDiagnostics]
      rfl

/-- The parameters are as many as their fates. -/
theorem sum_length_params {visits : List Visit} {fates : List (List Fate)}
    (h : List.Forall₂ (fun visit fates => List.Forall₂ (Fate.IsOf visit) visit.entry.params fates)
      visits fates) :
    (visits.map (·.entry.params.length)).sum =
      ((fates.map (·.filterMap Fate.option?)).map List.length).sum +
        (fates.flatMap (·.filterMap Fate.diagnostic?)).length := by
  induction h with
  | nil => rfl
  | @cons visit fates _ _ hnode _ ih =>
    have hlength := hnode.length_eq.trans (Fate.length_eq fates)
    simp only [List.map_cons, List.sum_cons, List.flatMap_cons, List.length_append, ih, hlength]
    omega

/-- All parameters of a schema are accounted for. -/
structure Accounted (schema : Schema) (declarations : List Declaration) : Prop where
  /-- The nodes in document order, where they have their locations, are those that are declared. -/
  declares : List.Forall₂ (fun visit declaration => Declares visit.node declaration) schema.visits
    declarations
  /-- Node by node, every parameter has one fate, in order.  The fates are all the options of the
  declaration of the node, in order, and all the findings of the rule, in order. -/
  fates : ∃ fates : List (List Fate),
    List.Forall₂ (fun visit fates => List.Forall₂ (Fate.IsOf visit) visit.entry.params fates)
      schema.visits fates ∧
    fates.map (·.filterMap Fate.option?) = declarations.map Declaration.options ∧
    fates.flatMap (·.filterMap Fate.diagnostic?) = LintRule.argumentDropped.check schema
  /-- There are as many parameters as options of declarations and findings of the rule. -/
  count : (schema.visits.map (·.entry.params.length)).sum =
    (declarations.map (·.options.length)).sum + (LintRule.argumentDropped.check schema).length

/-- **No parameter disappears unreported.** -/
theorem params_accounted {schema : Schema} {declarations : List Declaration}
    (lowered : schema.lower = .ok declarations) : Accounted schema declarations := by
  have hdeclares := Schema.declares_visits lowered
  obtain ⟨fates, hfates, hoptions, hdiagnostics⟩ := exists_fates hdeclares
  refine ⟨hdeclares, ⟨fates, hfates, hoptions, hdiagnostics⟩, ?_⟩
  rw [sum_length_params hfates, hoptions, hdiagnostics, List.map_map]
  rfl

/-- A group and a command in which options and arguments alternate; two of them have one name, and
one argument has none. -/
def mixedTools : Schema :=
  ⟨[.group ⟨⟨"site", "None", none, "False",
        [⟨.argument, .ofList [("name", "v")]⟩, ⟨.option, .ofList [("name", "v")]⟩,
          ⟨.argument, .ofList [("type", "FLOAT")]⟩]⟩, [],
      [⟨"copy", "None", none, "False",
        [⟨.option, .ofList [("name", "force"), ("required", "True")]⟩,
          ⟨.argument, .ofList [("name", "to")]⟩]⟩]⟩]⟩

theorem params_accounted_mixedTools :
    ∃ declarations, mixedTools.lower = .ok declarations ∧ Accounted mixedTools declarations ∧
      (declarations.map fun declaration => declaration.options.map OptionDeclaration.flag) =
        [["--v"], ["--force"]] ∧
      (LintRule.argumentDropped.check mixedTools).map Diagnostic.message =
        ["argument 'v' of 'site' will not be emitted",
          "argument '<unnamed>' of 'site' will not be emitted",
          "argument 'to' of 'site/copy' will not be emitted"] := by
  obtain ⟨declarations, lowered, flags⟩ : ∃ declarations, mixedTools.lower = .ok declarations ∧
      (declarations.map fun declaration => declaration.options.map OptionDeclaration.flag) =
        [["--v"], ["--force"]] := ⟨_, by rfl, by rfl⟩
  exact ⟨declarations, lowered, params_accounted lowered, flags, by decide +kernel⟩

end CommandTree
