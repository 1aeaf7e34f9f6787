import CommandTree.Proofs.Click.Injective
import CommandTree.Proofs.Schema.RoundTrip

/-!
# The lines of a Click program

The texts of a schema go into a program in three ways: as string literals, in which a line break is
escaped, as identifiers, which have none, and as the keys of attributes of options, which are
written as they are.  So the lines of a program are those of its declarations, unless a key breaks
one of them.

* `cutLines` cuts a text at its line feeds, `IsOneLine` holds if there are none.
* `isOneLine_option` : the call for an option is one line exactly if its keys have no line feed.
* `Click.declaration_eq_join` : the text of a declaration is its lines, each ended by a line feed.
* `HasProgramLines` : a text consists of one block of lines for each declaration.
* `Schema.hasProgramLines`, `Schema.lineCount_lt` : the program of a schema does so if no key of an
  option has a line feed, and otherwise it has more lines; `compile_lines_iff` : both together.
* `compile_lines_brokenKey` : a document that the loader accepts and for which it has more.
-/

namespace CommandTree

/-! ### Cutting a text at its line feeds -/

/-- The pieces of a text between its line feeds. -/
def cutLines (text : String) : List String :=
  (text.toList.splitOn '\n').map String.ofList

/-- Whether a text has no line feed. -/
def IsOneLine (text : String) : Prop :=
  '\n' ∉ text.toList

instance (text : String) : Decidable (IsOneLine text) :=
  inferInstanceAs (Decidable (¬ _))

@[simp] theorem isOneLine_append {a b : String} :
    IsOneLine (a ++ b) ↔ IsOneLine a ∧ IsOneLine b := by
  simp [IsOneLine]

theorem cutLines_append_newline (a b : String) :
    cutLines (a ++ "\n" ++ b) = cutLines a ++ cutLines b := by
  have hcut := List.splitOn_append_cons_self (a := '\n') a.toList b.toList
  simp [cutLines, hcut]

/-- Lines that are each ended by a line feed are found again, or pieces of them. -/
theorem cutLines_join (lines : List String) :
    cutLines (String.join (lines.map (· ++ "\n"))) = lines.flatMap cutLines ++ [""] := by
  induction lines with
  | nil => decide
  | cons line lines ih =>
    rw [List.map_cons, String.join_cons, cutLines_append_newline, ih, List.flatMap_cons,
      List.append_assoc]

theorem IsOneLine.cutLines_eq {line : String} (h : IsOneLine line) : cutLines line = [line] := by
  have hpiece : ∀ piece ∈ [line.toList], '\n' ∉ piece := by
    intro piece hmem
    obtain rfl := List.mem_singleton.1 hmem
    exact h
  have hsplit := List.splitOn_intercalate '\n' hpiece (List.cons_ne_nil _ _)
  rw [List.intercalate_singleton] at hsplit
  simp [cutLines, hsplit]

/-- Lines that are one line each are found again. -/
theorem flatMap_cutLines_eq {lines : List String} (h : ∀ line ∈ lines, IsOneLine line) :
    lines.flatMap cutLines = lines := by
  induction lines with
  | nil => rfl
  | cons line lines ih =>
    rw [List.forall_mem_cons] at h
    rw [List.flatMap_cons, h.1.cutLines_eq, ih h.2, List.singleton_append]

theorem cutLines_ne_nil (text : String) : cutLines text ≠ [] := by
  simp [cutLines, List.splitOn_ne_nil]

/-- A text that has one piece only has no line feed. -/
theorem isOneLine_of_length_cutLines {text : String} (h : (cutLines text).length = 1) :
    IsOneLine text := by
  intro hmem
  obtain ⟨a, b, hab⟩ := List.append_of_mem hmem
  have hcut : cutLines text = cutLines (String.ofList a) ++ cutLines (String.ofList b) := by
    rw [← cutLines_append_newline]
    congr 1
    simp [← String.toList_inj, hab]
  have ha := List.length_pos_iff.2 (cutLines_ne_nil (String.ofList a))
  have hb := List.length_pos_iff.2 (cutLines_ne_nil (String.ofList b))
  rw [hcut, List.length_append] at h
  omega

/-- If lines have together no more pieces than there are lines, then each of them is one line. -/
theorem isOneLine_of_length_flatMap {lines : List String}
    (h : (lines.flatMap cutLines).length ≤ lines.length) : ∀ line ∈ lines, IsOneLine line := by
  have hmany : ∀ lines : List String, lines.length ≤ (lines.flatMap cutLines).length := by
    intro lines
    induction lines with
    | nil => simp
    | cons line lines ih =>
      have hpos := List.length_pos_iff.2 (cutLines_ne_nil line)
      simp only [List.flatMap_cons, List.length_append, List.length_cons]
      omega
  induction lines with
  | nil => simp
  | cons line lines ih =>
    have hpos := List.length_pos_iff.2 (cutLines_ne_nil line)
    have hrest := hmany lines
    simp only [List.flatMap_cons, List.length_append, List.length_cons] at h
    refine List.forall_mem_cons.2 ⟨?_, ih (by omega)⟩
    exact isOneLine_of_length_cutLines (by omega)

namespace Click

/-! ### Which parts of a declaration are one line -/

theorem isOneLine_arguments {items : List String} :
    IsOneLine (arguments items) ↔ ∀ item ∈ items, IsOneLine item := by
  cases items with
  | nil => simp [arguments, IsOneLine]
  | cons first rest =>
    rw [IsOneLine, toList_arguments_cons]
    simp [IsOneLine]

theorem isOneLine_quote (text : String) : IsOneLine (quote text) := by
  have hchar : ∀ c, '\n' ∉ quotedChar c := by
    intro c
    unfold quotedChar
    split <;> simp_all [eq_comm]
  simp [IsOneLine, quote, hchar]

theorem isOneLine_literal (value : Literal) : IsOneLine (literal value) := by
  cases value with
  | text value => exact isOneLine_quote value
  | truth value => cases value <;> decide
  | integer value =>
    intro hmem
    have hnumber : isNumberChar '\n' = true := isNumberChar_of_mem_repr hmem
    revert hnumber
    decide
  | absent => decide

theorem isOneLine_identifier {name : String}
    (h : ∀ c ∈ name.toList, isIdentifierChar c = true) : IsOneLine name := by
  intro hmem
  have hchar : isIdentifierChar '\n' = false := by decide +kernel
  exact Bool.false_ne_true (hchar.symm.trans (h _ hmem))

theorem isOneLine_keywords {attributes : OrderedMap Literal} :
    (∀ item ∈ keywords attributes, IsOneLine item) ↔ ∀ key ∈ attributes.keys, IsOneLine key := by
  have hsign : IsOneLine "=" := by decide
  have hitem : ∀ member : String × Literal,
      IsOneLine (member.1 ++ "=" ++ literal member.2) ↔ IsOneLine member.1 := by
    intro member
    simp [isOneLine_literal, hsign]
  rw [keywords, OrderedMap.keys, Members.keys, List.forall_mem_map, List.forall_mem_map]
  exact forall₂_congr fun member _ => hitem member

/-- The call for an option is one line exactly if the keys of its attributes are. -/
theorem isOneLine_option {option : OptionDeclaration} :
    IsOneLine (Click.option option) ↔ ∀ key ∈ option.attributes.keys, IsOneLine key := by
  have hopen : IsOneLine "@click.option(" := by decide
  have hclose : IsOneLine ")" := by decide
  have htype : ∀ text, option.valueType.bind valueType? = some text → IsOneLine text := by
    intro text h
    obtain ⟨type, -, htext⟩ := Option.bind_eq_some_iff.1 h
    cases type <;> cases htext <;> decide
  have hlead : IsOneLine "type=" := by decide
  rw [← isOneLine_keywords, Click.option]
  cases hbind : option.valueType.bind valueType? with
  | none =>
    simp only [isOneLine_append, isOneLine_arguments, List.append_nil, List.forall_mem_cons,
      isOneLine_quote, hopen, hclose, true_and, and_true]
  | some text =>
    simp only [isOneLine_append, isOneLine_arguments, List.cons_append, List.forall_mem_cons,
      List.forall_mem_append, isOneLine_quote, hopen, hclose, hlead, htype text hbind, true_and,
      and_true]
    exact and_iff_left (List.forall_mem_nil _)

/-! ### The lines of a declaration -/

/-- The lines of the text of a declaration, if each of them is one. -/
def lines (declaration : Declaration) : List String :=
  decorator declaration :: (declaration.options.map option ++
    ["@click.pass_context", functionHead declaration,
      "    " ++ contextCall declaration.options, "", ""])

theorem length_lines (declaration : Declaration) :
    (lines declaration).length = declaration.options.length + 6 := by
  simp [lines]

/-- The text of a declaration is its lines, each of them ended by a line feed. -/
theorem declaration_eq_join (declaration : Declaration) :
    Click.declaration declaration = String.join ((lines declaration).map (· ++ "\n")) := by
  have hjoin : ∀ lines : List String, (String.join (lines.map (· ++ "\n"))).toList =
      lines.flatMap fun line => line.toList ++ ['\n'] := by
    intro lines
    induction lines with
    | nil => rfl
    | cons line lines ih => simp [String.join_cons, ih]
  have hoption : optionLine = fun option => (Click.option option).toList ++ ['\n'] := rfl
  rw [← String.toList_inj, toList_declaration, hjoin]
  simp [lines, decorator, functionHead, functionRest, List.flatMap_map, hoption]

/-- What a declaration of a schema brings into its lines, other than the options. -/
structure PlainDeclaration (declaration : Declaration) : Prop where
  /-- What it is attached to is one line. -/
  parent : IsOneLine (Click.parent declaration.parent)
  /-- Its identifier is one line. -/
  identifier : IsOneLine declaration.identifier
  /-- The keys of its attributes are one line each. -/
  attributes : ∀ key ∈ declaration.attributes.keys, IsOneLine key
  /-- The identifiers of its options are one line each. -/
  arguments : ∀ option ∈ declaration.options, IsOneLine option.argument

namespace PlainDeclaration

variable {declaration : Declaration}

theorem decorator (h : PlainDeclaration declaration) : IsOneLine (Click.decorator declaration) := by
  have hat : IsOneLine "@" := by decide
  have hdot : IsOneLine "." := by decide
  have hopen : IsOneLine "(" := by decide
  have hclose : IsOneLine ")" := by decide
  have hkind : IsOneLine declaration.kind.name := by
    cases declaration.kind <;> decide
  simp only [Click.decorator, isOneLine_append, isOneLine_arguments, hat, h.parent, hdot, hkind,
    hopen, hclose, true_and, and_true]
  exact isOneLine_keywords.2 h.attributes

theorem functionHead (h : PlainDeclaration declaration) :
    IsOneLine (Click.functionHead declaration) := by
  have hdef : IsOneLine "def " := by decide
  have hopen : IsOneLine "(" := by decide
  have hclose : IsOneLine "):" := by decide
  have hcontext : IsOneLine "ctx" := by decide
  simp only [Click.functionHead, isOneLine_append, isOneLine_arguments, List.forall_mem_cons,
    List.forall_mem_map, hdef, h.identifier, hopen, hcontext, hclose, true_and, and_true]
  exact h.arguments

theorem contextCall (h : PlainDeclaration declaration) :
    IsOneLine (Click.contextCall declaration.options) := by
  have hopen : IsOneLine "set_context_obj(ctx, \x7b" := by decide
  have hclose : IsOneLine "\x7d)" := by decide
  have hcolon : IsOneLine ": " := by decide
  unfold Click.contextCall
  split
  · decide
  · simp only [isOneLine_append, hopen, hclose, isOneLine_arguments, List.forall_mem_map,
      isOneLine_quote, hcolon, true_and, and_true]
    exact h.arguments

/-- The lines of a declaration are one line each exactly if the keys of its options are. -/
theorem lines (h : PlainDeclaration declaration) :
    (∀ line ∈ Click.lines declaration, IsOneLine line) ↔
      ∀ option ∈ declaration.options, ∀ key ∈ option.attributes.keys, IsOneLine key := by
  have hindent : IsOneLine "    " := by decide
  have hpass : IsOneLine "@click.pass_context" := by decide
  have hempty : IsOneLine "" := by decide
  simp only [Click.lines, List.forall_mem_cons, List.forall_mem_append, List.forall_mem_map,
    isOneLine_append, isOneLine_option, h.decorator, h.functionHead, h.contextCall, hindent, hpass,
    hempty, true_and]
  exact and_iff_left (List.forall_mem_nil _)

end PlainDeclaration

end Click

/-! ### The lines of a program -/

/-- The keys of the attributes of all options are one line each. -/
def Schema.KeysOnOneLine (schema : Schema) : Prop :=
  ∀ node ∈ schema.preorder, ∀ param ∈ node.2.params, param.isOption = true →
    ∀ key ∈ param.attributes.keys, IsOneLine key

instance (schema : Schema) : Decidable schema.KeysOnOneLine :=
  inferInstanceAs (Decidable (∀ _ ∈ _, _))

/-- The number of lines that the texts of declarations should have. -/
def lineCount : List Declaration → Nat
  | [] => 0
  | declaration :: rest => declaration.options.length + 6 + lineCount rest

/-- Whether some lines are those that the text of a declaration should have. -/
def IsBlock (declaration : Declaration) (block : List String) : Prop :=
  ∃ (attributes parameters values : String) (options : List String),
    options.length = declaration.options.length ∧
      (∀ line ∈ options, ∃ call, line = "@click.option(" ++ call) ∧
      block = ("@" ++ Click.parent declaration.parent ++ "." ++ declaration.kind.name ++ "(" ++
          attributes ++ ")") :: (options ++ ["@click.pass_context",
            "def " ++ declaration.identifier ++ "(" ++ parameters ++ "):",
            "    set_context_obj(" ++ values ++ ")", "", ""])

/-- Whether a text consists of the lines that the texts of declarations should have, each of them
ended by a line feed. -/
def HasProgramLines (declarations : List Declaration) (text : String) : Prop :=
  ∃ blocks, List.Forall₂ IsBlock declarations blocks ∧ cutLines text = blocks.flatten ++ [""]

theorem Click.isBlock_lines (declaration : Declaration) :
    IsBlock declaration (Click.lines declaration) := by
  have hcall : ∀ options : List OptionDeclaration,
      ∃ values, "    " ++ contextCall options = "    set_context_obj(" ++ values ++ ")" := by
    intro options
    cases options with
    | nil => exact ⟨"ctx", by decide⟩
    | cons option options =>
      refine ⟨"ctx, \x7b" ++ arguments ((option :: options).map fun option =>
        quote option.argument ++ ": " ++ option.argument) ++ "\x7d", ?_⟩
      simp [contextCall, ← String.toList_inj]
  obtain ⟨values, hvalues⟩ := hcall declaration.options
  refine ⟨arguments (keywords declaration.attributes),
    arguments ("ctx" :: declaration.options.map OptionDeclaration.argument), values,
    declaration.options.map Click.option, List.length_map .., ?_, ?_⟩
  · intro line hline
    obtain ⟨option, -, rfl⟩ := List.mem_map.1 hline
    exact ⟨_, by rw [Click.option, String.append_assoc]⟩
  · rw [Click.lines, hvalues, decorator, functionHead]

/-- What the declarations of a schema are made of is one line each, except for the keys of
options. -/
theorem Schema.plainDeclarations {schema : Schema} {declarations : List Declaration}
    (lowered : schema.lower = .ok declarations) :
    ∀ declaration ∈ declarations, Click.PlainDeclaration declaration := by
  intro declaration hdeclaration
  have hidentifier : ∀ name ∈ identifiers declarations, IsOneLine name := fun name hname =>
    Click.isOneLine_identifier (Schema.isIdentifier_of_mem lowered hname).1
  have hnode : (∀ key ∈ declaration.attributes.keys, IsOneLine key) ∧
      ∀ option ∈ declaration.options, IsOneLine option.argument := by
    refine forall_mem_of_forall₂ (p := fun declaration =>
      (∀ key ∈ declaration.attributes.keys, IsOneLine key) ∧
        ∀ option ∈ declaration.options, IsOneLine option.argument)
      (Schema.declares_preorder lowered) ?_ _ hdeclaration
    intro node _ declaration hdeclares
    obtain ⟨-, ⟨name, help, hidden, -, -, -, hattributes⟩, hoptions⟩ := hdeclares.normalized
    refine ⟨?_, forall_mem_of_forall₂ hoptions fun param _ option hoption => ?_⟩
    · have hkeys : declaration.attributes.keys = ["name", "help", "hidden"] := by
        simp [OrderedMap.keys, Members.keys, hattributes]
      rw [hkeys]
      decide
    · obtain ⟨raw, name, -, -, -, -, hargument⟩ := hoption.flag
      rw [hargument]
      exact Click.isOneLine_identifier fun c hc => isIdentifierChar_of_mem_identifierOf hc
  -- a parent is the root or has an identifier that some other declaration has
  refine ⟨?_, hidentifier _ (List.mem_map_of_mem hdeclaration), hnode.1, hnode.2⟩
  cases hparent : declaration.parent with
  | root =>
    have hroot : IsOneLine (Click.parent .root) := by decide
    exact hroot
  | node name => exact hidentifier _ (Schema.parent_mem_identifiers lowered hdeclaration hparent)

/-- The keys of options are on one line each exactly if those of their declarations are. -/
theorem Schema.keysOnOneLine_iff {schema : Schema} {declarations : List Declaration}
    (lowered : schema.lower = .ok declarations) :
    schema.KeysOnOneLine ↔ ∀ declaration ∈ declarations, ∀ option ∈ declaration.options,
      ∀ key ∈ option.attributes.keys, IsOneLine key := by
  have hname : IsOneLine "name" := by decide
  have htype : IsOneLine "type" := by decide
  have hoption : ∀ {param : Param} {option : OptionDeclaration}, NormalizedOption param option →
      ((∀ key ∈ param.attributes.keys, IsOneLine key) ↔
        ∀ key ∈ option.attributes.keys, IsOneLine key) := by
    intro param option h
    have hkeys := forall₂_forall_mem_iff (p := fun member => IsOneLine member.1)
      (q := fun literal => IsOneLine literal.1) h.attributes
      fun member _ literal hliteral => by rw [hliteral.1]
    rw [OrderedMap.keys, OrderedMap.keys, Members.keys, Members.keys, List.forall_mem_map,
      List.forall_mem_map, ← hkeys]
    refine ⟨fun hall member hmember => hall member (List.mem_of_mem_filter hmember),
      fun hall member hmember => ?_⟩
    by_cases hkey : member.1 ≠ "name" ∧ member.1 ≠ "type"
    · exact hall member (List.mem_filter.2 ⟨hmember, by simpa using hkey⟩)
    · obtain h | h : member.1 = "name" ∨ member.1 = "type" := by tauto
      · rwa [h]
      · rwa [h]
  refine forall₂_forall_mem_iff (Schema.declares_preorder lowered) fun node _ declaration h => ?_
  rw [← forall₂_forall_mem_iff h.normalized.options fun param _ option h => hoption h]
  exact ⟨fun hall param hparam =>
      hall param (List.mem_of_mem_filter hparam) (List.mem_filter.1 hparam).2,
    fun hall param hparam hkind => hall param (List.mem_filter.2 ⟨hparam, hkind⟩)⟩

/-- The text of declarations is all their lines, each of them ended by a line feed. -/
theorem Click.body_eq_join (declarations : List Declaration) :
    target.body declarations = String.join ((declarations.flatMap lines).map (· ++ "\n")) := by
  induction declarations with
  | nil => rfl
  | cons declaration declarations ih =>
    rw [Target.body] at ih ⊢
    rw [List.map_cons, String.join_cons, ih, List.flatMap_cons, List.map_append, String.join_append]
    congr 1
    exact declaration_eq_join declaration

theorem Click.length_flatMap_lines (declarations : List Declaration) :
    (declarations.flatMap lines).length = lineCount declarations := by
  induction declarations with
  | nil => rfl
  | cons declaration declarations ih =>
    rw [List.flatMap_cons, List.length_append, length_lines, ih, lineCount]

/-- What is cut are the lines that there should be, and the pieces of those that are broken. -/
theorem Click.cutLines_body (declarations : List Declaration) :
    cutLines (target.body declarations) = (declarations.flatMap lines).flatMap cutLines ++ [""] := by
  rw [body_eq_join, cutLines_join]

theorem Schema.forall_isOneLine_iff {schema : Schema} {declarations : List Declaration}
    (lowered : schema.lower = .ok declarations) :
    (∀ line ∈ declarations.flatMap Click.lines, IsOneLine line) ↔ schema.KeysOnOneLine := by
  have hplain := Schema.plainDeclarations lowered
  rw [Schema.keysOnOneLine_iff lowered, List.forall_mem_flatMap]
  exact forall₂_congr fun declaration hdeclaration => (hplain declaration hdeclaration).lines

/-- If no key breaks a line, then the lines are those that there should be. -/
theorem Schema.hasProgramLines {schema : Schema} {declarations : List Declaration}
    (lowered : schema.lower = .ok declarations) (h : schema.KeysOnOneLine) :
    HasProgramLines declarations (Click.target.body declarations) ∧
      (cutLines (Click.target.body declarations)).length = lineCount declarations + 1 := by
  rw [HasProgramLines, Click.cutLines_body,
    flatMap_cutLines_eq ((Schema.forall_isOneLine_iff lowered).2 h)]
  refine ⟨⟨declarations.map Click.lines, ?_, by rw [List.flatMap_def]⟩, ?_⟩
  · exact List.forall₂_map_right_iff.2 (List.forall₂_same.2 fun declaration _ =>
      Click.isBlock_lines declaration)
  · rw [List.length_append, Click.length_flatMap_lines, List.length_singleton]

/-- If some key breaks a line, then there are more lines. -/
theorem Schema.lineCount_lt {schema : Schema} {declarations : List Declaration}
    (lowered : schema.lower = .ok declarations) (h : ¬ schema.KeysOnOneLine) :
    lineCount declarations + 1 < (cutLines (Click.target.body declarations)).length := by
  by_contra hfew
  rw [Click.cutLines_body, List.length_append, List.length_singleton,
    ← Click.length_flatMap_lines] at hfew
  exact h ((Schema.forall_isOneLine_iff lowered).1 (isOneLine_of_length_flatMap (by omega)))

/-- **The program of a schema consists of the lines of its declarations exactly if no key of an
option has a line feed**; no other text can add or break a line. -/
theorem compile_lines_iff (schema : Schema) (declarations : List Declaration)
    (lowered : schema.lower = .ok declarations) :
    ∃ text, schema.compile Click.target = .ok text ∧
      (schema.KeysOnOneLine → HasProgramLines declarations text ∧
        (cutLines text).length = lineCount declarations + 1) ∧
      (¬ schema.KeysOnOneLine → lineCount declarations + 1 < (cutLines text).length) :=
  ⟨Click.target.body declarations, by simp [Schema.compile, lowered, pure_eq_ok],
    Schema.hasProgramLines lowered, Schema.lineCount_lt lowered⟩

theorem compile_lines_iff_quotingTools :
    quotingTools.lower = .ok quotingToolDeclarations ∧ quotingTools.KeysOnOneLine ∧
      ∃ text, quotingTools.compile Click.target = .ok text ∧
        (quotingTools.KeysOnOneLine → HasProgramLines quotingToolDeclarations text ∧
          (cutLines text).length = lineCount quotingToolDeclarations + 1) ∧
        (¬ quotingTools.KeysOnOneLine →
          lineCount quotingToolDeclarations + 1 < (cutLines text).length) := by
  have lowered : quotingTools.lower = .ok quotingToolDeclarations := by decide +kernel
  exact ⟨lowered, by decide +kernel, compile_lines_iff _ _ lowered⟩

/-- A command whose option has an attribute with a line feed in its key. -/
def brokenKey : Schema :=
  ⟨[.command ⟨"run", "Run", none, "False", [⟨.option, .ofList [("name", "v"), ("help", "None"),
    ("type", "STRING"), ("default", "None"), ("required", "False"), ("prompt", "None"),
    ("a\nb", "None")]⟩]⟩]⟩

/-- The declaration of that command. -/
def brokenKeyDeclaration : Declaration :=
  ⟨.command, .root, "run", .ofList [("name", .text "run"), ("help", .text "Run"),
    ("hidden", .truth false)], [⟨"--v", "v", .ofList [("help", .absent), ("default", .absent),
      ("required", .truth false), ("prompt", .absent), ("a\nb", .absent)], some .text⟩]⟩

/-- The loader accepts a document whose program has more lines than it should. -/
theorem compile_lines_brokenKey :
    (∃ text, Schema.ofText .json "schema.json" text = .ok brokenKey) ∧
      brokenKey.lower = .ok [brokenKeyDeclaration] ∧
      ∃ text, brokenKey.compile Click.target = .ok text ∧
        lineCount [brokenKeyDeclaration] + 1 < (cutLines text).length := by
  have hspace : Json.skipSpace "\n".toList = [] := by decide
  have wellFormed : brokenKey.WellFormed ∧ brokenKey.toJson.depth ≤ 127 := by decide +kernel
  have lowered : brokenKey.lower = .ok [brokenKeyDeclaration] := by decide +kernel
  have broken : ¬ brokenKey.KeysOnOneLine := by decide +kernel
  refine ⟨⟨_, wellFormed.1.ofText_toText wellFormed.2 hspace "schema.json"⟩, lowered,
    Click.target.body [brokenKeyDeclaration], ?_, Schema.lineCount_lt lowered broken⟩
  simp [Schema.compile, lowered, pure_eq_ok]

end CommandTree
