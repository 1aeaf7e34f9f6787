import CommandTree.SourceText

/-!
# Depth and lines of a source text

A block goes one level deeper for its body and comes back.  So steps, however they are nested, end
at the depth at which they start, and a line is indented by the depth at the start and by one level
for each block around it.

* `SourceStep.linesAll` are the lines of some steps, each with the number of blocks around it;
  `SourceText.writeAll_eq_append` : writing the steps adds these lines, and nothing else happens.
* `SourceStep.actionsAll` is what is done for some steps, one action after the other, and
  `SourceText.perform?` one action, where a level that was never entered cannot be left.
* `SourceText.performs_writeAll` : these actions do what writing the steps does, and on the way the
  depth is never less than at the start.
* `SourceText.writeAll_nested` : all of this together.
-/

namespace CommandTree

/-! ### The lines of steps -/

/-- A line that is to be written. -/
inductive SourceLine where
  /-- A line with a text, and the number of blocks around it. -/
  | written (blocks : Nat) (text : String)
  /-- A line without any characters. -/
  | blank
  deriving DecidableEq, Repr

namespace SourceLine

/-- The line with one more block around it. -/
def deeper : SourceLine → SourceLine
  | written blocks text => .written (blocks + 1) text
  | blank => .blank

/-- The characters of a line of steps that start at a depth. -/
def render (unit : String) (depth : Nat) : SourceLine → String
  | written blocks text => String.join (List.replicate (depth + blocks) unit) ++ text ++ "\n"
  | blank => "\n"

theorem render_deeper (unit : String) (depth : Nat) (line : SourceLine) :
    line.deeper.render unit depth = line.render unit (depth + 1) := by
  cases line with
  | written blocks text =>
    have hdepth : depth + (blocks + 1) = depth + 1 + blocks := by omega
    simp only [deeper, render, hdepth]
  | blank => rfl

end SourceLine

namespace SourceStep

mutual

/-- The lines of a step. -/
def lines : SourceStep → List SourceLine
  | .line text => [.written 0 text]
  | .blank => [.blank]
  | .each items => items.map (.written 0)
  | .forEach bodies => linesEach bodies
  | .block header body => .written 0 header :: (linesAll body).map SourceLine.deeper

/-- The lines of steps. -/
def linesAll : List SourceStep → List SourceLine
  | [] => []
  | step :: rest => lines step ++ linesAll rest

/-- The lines of the steps for each item. -/
def linesEach : List (List SourceStep) → List SourceLine
  | [] => []
  | body :: rest => linesAll body ++ linesEach rest

end

end SourceStep

/-! ### What is written -/

namespace SourceText

/-- The text with some lines added at its depth. -/
def append (source : SourceText) (lines : List SourceLine) : SourceText :=
  { source with
    text := source.text ++ String.join (lines.map (SourceLine.render source.unit source.depth)) }

section Append

variable (source : SourceText) (before after : List SourceLine)

@[simp] theorem append_nil : source.append [] = source := by
  simp [append]

theorem append_append : (source.append before).append after = source.append (before ++ after) := by
  simp [append, String.append_assoc]

theorem line_eq_append (text : String) : source.line text = source.append [.written 0 text] := by
  simp [line, append, indentation, SourceLine.render, String.append_assoc]

theorem blank_eq_append : source.blank = source.append [.blank] := by
  simp [blank, append, SourceLine.render]

/-- Lines are added one level deeper by going there and coming back. -/
theorem leave_append_enter :
    (source.enter.append before).leave = source.append (before.map SourceLine.deeper) := by
  have hrender : SourceLine.render source.unit source.depth ∘ SourceLine.deeper =
      SourceLine.render source.unit (source.depth + 1) :=
    funext (SourceLine.render_deeper source.unit source.depth)
  simp [append, enter, leave, hrender]

theorem foldl_line (items : List String) :
    items.foldl line source = source.append (items.map (.written 0)) := by
  induction items generalizing source with
  | nil => simp
  | cons item items ih =>
    rw [List.foldl_cons, ih, line_eq_append, append_append, List.map_cons, List.singleton_append]

end Append

mutual

/-- Writing a step adds its lines. -/
theorem write_eq_append (source : SourceText) :
    ∀ step : SourceStep, source.write step = source.append step.lines
  | .line text => line_eq_append source text
  | .blank => blank_eq_append source
  | .each items => foldl_line source items
  | .forEach bodies => writeEach_eq_append source bodies
  | .block header body => by
    rw [write, writeAll_eq_append, leave_append_enter, line_eq_append, append_append,
      List.singleton_append, SourceStep.lines]

/-- **Writing steps adds their lines.** -/
theorem writeAll_eq_append (source : SourceText) :
    ∀ steps : List SourceStep, source.writeAll steps = source.append (SourceStep.linesAll steps)
  | [] => (append_nil source).symm
  | step :: rest => by
    rw [writeAll, write_eq_append, writeAll_eq_append, append_append, SourceStep.linesAll]

theorem writeEach_eq_append (source : SourceText) :
    ∀ bodies : List (List SourceStep),
      source.writeEach bodies = source.append (SourceStep.linesEach bodies)
  | [] => (append_nil source).symm
  | body :: rest => by
    rw [writeEach, writeAll_eq_append, writeEach_eq_append, append_append, SourceStep.linesEach]

end

theorem writeAll_append (source : SourceText) (steps more : List SourceStep) :
    source.writeAll (steps ++ more) = (source.writeAll steps).writeAll more := by
  induction steps generalizing source with
  | nil => rfl
  | cons step steps ih => exact ih (source.write step)

/-- The steps for each item are written one item after the other. -/
theorem write_forEach {α : Type} (source : SourceText) (items : List α)
    (body : α → List SourceStep) :
    source.write (.forEach (items.map body)) =
      items.foldl (fun reached item => reached.writeAll (body item)) source := by
  rw [write]
  induction items generalizing source with
  | nil => rfl
  | cons item items ih => exact ih (source.writeAll (body item))

end SourceText

/-! ### One action after the other -/

/-- What is done at a time. -/
inductive SourceAction where
  /-- A line is written. -/
  | line (text : String)
  /-- A line without any characters is written. -/
  | blank
  /-- The next level is entered. -/
  | enter
  /-- The level is left. -/
  | leave
  deriving DecidableEq, Repr

namespace SourceStep

mutual

/-- The actions of a step. -/
def actions : SourceStep → List SourceAction
  | .line text => [.line text]
  | .blank => [.blank]
  | .each items => items.map .line
  | .forEach bodies => actionsEach bodies
  | .block header body => .line header :: .enter :: (actionsAll body ++ [.leave])

/-- The actions of steps. -/
def actionsAll : List SourceStep → List SourceAction
  | [] => []
  | step :: rest => actions step ++ actionsAll rest

/-- The actions of the steps for each item. -/
def actionsEach : List (List SourceStep) → List SourceAction
  | [] => []
  | body :: rest => actionsAll body ++ actionsEach rest

end

end SourceStep

namespace SourceText

/-- The text after an action.  Outside of all levels there is none to leave. -/
def perform? (source : SourceText) : SourceAction → Option SourceText
  | .line text => some (source.line text)
  | .blank => some source.blank
  | .enter => some source.enter
  | .leave => if source.depth = 0 then none else some source.leave

/-- The text after some actions. -/
def performAll? (source : SourceText) (actions : List SourceAction) : Option SourceText :=
  actions.foldlM perform? source

@[simp] theorem performAll?_nil (source : SourceText) : source.performAll? [] = some source := rfl

@[simp] theorem performAll?_cons (source : SourceText) (action : SourceAction)
    (actions : List SourceAction) :
    source.performAll? (action :: actions) =
      (source.perform? action).bind (·.performAll? actions) := by
  simp [performAll?]

theorem performAll?_append (source : SourceText) (before after : List SourceAction) :
    source.performAll? (before ++ after) =
      (source.performAll? before).bind (·.performAll? after) := by
  simp [performAll?]

/-- Actions that do what is said wherever they start, and come back to the depth at which they
start without going below it in between. -/
structure Performs (actions : List SourceAction) (run : SourceText → SourceText) : Prop where
  /-- All of them can be carried out, and together they do what is said. -/
  ends : ∀ source : SourceText, source.performAll? actions = some (run source)
  /-- They end at the depth at which they start. -/
  depth : ∀ source : SourceText, (run source).depth = source.depth
  /-- After any number of them the depth is not less than at the start. -/
  between : ∀ (source : SourceText) (n : Nat), ∃ reached : SourceText,
    source.performAll? (actions.take n) = some reached ∧ source.depth ≤ reached.depth

namespace Performs

variable {actions first second : List SourceAction} {run next : SourceText → SourceText}

theorem nil : Performs [] id where
  ends _ := rfl
  depth _ := rfl
  between source n := ⟨source, by rw [List.take_nil, performAll?_nil], Nat.le_refl _⟩

/-- An action that leaves the depth as it is. -/
theorem single {action : SourceAction}
    (hends : ∀ source : SourceText, source.perform? action = some (run source))
    (hdepth : ∀ source : SourceText, (run source).depth = source.depth) :
    Performs [action] run where
  ends source := by simp [hends]
  depth := hdepth
  between source n := by
    cases n with
    | zero => exact ⟨source, rfl, Nat.le_refl _⟩
    | succ n => exact ⟨run source, by simp [hends], Nat.le_of_eq (hdepth source).symm⟩

theorem line (text : String) : Performs [.line text] (·.line text) :=
  single (fun _ => rfl) (fun _ => rfl)

theorem append (hfirst : Performs first run) (hsecond : Performs second next) :
    Performs (first ++ second) (fun source => next (run source)) where
  ends source := by
    rw [performAll?_append, hfirst.ends, Option.bind_some, hsecond.ends]
  depth source := (hsecond.depth (run source)).trans (hfirst.depth source)
  between source n := by
    rw [List.take_append, performAll?_append]
    rcases Nat.le_total n first.length with hn | hn
    -- the actions end among the first ones
    · obtain ⟨reached, hreached, hle⟩ := hfirst.between source n
      exact ⟨reached, by simp [hreached, Nat.sub_eq_zero_of_le hn], hle⟩
    -- the first ones are over, and the second ones start at the same depth
    · obtain ⟨reached, hreached, hle⟩ := hsecond.between (run source) (n - first.length)
      refine ⟨reached, ?_, Nat.le_trans (Nat.le_of_eq (hfirst.depth source).symm) hle⟩
      rw [List.take_of_length_le hn, hfirst.ends, Option.bind_some, hreached]

/-- Actions between entering a level and leaving it. -/
theorem inside (h : Performs actions run) :
    Performs (.enter :: (actions ++ [.leave])) (fun source => (run source.enter).leave) := by
  have hdepth : ∀ source : SourceText, (run source.enter).depth = source.depth + 1 :=
    fun source => h.depth source.enter
  have hends : ∀ source : SourceText,
      source.performAll? (.enter :: (actions ++ [.leave])) = some (run source.enter).leave := by
    intro source
    simp [performAll?_append, perform?, h.ends, hdepth]
  have hback : ∀ source : SourceText, (run source.enter).leave.depth = source.depth := by
    intro source
    rw [leave, hdepth, Nat.add_sub_cancel]
  refine ⟨hends, hback, fun source n => ?_⟩
  cases n with
  | zero => exact ⟨source, rfl, Nat.le_refl _⟩
  | succ n =>
    rcases Nat.lt_or_ge actions.length n with hn | hn
    · refine ⟨(run source.enter).leave, ?_, Nat.le_of_eq (hback source).symm⟩
      rw [List.take_of_length_le (by simp; omega), hends]
    -- the level has not been left yet
    · obtain ⟨reached, hreached, hle⟩ := h.between source.enter n
      refine ⟨reached, ?_, Nat.le_trans (Nat.le_succ source.depth) hle⟩
      rw [List.take_succ_cons, List.take_append_of_le_length hn, performAll?_cons, perform?,
        Option.bind_some, hreached]

theorem foldl_line (items : List String) :
    Performs (items.map .line) (fun source => items.foldl SourceText.line source) := by
  induction items with
  | nil => exact nil
  | cons item items ih => exact (line item).append ih

end Performs

mutual

/-- The actions of a step write it. -/
theorem performs_write : ∀ step : SourceStep, Performs step.actions (·.write step)
  | .line text => .line text
  | .blank => .single (fun _ => rfl) (fun _ => rfl)
  | .each items => .foldl_line items
  | .forEach bodies => performs_writeEach bodies
  | .block header body => (Performs.line header).append (performs_writeAll body).inside

/-- **The actions of steps write them.** -/
theorem performs_writeAll :
    ∀ steps : List SourceStep, Performs (SourceStep.actionsAll steps) (·.writeAll steps)
  | [] => .nil
  | step :: rest => (performs_write step).append (performs_writeAll rest)

theorem performs_writeEach :
    ∀ bodies : List (List SourceStep),
      Performs (SourceStep.actionsEach bodies) (·.writeEach bodies)
  | [] => .nil
  | body :: rest => (performs_writeAll body).append (performs_writeEach rest)

end

/-- An empty text at the same depth. -/
def emptied (source : SourceText) : SourceText :=
  { source with text := "" }

/-- **A source text is indented by nesting.**  Writing steps ends at the depth at which it starts.
It is a sequence of actions in which a level is left only after it was entered, and between which
the depth is never less than at the start.  It adds the lines of the steps in order, each behind as
many units as the depth at the start and the blocks around the line, and nothing before a line
without characters.  Steps that are written after others add what they write at the same depth on
their own, and writing the steps for each item is writing them one item after the other. -/
theorem writeAll_nested (source : SourceText) (steps more : List SourceStep) :
    (source.writeAll steps).depth = source.depth ∧
    (source.performAll? (SourceStep.actionsAll steps) = some (source.writeAll steps) ∧
      ∀ n : Nat, ∃ reached : SourceText,
        source.performAll? ((SourceStep.actionsAll steps).take n) = some reached ∧
          source.depth ≤ reached.depth) ∧
    (source.writeAll steps).text = source.text ++
      String.join ((SourceStep.linesAll steps).map fun line =>
        line.render source.unit source.depth) ∧
    source.writeAll (steps ++ more) = (source.writeAll steps).writeAll more ∧
    ((source.writeAll steps).writeAll more).text = source.text ++
      ((source.emptied.writeAll steps).text ++ (source.emptied.writeAll more).text) ∧
    ∀ (α : Type) (items : List α) (body : α → List SourceStep),
      source.write (.forEach (items.map body)) =
        items.foldl (fun reached item => reached.writeAll (body item)) source := by
  have hactions := performs_writeAll steps
  refine ⟨hactions.depth source, ⟨hactions.ends source, hactions.between source⟩, ?_,
    writeAll_append source steps more, ?_, fun α => write_forEach source⟩
  · rw [writeAll_eq_append]
    rfl
  · simp only [writeAll_eq_append, append_append]
    simp [append, emptied]

/-- A block in a block that is written for each of two items, and a line after them. -/
example :
    let body := fun name : String =>
      [SourceStep.block ("def " ++ name ++ "():") [.block "if x:" [.line "return 1"], .blank]]
    (fourSpaces.writeAll [.forEach (["f", "g"].map body), .line "f()"]).text =
      "def f():\n    if x:\n        return 1\n\ndef g():\n    if x:\n        return 1\n\nf()\n" := by
  decide +kernel

end SourceText

end CommandTree
