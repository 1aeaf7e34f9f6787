/-!
# Sets of code points

The classes of characters that names depend on (upper case, alphabetic, numeric) are defined by
the Unicode Character Database as sets of code points.  A set is written down as a list of *runs*:
evenly spaced code points from `first` to `last`.  Alternating alphabets, where capital and small
letters take turns, are runs of step two.

* `CodeRun` is one run, `CodeRun.contains` its membership test.
* `CodeRuns.contains` is membership in a list of runs.
-/

namespace CommandTree

/-- The code points `first`, `first + step`, `first + 2 * step`, … up to `last`. -/
structure CodeRun where
  /-- The smallest code point of the run. -/
  first : Nat
  /-- The largest code point of the run. -/
  last : Nat
  /-- The distance between neighbours. -/
  step : Nat

/-- Whether a code point belongs to the run. -/
def CodeRun.contains (run : CodeRun) (code : Nat) : Bool :=
  run.first ≤ code && code ≤ run.last && (code - run.first) % run.step == 0

/-- A set of code points, as the runs it consists of. -/
abbrev CodeRuns := List CodeRun

/-- Whether a code point belongs to one of the runs. -/
def CodeRuns.contains (runs : CodeRuns) (code : Nat) : Bool :=
  runs.any (·.contains code)

theorem CodeRuns.contains_iff {runs : CodeRuns} {code : Nat} :
    runs.contains code = true ↔ ∃ run ∈ runs, run.contains code = true := by
  simp [CodeRuns.contains]

end CommandTree
