import CommandTree.Text.CodePoints
import Mathlib.Data.Nat.Bitwise
import Mathlib.Tactic.SplitIfs

/-!
# Sets of code points as numbers

The tables of character classes are long, and comparing them run by run takes a long time.  A set of
code points is also a number, whose bits stand for its members; two tables are then compared by one
operation on two numbers.

* `CodeRuns.bits` is the number of a table; `CodeRuns.testBit_bits` : its bits are the members.
* `CodeRuns.contains_of_land_eq` and `CodeRuns.not_contains_of_land_eq_zero` : one table contains
  another, and two tables have nothing in common.
-/

namespace CommandTree

namespace CodeRun

variable {run : CodeRun} {code : Nat}

theorem contains_iff : run.contains code = true ↔
    run.first ≤ code ∧ code ≤ run.last ∧ (code - run.first) % run.step = 0 := by
  simp [contains, and_assoc]

/-- The code points of a run, one by one. -/
def codes (run : CodeRun) : List Nat :=
  if run.first ≤ run.last then
    (List.range ((run.last - run.first) / run.step + 1)).map fun n => run.first + n * run.step
  else []

/-- The number of a run. -/
def bits (run : CodeRun) : Nat :=
  -- a run without gaps may be long, and its number is the difference of two powers
  if run.step = 1 then (2 ^ (run.last + 1 - run.first) - 1) <<< run.first
  else run.codes.foldr (fun code bits => 2 ^ code ||| bits) 0

theorem mem_codes_iff : code ∈ run.codes ↔ run.contains code = true := by
  rw [contains_iff, codes]
  split_ifs with hrun
  · simp only [List.mem_map, List.mem_range]
    constructor
    · rintro ⟨n, hn, rfl⟩
      have hle := Nat.mul_le_mul_right run.step (Nat.le_of_lt_succ hn)
      have hdiv := Nat.div_mul_le_self (run.last - run.first) run.step
      exact ⟨by omega, by omega, by simp⟩
    · rintro ⟨hfirst, hlast, hstep⟩
      have hdiv := Nat.div_add_mod (code - run.first) run.step
      have hle : (code - run.first) / run.step ≤ (run.last - run.first) / run.step :=
        Nat.div_le_div_right (by omega)
      refine ⟨(code - run.first) / run.step, by omega, ?_⟩
      rw [Nat.mul_comm]
      omega
  · simp only [List.not_mem_nil, false_iff]
    omega

theorem testBit_foldr_codes (codes : List Nat) (code : Nat) :
    (codes.foldr (fun code bits => 2 ^ code ||| bits) 0).testBit code = codes.contains code := by
  induction codes with
  | nil => simp
  | cons head rest ih =>
    rw [List.foldr_cons, Nat.testBit_or, ih, Nat.testBit_two_pow, List.contains_cons,
      Bool.beq_eq_decide_eq, decide_eq_decide.2 eq_comm]

theorem testBit_bits (run : CodeRun) (code : Nat) : run.bits.testBit code = run.contains code := by
  rw [bits, Bool.eq_iff_iff]
  split_ifs with hstep
  · rw [contains_iff, hstep, Nat.mod_one, Nat.testBit_shiftLeft, Nat.testBit_two_pow_sub_one]
    simp only [Bool.and_eq_true, decide_eq_true_eq, and_true]
    omega
  · rw [testBit_foldr_codes, List.contains_iff_mem, mem_codes_iff]

end CodeRun

namespace CodeRuns

variable {a b : CodeRuns} {code : Nat}

/-- The number of a table. -/
def bits (runs : CodeRuns) : Nat :=
  runs.foldr (fun run bits => run.bits ||| bits) 0

theorem testBit_bits (runs : CodeRuns) (code : Nat) :
    (bits runs).testBit code = runs.contains code := by
  induction runs with
  | nil => simp [bits, contains]
  | cons run rest ih =>
    rw [bits, List.foldr_cons, Nat.testBit_or, run.testBit_bits]
    exact congrArg (run.contains code || ·) ih

theorem contains_of_land_eq (h : bits a &&& bits b = bits a) (hcode : a.contains code = true) :
    b.contains code = true := by
  have hbit := congrArg (·.testBit code) h
  simp only [Nat.testBit_and, testBit_bits, hcode, Bool.true_and] at hbit
  exact hbit

theorem not_contains_of_land_eq_zero (h : bits a &&& bits b = 0) (hcode : a.contains code = true) :
    b.contains code = false := by
  have hbit := congrArg (·.testBit code) h
  simpa only [Nat.testBit_and, testBit_bits, hcode, Bool.true_and, Nat.zero_testBit] using hbit

end CodeRuns

end CommandTree
