import NesMachine.Proofs.Ranges
/-!
# A frame runs until its budget is spent

`Console.nextFrame` re-arms a signed counter at `B = min F (2^31 - 1)` cycles, `F` being the
console's `cyclesPerFrame`, counts it down by each instruction's cost, and stops once it is spent or
after `F` instructions. Read without the counter, a frame is a plain run of the console:

* `Console.frameLoop_eq_runFrom`: the loop, entered with `B - t` cycles left after `t`, is the run
  of the fewest instructions whose cycles reach `B`, or of all its fuel, summed from `t`; the sum
  overshoots `B` by less than one instruction;
* `Console.nextFrame_runs`: a frame is that run from `t = 0`. It stops at the first failure, keeping
  what ran before, its count is the plain sum of the cycles (the saturating sum never saturates), and
  its counter stays within `[-6, 2^31 - 1]`.
-/

namespace NesMachine

namespace Console

/-! ## One instruction of a run and of a frame -/

section Step

variable {c c' : Console} {cycles : Nat} {e : CpuError}

@[simp] theorem runFrom_zero (c : Console) (t : Nat) : c.runFrom 0 t = (c, .ok t) := rfl

theorem runFrom_succ_of_ok (step : c.execute = (c', .ok cycles)) (n t : Nat) :
    c.runFrom (n + 1) t = c'.runFrom n (t + cycles) := by
  rw [runFrom, step]

theorem runFrom_succ_of_error (step : c.execute = (c', .error e)) (n t : Nat) :
    c.runFrom (n + 1) t = (c', .error e) := by
  rw [runFrom, step]

theorem frameLoop_of_spent {left : Int} (spent : left ≤ 0) (fuel t : Nat) :
    c.frameLoop fuel left t = (c, .ok t) := by
  cases fuel <;> simp [frameLoop, not_lt.2 spent]

theorem frameLoop_succ_of_ok {left : Int} (positive : 0 < left) (step : c.execute = (c', .ok cycles))
    (fuel t : Nat) :
    c.frameLoop (fuel + 1) left t = c'.frameLoop fuel (left - cycles) (min (t + cycles) frameCountLimit) := by
  rw [frameLoop, if_pos positive, step]

theorem frameLoop_succ_of_error {left : Int} (positive : 0 < left) (step : c.execute = (c', .error e))
    (fuel t : Nat) : c.frameLoop (fuel + 1) left t = (c', .error e) := by
  rw [frameLoop, if_pos positive, step]

end Step

/-! ## The loop is a run -/

/-- Entered with `B - t` cycles left after `t`, the frame loop runs the fewest instructions whose
cycles reach `B`, or all `fuel` of them: no earlier prefix of the run reaches `B`, and the run it
stops after has reached `B` unless its fuel ran out. The budget is spent by less than one
instruction's cost beyond `B`, so the saturating count never saturates and the loop's count is the
run's plain sum. -/
theorem frameLoop_eq_runFrom (c : Console) (fuel B t : Nat) (budget : B ≤ frameBudgetLimit)
    (overshoot : t ≤ B + 6) :
    ∃ n ≤ fuel, c.frameLoop fuel ((B : Int) - t) t = c.runFrom n t ∧
      (∀ k < n, ∀ s, (c.runFrom k t).2 = .ok s → s < B) ∧
      (∀ s, (c.runFrom n t).2 = .ok s → (B ≤ s ∨ n = fuel) ∧ s ≤ B + 6) := by
  induction fuel generalizing c t with
  | zero =>
    refine ⟨0, le_rfl, by simp [frameLoop], fun k lt => absurd lt (Nat.not_lt_zero k), ?_⟩
    intro s ran
    cases ran
    exact ⟨.inr rfl, overshoot⟩
  | succ fuel ih =>
    by_cases spent : B ≤ t
    · -- nothing is left: the frame ends before its first instruction
      refine ⟨0, Nat.zero_le _, frameLoop_of_spent (by omega) _ _, fun k lt => absurd lt (Nat.not_lt_zero k), ?_⟩
      intro s ran
      cases ran
      exact ⟨.inl spent, overshoot⟩
    · have positive : (0 : Int) < (B : Int) - t := by omega
      rcases step : c.execute with ⟨c', e | cycles⟩
      · -- the first instruction fails: the frame stops there with its error
        refine ⟨1, by omega, ?_, ?_, ?_⟩
        · rw [frameLoop_succ_of_error positive step, runFrom_succ_of_error step]
        · intro k lt s ran
          obtain rfl : k = 0 := by omega
          cases ran
          omega
        · intro s ran
          rw [runFrom_succ_of_error step] at ran
          cases ran
      · -- the first instruction runs; the rest of the frame is the loop one turn on
        have cost := Console.execute_cycles_le step
        obtain ⟨n, le, loop, least, stop⟩ := ih c' (t + cycles) (by omega)
        refine ⟨n + 1, by omega, ?_, ?_, ?_⟩
        · have unsaturated : min (t + cycles) frameCountLimit = t + cycles := by
            simp only [frameBudgetLimit, frameCountLimit] at budget ⊢
            omega
          have left : (B : Int) - t - cycles = (B : Int) - (t + cycles : Nat) := by omega
          rw [frameLoop_succ_of_ok positive step, unsaturated, left, loop, runFrom_succ_of_ok step]
        · intro k lt s ran
          cases k with
          | zero => cases ran; omega
          | succ k =>
            rw [runFrom_succ_of_ok step] at ran
            exact least k (by omega) s ran
        · intro s ran
          rw [runFrom_succ_of_ok step] at ran
          obtain ⟨reached, bound⟩ := stop s ran
          exact ⟨reached.imp_right (congrArg (· + 1)), bound⟩

/-- A frame runs the fewest instructions whose cycles reach its budget `B = min F (2^31 - 1)`, or
`F` of them when they never do (none when `F = 0`), and it is exactly that run: it stops at the
first instruction that fails, with that error and what ran before kept, and otherwise answers the
plain sum of the cycles, at most `B + 6`. Through every turn of the loop its signed counter stays
within `[-6, 2^31 - 1]`, and it is armed at `B` whatever an earlier frame left. -/
theorem nextFrame_runs (c : Console) :
    ∃ n ≤ c.cyclesPerFrame, c.nextFrame = c.runFrom n 0 ∧
      (∀ k < n, ∀ s, (c.runFrom k 0).2 = .ok s → s < min c.cyclesPerFrame frameBudgetLimit) ∧
      (∀ s, (c.runFrom n 0).2 = .ok s →
        (min c.cyclesPerFrame frameBudgetLimit ≤ s ∨ n = c.cyclesPerFrame) ∧
          s ≤ min c.cyclesPerFrame frameBudgetLimit + 6) ∧
      (∀ st, Relation.ReflTransGen FrameTurn
          (c, c.cyclesPerFrame, ((min c.cyclesPerFrame frameBudgetLimit : Nat) : Int)) st →
        -6 ≤ st.2.2 ∧ st.2.2 ≤ frameBudgetLimit) := by
  obtain ⟨n, le, loop, least, stop⟩ :=
    frameLoop_eq_runFrom c c.cyclesPerFrame (min c.cyclesPerFrame frameBudgetLimit) 0
      (Nat.min_le_right _ _) (Nat.zero_le _)
  have armed : min (c.cyclesPerFrame : Int) frameBudgetLimit =
      ((min c.cyclesPerFrame frameBudgetLimit : Nat) : Int) - (0 : Nat) := by
    omega
  refine ⟨n, le, ?_, least, stop, fun st reach => frameCounter_range c reach⟩
  rw [nextFrame, armed, loop]

end Console

end NesMachine
