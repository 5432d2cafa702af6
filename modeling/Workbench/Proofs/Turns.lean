import Mathlib.Algebra.GroupWithZero.Nat
import Workbench.Turns

namespace Workbench

/-!
# Enough turns and enough deadlines

Both loops stop by themselves, and not because their steps are counted, if there is a size that
every step lowers and if there are more steps than that.  The size needs to be lowered only where
something holds that every step keeps.  The size of a list of things changes by that of the one that
is replaced (`sum_map_set`).
-/

theorem sum_map_set {α : Type} (weight : α → Nat) {things : List α} {place : Nat} {thing : α}
    (found : things[place]? = some thing) (other : α) :
    ((things.set place other).map weight).sum + weight thing =
      (things.map weight).sum + weight other := by
  induction things generalizing place with
  | nil => cases found
  | cons first rest inductionHypothesis =>
      cases place with
      | zero =>
          cases found
          simp only [List.set_cons_zero, List.map_cons, List.sum_cons]
          omega
      | succ place =>
          have shorter := inductionHypothesis found
          simp only [List.set_cons_succ, List.map_cons, List.sum_cons]
          omega

variable {State : Type}

/-- Nothing is left to do after enough turns, if each of them leaves less. -/
theorem turns_isIdle {isIdle : State → Bool} {turn : State → State} (size : State → Nat)
    (kept : State → Prop)
    (step : ∀ s, isIdle s = false → kept s → kept (turn s) ∧ size (turn s) < size s)
    (n : Nat) {s : State} (holds : kept s) (enough : size s ≤ n) :
    kept (turns isIdle turn n s) ∧ isIdle (turns isIdle turn n s) = true := by
  induction n generalizing s with
  | zero =>
      refine ⟨holds, ?_⟩
      rw [turns]
      rw [← Bool.not_eq_false]
      intro busy
      exact Nat.not_lt_zero _ (Nat.lt_of_lt_of_le (step s busy holds).2 enough)
  | succ n inductionHypothesis =>
      cases idle : isIdle s with
      | true => simp [turns, idle, holds]
      | false =>
          rcases step s idle holds with ⟨holds', less⟩
          simp only [turns, idle, Bool.false_eq_true, if_false]
          exact inductionHypothesis holds' (Nat.le_of_lt_succ (Nat.lt_of_lt_of_le less enough))

/-- The next deadline is beyond the end after enough steps, if each of them leaves less. -/
theorem passTime_beyond {next? : State → Option Nat} {fire : State → Nat → State} {finish : Nat}
    (size : State → Nat) (kept : State → Prop)
    (step : ∀ s due, next? s = some due → due ≤ finish → kept s →
      kept (fire s due) ∧ size (fire s due) < size s)
    (n : Nat) {s : State} (holds : kept s) (enough : size s < n) :
    kept (passTime next? fire finish n s) ∧
      ∀ due, next? (passTime next? fire finish n s) = some due → finish < due := by
  induction n generalizing s with
  | zero => exact absurd enough (Nat.not_lt_zero _)
  | succ n inductionHypothesis =>
      cases next : next? s with
      | none => simp [passTime, next, holds]
      | some due =>
          by_cases within : due ≤ finish
          · rcases step s due next within holds with ⟨holds', less⟩
            simp only [passTime, next, within, if_true]
            exact inductionHypothesis holds' (Nat.lt_of_lt_of_le less (Nat.le_of_lt_succ enough))
          · simp only [passTime, next, within, if_false]
            refine ⟨holds, ?_⟩
            rintro _ ⟨⟩
            exact Nat.lt_of_not_le within

/-- Turns go on in the same way in what is only looked at from another side. -/
theorem turns_project {Other : Type} (project : State → Other) (isIdle : Other → Bool)
    {turn : State → State} {turn' : Other → Other} (kept : State → Prop)
    (step : ∀ s, kept s → kept (turn s) ∧ project (turn s) = turn' (project s)) (n : Nat)
    {s : State} (holds : kept s) :
    kept (turns (fun s => isIdle (project s)) turn n s) ∧
      project (turns (fun s => isIdle (project s)) turn n s) =
        turns isIdle turn' n (project s) := by
  induction n generalizing s with
  | zero => exact ⟨holds, rfl⟩
  | succ n inductionHypothesis =>
      cases idle : isIdle (project s) with
      | true =>
          rw [turns, turns, if_pos idle, if_pos idle]
          exact ⟨holds, rfl⟩
      | false =>
          rcases step s holds with ⟨holds', same⟩
          rw [turns, turns, if_neg (by simp [idle]), if_neg (by simp [idle]), ← same]
          exact inductionHypothesis holds'

theorem passTime_project {Other : Type} (project : State → Other) (next? : Other → Option Nat)
    {fire : State → Nat → State} {fire' : Other → Nat → Other} {finish : Nat}
    (kept : State → Prop)
    (step : ∀ s due, next? (project s) = some due → kept s →
      kept (fire s due) ∧ project (fire s due) = fire' (project s) due)
    (n : Nat) {s : State} (holds : kept s) :
    project (passTime (fun s => next? (project s)) fire finish n s) =
      passTime next? fire' finish n (project s) := by
  induction n generalizing s with
  | zero => rfl
  | succ n inductionHypothesis =>
      cases next : next? (project s) with
      | none => simp [passTime, next]
      | some due =>
          by_cases within : due ≤ finish
          · rcases step s due next holds with ⟨holds', same⟩
            simp only [passTime, next, within, if_true, ← same]
            exact inductionHypothesis holds'
          · simp [passTime, next, within]

end Workbench
