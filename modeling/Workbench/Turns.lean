namespace Workbench

/-!
# Turns and deadlines

Whatever has tasks goes on in turns until none is left, and whatever has timers goes on from one
deadline to the next.  Both stop after a number of steps at the latest.  A fact that every single
turn keeps is kept by all of them together (`turns_induction`).
-/

variable {State : Type}

/-- Gives out turns until nothing is left to do, at most so many. -/
def turns (isIdle : State → Bool) (turn : State → State) : Nat → State → State
  | 0, s => s
  | n + 1, s => if isIdle s then s else turns isIdle turn n (turn s)

theorem turns_of_idle {isIdle : State → Bool} (turn : State → State) (n : Nat) {s : State}
    (h : isIdle s = true) : turns isIdle turn n s = s := by
  cases n with
  | zero => rfl
  | succ n => simp [turns, h]

theorem turns_induction {isIdle : State → Bool} {turn : State → State} (kept : State → Prop)
    (step : ∀ s, isIdle s = false → kept s → kept (turn s)) (n : Nat) {s : State} (h : kept s) :
    kept (turns isIdle turn n s) := by
  induction n generalizing s with
  | zero => exact h
  | succ n ih =>
    cases idle : isIdle s with
    | true => simpa [turns, idle] using h
    | false => simpa [turns, idle] using ih (step s idle h)

/-- Goes from deadline to deadline up to a time, at most so many of them. -/
def passTime (next? : State → Option Nat) (fire : State → Nat → State) (finish : Nat) :
    Nat → State → State
  | 0, s => s
  | n + 1, s =>
    match next? s with
    | some due => if due ≤ finish then passTime next? fire finish n (fire s due) else s
    | none => s

end Workbench
