import Mathlib.Data.Nat.Count

namespace Workbench
namespace Lint

/-!
# Lists without some of their entries

When entries are lost from a list, those that are left move up.  Where an entry moves to depends
only on the places that are lost before it, so that entries that are added at the end, or changed
where they stand, are found again in what is left.
-/

variable {α : Type} {lost : Nat → Bool} {index : Nat}

/-- Which places are lost in the rest of a list. -/
def lostOfRest (lost : Nat → Bool) (place : Nat) : Bool :=
  lost (place + 1)

/-- What is left of a list without the entries at lost places. -/
def keep (lost : Nat → Bool) : List α → List α
  | [] => []
  | entry :: rest =>
    if lost 0 then keep (lostOfRest lost) rest else entry :: keep (lostOfRest lost) rest

/-- How many places before a place are not lost. -/
def rank (lost : Nat → Bool) (index : Nat) : Nat :=
  Nat.count (fun earlier => lost earlier = false) index

/-- The place to which an entry moves up, unless it is lost. -/
def moved? (lost : Nat → Bool) (index : Nat) : Option Nat :=
  if lost index then none else some (rank lost index)

theorem moved?_of_lost (gone : lost index = true) : moved? lost index = none := by
  rw [moved?, if_pos gone]

theorem moved?_of_kept (kept : lost index = false) :
    moved? lost index = some (rank lost index) := by
  rw [moved?, if_neg (by simp [kept])]

theorem moved?_eq_some_iff {place : Nat} :
    moved? lost index = some place ↔ lost index = false ∧ rank lost index = place := by
  cases status : lost index with
  | true => simp [moved?_of_lost status]
  | false => simp [moved?_of_kept status]

theorem rank_succ (lost : Nat → Bool) (index : Nat) :
    rank lost (index + 1) =
      rank (lostOfRest lost) index + if lost 0 then 0 else 1 := by
  rw [rank, Nat.count_succ', rank]
  cases lost 0 <;> rfl

theorem keep_concat (lost : Nat → Bool) (entries : List α) (last : α) :
    keep lost (entries ++ [last]) =
      keep lost entries ++ if lost entries.length then [] else [last] := by
  induction entries generalizing lost with
  | nil => rfl
  | cons entry rest inductionHypothesis =>
      simp only [List.cons_append, keep, inductionHypothesis, List.length_cons]
      cases lost 0 <;> rfl

theorem length_keep (lost : Nat → Bool) (entries : List α) :
    (keep lost entries).length = rank lost entries.length := by
  induction entries generalizing lost with
  | nil => rfl
  | cons entry rest inductionHypothesis =>
      rw [List.length_cons, rank_succ, ← inductionHypothesis, keep]
      cases lost 0 <;> rfl

theorem getElem?_keep (kept : lost index = false) (entries : List α) :
    (keep lost entries)[rank lost index]? = entries[index]? := by
  induction entries generalizing lost index with
  | nil => rfl
  | cons entry rest inductionHypothesis =>
      cases index with
      | zero =>
          rw [keep, if_neg (by simp [kept])]
          rfl
      | succ index =>
          have kept : lostOfRest lost index = false := kept
          have moved := inductionHypothesis kept
          rw [rank_succ, keep, List.getElem?_cons_succ, ← moved]
          cases lost 0 <;> rfl

theorem keep_modify_of_lost (gone : lost index = true) (f : α → α) (entries : List α) :
    keep lost (entries.modify index f) = keep lost entries := by
  induction entries generalizing lost index with
  | nil => rw [List.modify_nil]
  | cons entry rest inductionHypothesis =>
      cases index with
      | zero => rw [List.modify_zero_cons, keep, keep, if_pos gone, if_pos gone]
      | succ index =>
          have gone : lostOfRest lost index = true := gone
          rw [List.modify_succ_cons, keep, keep, inductionHypothesis gone]

theorem keep_modify (kept : lost index = false) (f : α → α) (entries : List α) :
    keep lost (entries.modify index f) = (keep lost entries).modify (rank lost index) f := by
  induction entries generalizing lost index with
  | nil => rw [List.modify_nil, keep, List.modify_nil]
  | cons entry rest inductionHypothesis =>
      cases index with
      | zero =>
          rw [List.modify_zero_cons, keep, keep, if_neg (by simp [kept]), if_neg (by simp [kept])]
          rfl
      | succ index =>
          have kept : lostOfRest lost index = false := kept
          rw [List.modify_succ_cons, keep, keep, rank_succ, inductionHypothesis kept]
          cases lost 0 <;> rfl

theorem rank_of_none (index : Nat) : rank (fun _ => false) index = index := by
  rw [rank]
  exact Nat.count_of_forall fun _ _ => rfl

theorem moved?_of_none : moved? (fun _ => false) = some :=
  funext fun index => by rw [moved?_of_kept rfl, rank_of_none]

theorem keep_of_none (entries : List α) : keep (fun _ => false) entries = entries := by
  induction entries with
  | nil => rfl
  | cons entry rest inductionHypothesis =>
      have none : lostOfRest (fun _ => false) = fun _ => false := rfl
      rw [keep, if_neg Bool.false_ne_true, none, inductionHypothesis]

/-- It is the same to select first, and to select from what is left. -/
theorem filter_filterMap_comm {β : Type} {left? : α → Option β} {p : α → Bool} {q : β → Bool}
    (same : ∀ entry left, left? entry = some left → q left = p entry) (entries : List α) :
    (entries.filterMap left?).filter q = (entries.filter p).filterMap left? := by
  rw [List.filter_filterMap, List.filterMap_filter]
  refine List.filterMap_congr fun entry _ => ?_
  cases left : left? entry with
  | none => rw [ite_self, Option.filter_none]
  | some left' => rw [Option.filter_some, same entry left' left]

end Lint
end Workbench
