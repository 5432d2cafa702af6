import Workbench.Proofs.Terminal.Flight

namespace Workbench
namespace Terminal

/-!
# Runs ask for one terminal at a time

The count of creations and the requests to the host are the same along every run.  Between two
creations of a service the first one failed or its terminal was closed, so that calls, however many,
share one terminal as long as neither happens.
-/

/-- What the host is asked at a moment. -/
def Moment.asked (m : Moment) : List Options :=
  match m.finds? with
  | some service =>
    match m.before.services[service]? with
    | some s => [{ name := s.title, shellPath := s.helper.usablePath? m.before.env }]
    | none => []
  | none => []

namespace Run

theorem affair (run : Run) (action : Action) :
    World.Affair run.world action (run.step action).world := by
  rw [world_step]
  exact (run.happens action).affair

theorem meets (run : Run) (action : Action) (service : Nat) :
    World.Meets service run.world action (run.step action).world :=
  (run.affair action).meets run.sound service

theorem generation_le (run : Run) (action : Action) (service : Nat) :
    run.world.generation service ≤ (run.step action).world.generation service := by
  by_cases finds : run.world.findsIdle? action = some service
  · rcases (run.affair action).counts_of_some finds with ⟨_, _, _, one⟩
    omega
  · exact Nat.le_of_eq ((run.meets action service).generation_of_ne finds).symm

/-- The services that calls found without a terminal, in order. -/
def found (run : Run) : List Nat :=
  run.past.filterMap Moment.finds?

theorem found_step (run : Run) (action : Action) :
    (run.step action).found = run.found ++ (run.world.findsIdle? action).toList := by
  rw [found, past_step, List.filterMap_append, found]
  cases finds : run.world.findsIdle? action with
  | none => simp [Moment.finds?, finds]
  | some service => simp [Moment.finds?, finds]

/-- The host is asked what the moments of the run say, and services count their creations. -/
theorem counts (run : Run) :
    run.world.host.requests = run.past.flatMap Moment.asked ∧
    run.world.host.requests.length = run.found.length ∧
    ∀ service, run.world.generation service = run.found.count service := by
  induction run using Run.induction with
  | start env =>
      refine ⟨rfl, rfl, fun service => ?_⟩
      rfl
  | step run action inductionHypothesis =>
      rcases inductionHypothesis with ⟨requests, length, generations⟩
      have affair := run.affair action
      rw [found_step, past_step, List.flatMap_append, List.flatMap_singleton, ← requests]
      cases finds : run.world.findsIdle? action with
      | none =>
          have unasked := affair.requests_of_none finds
          have silent : Moment.asked ⟨run.world, action⟩ = [] := by
            simp only [Moment.asked, Moment.finds?, finds]
          refine ⟨?_, ?_, fun service => ?_⟩
          · rw [unasked, silent, List.append_nil]
          · rw [unasked, length, Option.toList_none, List.append_nil]
          · have same := (run.meets action service).generation_of_ne (by simp [finds])
            rw [same, generations, Option.toList_none, List.append_nil]
      | some finder =>
          rcases affair.counts_of_some finds with ⟨session, there, more, one⟩
          rcases Option.map_eq_some_iff.mp there with ⟨s, present, rfl⟩
          have once : Moment.asked ⟨run.world, action⟩ =
              [{ name := s.title, shellPath := s.helper.usablePath? run.world.env }] := by
            simp only [Moment.asked, Moment.finds?, finds, present]
          refine ⟨?_, ?_, fun service => ?_⟩
          · rw [more, once]
            rfl
          · rw [more, List.length_append, List.length_append, length]
            rfl
          · rw [Option.toList_some, List.count_append, ← generations]
            by_cases here : service = finder
            · subst here
              rw [one, List.count_singleton_self]
            · have same := (run.meets action service).generation_of_ne
                (by simp [finds, Ne.symm here])
              rw [same, List.count_singleton]
              simp [Ne.symm here]

/-- A service that has no terminal although it began a creation lost it, or never had it. -/
theorem exists_ends {run : Run} {service : Nat} {phase : Phase}
    (there : run.world.phase? service = some phase) (busy : phase ≠ .idle) {between : List Action}
    (unfound : ∀ m ∈ run.since between, m.finds? ≠ some service)
    (idle : (run.extend between).world.phase? service = some .idle) :
    ∃ m ∈ run.since between, m.Fails service (run.world.generation service) ∨
      m.Loses service (run.world.generation service) := by
  induction between generalizing run phase with
  | nil =>
      rw [extend_nil, there] at idle
      exact absurd (Option.some.inj idle) busy
  | cons action rest inductionHypothesis =>
      rw [since_cons] at unfound ⊢
      rw [extend_cons] at idle
      have meets := run.meets action service
      have elsewhere : run.world.findsIdle? action ≠ some service :=
        unfound ⟨run.world, action⟩ List.mem_cons_self
      have same := meets.generation_of_ne elsewhere
      rcases meets.phase? run.sound there with ⟨next, there'⟩
      by_cases resting : next = .idle
      · subst resting
        have moment : Moment.after ⟨run.world, action⟩ = (run.step action).world :=
          (run.world_step action).symm
        refine ⟨⟨run.world, action⟩, List.mem_cons_self, ?_⟩
        rw [← moment] at meets there' same
        rcases Moment.idle_cases run.sound meets there' with ⟨before, _⟩ | absent | ends
        · rw [there] at before
          exact absurd (Option.some.inj before) busy
        · rw [there] at absent
          cases absent
        · rwa [same] at ends
      · rcases inductionHypothesis there' resting
          (fun m member => unfound m (List.mem_cons_of_mem _ member)) idle with ⟨m, member, ends⟩
        rw [same] at ends
        exact ⟨m, List.mem_cons_of_mem _ member, ends⟩

/-- Between two creations of a service the first one ended. -/
theorem exists_ends_between {run : Run} {service : Nat} {first last : Action}
    {between : List Action} (begins : run.world.findsIdle? first = some service)
    (unfound : ∀ m ∈ (run.step first).since between, m.finds? ≠ some service)
    (beginsAgain : ((run.step first).extend between).world.findsIdle? last = some service) :
    ∃ m ∈ run.since (first :: between), m.Fails service (run.world.generation service + 1) ∨
      m.Loses service (run.world.generation service + 1) := by
  rcases World.findsIdle?_eq_some_iff.mp begins with ⟨_, _, _, _, _, _, _, idle⟩
  rcases World.findsIdle?_eq_some_iff.mp beginsAgain with ⟨_, _, _, _, _, _, _, idleAgain⟩
  have meets := run.meets first service
  rcases (run.affair first).counts_of_some begins with ⟨_, _, _, count⟩
  rcases meets.phase? run.sound idle with ⟨next, there⟩
  rw [since_cons]
  by_cases resting : next = .idle
  · subst resting
    have moment : Moment.after ⟨run.world, first⟩ = (run.step first).world :=
      (run.world_step first).symm
    refine ⟨⟨run.world, first⟩, List.mem_cons_self, ?_⟩
    rw [← moment] at meets there count
    rcases Moment.idle_cases run.sound meets there with ⟨_, unbegun⟩ | absent | ends
    · exact absurd begins unbegun
    · rw [idle] at absent
      cases absent
    · rwa [count] at ends
  · rcases exists_ends there resting unfound idleAgain with ⟨m, member, ends⟩
    rw [count] at ends
    exact ⟨m, List.mem_cons_of_mem _ member, ends⟩

end Run

end Terminal
end Workbench
