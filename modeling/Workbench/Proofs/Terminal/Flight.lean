import Workbench.Proofs.Terminal.Moments

namespace Workbench
namespace Terminal

/-!
# One creation at a time

The host is asked for a terminal exactly when a call finds its service without one.  That a service
is without a terminal again after it began a creation has one of two reasons: the creation failed
while the service waited for it, or the service heard that its terminal was closed.
-/

namespace World

variable {w w' : World} {service : Nat} {action : Action}

/-! ## What an action means for one service -/

/-- What becomes of the session of a service: apart from the turn of a call that attends one of its
creations it is made, or left without a terminal. -/
inductive Meets (service : Nat) (w : World) (action : Action) (w' : World) : Prop
  | apart (unfound : w.findsIdle? action ≠ some service)
      (same : w'.session? service = w.session? service)
  | attends {call : Nat} {c : Call} {generation : Nat} {w₁ w₂ : World} (turn : action = .poll call)
      (about : c.service = service) (attends : Attends call c generation w w₁ w₂ w')
  | made {title : String} {resource : Option Url} {helper : Helper}
      (unfound : w.findsIdle? action ≠ some service) (absent : w.session? service = none)
      (present : w'.session? service = some { title, resource, helper })
  /-- It is disposed, or it hears that its terminal was closed. -/
  | vacated {s : Service} {phase : Phase} (unfound : w.findsIdle? action ≠ some service)
      (before : w.session? service = some s)
      (after : w'.session? service = some { s with phase })
      (why : phase = .disposed ∨
        phase = .idle ∧ ∃ terminal, Moment.HearsClosed ⟨w, action⟩ service terminal)

theorem Affair.meets (affair : Affair w action w') (sound : w.Sound) (service : Nat) :
    Meets service w action w' := by
  have unfound (none : w.findsIdle? action = none) : w.findsIdle? action ≠ some service := by
    intro finds
    rw [none] at finds
    cases finds
  cases affair with
  | @attends call c number w₁ w₂ turn attends =>
      by_cases here : service = c.service
      · exact .attends turn here.symm attends
      · refine .apart ?_ ((attends.spares sound).others service here)
        intro finds
        rw [turn] at finds
        rcases findsIdle?_eq_some_iff.mp finds with ⟨_, _, same, found, _, _, about, _⟩
        cases same
        rw [attends.found] at found
        cases found
        exact here about.symm
  | same none same => exact .apart (unfound none) (same service)
  | @added made _ _ _ none adds =>
      by_cases here : service = made
      · subst here
        exact .made (unfound none) adds.absent adds.present
      · exact .apart (unfound none) (adds.others service here)
  | @disposed made s none disposes =>
      by_cases here : service = made
      · subst here
        exact .vacated (unfound none) disposes.replaces.before disposes.replaces.after (Or.inl rfl)
      · exact .apart (unfound none) (disposes.replaces.others service here)
  | @heard made terminal s none hearsClosed hears =>
      rcases hears.replaces with ⟨phase, quiet, replaces⟩
      by_cases here : service = made
      · subst here
        refine .vacated (unfound none) replaces.before replaces.after ?_
        rcases quiet with idle | disposed
        · exact Or.inr ⟨idle, terminal, hearsClosed⟩
        · exact Or.inl disposed
      · exact .apart (unfound none) (replaces.others service here)

/-! ## Counting creations -/

/-- An action in which no call finds its service without a terminal asks the host for nothing. -/
theorem Affair.requests_of_none (affair : Affair w action w') (none : w.findsIdle? action = none) :
    w'.host.requests = w.host.requests := by
  cases affair with
  | @attends call c number w₁ w₂ turn attends =>
      subst turn
      rcases attends.arrives.cases attends.found attends.wanted with
        ⟨_, requests, _⟩ | ⟨_, _, _, finds, _⟩
      · rw [attends.sessions.2, attends.progress.confined.requests, requests]
      · rw [none] at finds
        cases finds
  | same _ _ requests => exact requests
  | added _ adds => exact adds.requests
  | disposed _ disposes => exact disposes.requests
  | heard _ _ hears => exact hears.requests

/-- A call that finds its service without a terminal asks the host for one, once. -/
theorem Affair.counts_of_some (affair : Affair w action w')
    (finds : w.findsIdle? action = some service) :
    ∃ s, w.session? service = some s ∧
      w'.host.requests = w.host.requests ++
        [{ name := s.title, shellPath := s.helper.usablePath? w.env }] ∧
      w'.generation service = w.generation service + 1 := by
  cases affair with
  | @attends call c number w₁ w₂ turn attends =>
      subst turn
      rcases attends.arrives.cases attends.found attends.wanted with
        ⟨_, _, none⟩ | ⟨begun, s, creation, finds', rfl, begins, sits⟩
      · rw [none] at finds
        cases finds
      · rw [finds] at finds'
        cases finds'
        have confined := attends.progress.confined
        rcases begins.counts with ⟨before, after⟩
        refine ⟨s, begins.replaces.before, ?_, ?_⟩
        · rw [attends.sessions.2, confined.requests, sits.host, begins.requests, begins.options]
        · rw [attends.sessions.1.generation, confined.counts, sits.sessions.generation, after,
            before]
  | same none | added none | disposed none | heard none =>
      rw [none] at finds
      cases finds

namespace Meets

/-- A service counts no creation unless a call finds it without a terminal. -/
theorem generation_of_ne (meets : Meets service w action w')
    (elsewhere : w.findsIdle? action ≠ some service) :
    w'.generation service = w.generation service := by
  cases meets with
  | apart _ same => rw [World.generation, World.generation, same]
  | attends turn about attends =>
      subst turn about
      rcases attends.arrives.cases attends.found attends.wanted with
        ⟨same, _, _⟩ | ⟨_, _, _, finds, _⟩
      · rw [attends.sessions.1.generation, attends.progress.confined.counts, same.generation]
      · exact absurd finds elsewhere
  | made _ absent present =>
      rw [World.generation, World.generation, absent, present]
      rfl
  | vacated _ before after => rw [generation_eq before, generation_eq after]

/-! ## Services without a terminal -/

theorem phase? (meets : Meets service w action w') (sound : w.Sound) {phase : Phase}
    (there : w.phase? service = some phase) : ∃ phase', w'.phase? service = some phase' := by
  cases meets with
  | apart _ same => exact ⟨phase, by rw [World.phase?, same, ← World.phase?, there]⟩
  | @attends call c number w₁ w₂ _ about attends =>
      subst about
      by_cases awaits : w.AwaitsAt (.poll call) c.service number
      · cases attends.current sound awaits with
        | waiting current =>
            rcases current with ⟨slot, creating⟩
            exact ⟨_, creating⟩
        | failed _ idle => exact ⟨_, idle⟩
        | usable _ ready => exact ⟨_, ready⟩
      · exact ⟨phase, by rw [(attends.stale awaits).2.1, there]⟩
  | made _ _ present => exact ⟨_, phase?_eq present⟩
  | vacated _ _ after => exact ⟨_, phase?_eq after⟩

/-- A service that is without a terminal, or disposed, begins to create one only if a call finds it
so. -/
theorem resting (meets : Meets service w action w')
    (resting : w.phase? service = some .idle ∨ w.phase? service = some .disposed)
    (elsewhere : w.findsIdle? action ≠ some service) :
    w'.phase? service = some .idle ∨ w'.phase? service = some .disposed := by
  cases meets with
  | apart _ same => rwa [World.phase?, same]
  | @attends call c number w₁ w₂ turn about attends =>
      subst turn about
      have stale : ¬ w.AwaitsAt (.poll call) c.service number := by
        rintro (⟨slot, creating⟩ | ⟨finds, _⟩)
        · rw [creating] at resting
          rcases resting with idle | disposed
          · cases idle
          · cases disposed
        · exact elsewhere finds
      rwa [(attends.stale stale).2.1]
  | made _ _ present => exact Or.inl (phase?_eq present)
  | vacated _ _ after why =>
      rcases why with rfl | ⟨rfl, _⟩
      · exact Or.inr (phase?_eq after)
      · exact Or.inl (phase?_eq after)

end Meets

end World

namespace Moment

variable {m : Moment} {service : Nat}

/-- A service is without a terminal because it was so before, or because it is new, or because its
latest creation failed or its terminal was closed. -/
theorem idle_cases (sound : m.before.Sound)
    (meets : World.Meets service m.before m.action m.after)
    (idle : m.after.phase? service = some .idle) :
    (m.before.phase? service = some .idle ∧ m.finds? ≠ some service) ∨
    m.before.phase? service = none ∨
    m.Fails service (m.after.generation service) ∨
    m.Loses service (m.after.generation service) := by
  cases meets with
  | apart unfound same =>
      rw [World.phase?, same] at idle
      exact Or.inl ⟨idle, unfound⟩
  | @attends call c number w₁ w₂ turn about attends =>
      subst about
      by_cases awaits : m.before.AwaitsAt (.poll call) c.service number
      · have awaiting : m.Awaits c.service number := by
          rw [Awaits, turn]
          exact awaits
        cases attends.current sound awaits with
        | waiting current =>
            rcases current with ⟨slot, creating⟩
            rw [creating] at idle
            cases idle
        | failed settled _ _ =>
            refine Or.inr (Or.inr (Or.inl ?_))
            rw [attends.generation sound awaits]
            exact ⟨awaiting, _, awaiting.unsettled sound, settled⟩
        | usable _ ready =>
            rw [ready] at idle
            cases idle
      · rcases attends.stale awaits with ⟨none, phase, _⟩
        refine Or.inl ⟨phase.symm.trans idle, ?_⟩
        rw [finds?, turn, none]
        intro finds
        cases finds
  | made _ absent =>
      refine Or.inr (Or.inl ?_)
      rw [World.phase?, absent]
      rfl
  | vacated _ before after why =>
      rcases why with rfl | ⟨_, terminal, hearsClosed⟩
      · rw [World.phase?_eq after] at idle
        cases idle
      · refine Or.inr (Or.inr (Or.inr ⟨terminal, ?_, hearsClosed⟩))
        have held := sound.held hearsClosed.2.2
        rwa [World.generation_eq before, ← World.generation_eq after] at held

end Moment

end Terminal
end Workbench
