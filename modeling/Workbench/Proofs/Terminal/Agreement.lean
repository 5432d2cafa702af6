import Workbench.Proofs.Terminal.Delivery
import Workbench.Proofs.Terminal.Flight

namespace Workbench
namespace Terminal

/-!
# All who wait for a creation are told the same

A creation has one outcome, and whoever attended it and was not ended from outside returns that.
The outcome is a terminal exactly if there is one with a prepared environment and the service still
waited for this creation when it ended; then the terminal is in use from there on.  What a creation
reports that nobody waits for changes nothing but that creation.
-/

namespace Phase

variable {phase : Phase} {generation : Nat}

/-- A phase in which nobody waits for a creation takes nothing from it. -/
theorem eq_of_not_current (stale : phase.isCurrent generation = false) (terminal : Nat)
    (outcome : Outcome) :
    phase.record? generation terminal = none ∧ phase.release? generation = none ∧
      phase.settle generation outcome = phase := by
  refine ⟨record?_eq_none_iff.mpr stale, ?_, settle_of_not_current stale⟩
  refine release?_eq_none_iff.mpr fun slot creating => ?_
  rw [isCurrent_iff.mpr ⟨_, creating⟩] at stale
  cases stale

end Phase

namespace Outcome

theorem exists_of_result_ok {outcome : Outcome} (fine : outcome.result = .ok ()) :
    ∃ active, outcome = .ok active := by
  cases outcome with
  | error error => cases fine
  | ok active => exact ⟨active, rfl⟩

end Outcome

namespace World

variable {w w' : World} {service generation : Nat}

/-- A call waits for a creation that is not over, or returned what the outcome of the creation
says. -/
def Told (w : World) (c : Call) (service generation : Nat) : Prop :=
  (∃ place, c.state = .waiting generation place) ∧ w.outcome? service generation = none ∨
    ∃ outcome, w.outcome? service generation = some outcome ∧ c.state = .finished outcome.result

/-- A call goes on waiting for a creation, or was ended from outside, or returned what the outcome
of the creation says. -/
def Agrees (w : World) (c : Call) (service generation : Nat) : Prop :=
  (∃ place, c.state = .waiting generation place) ∨ c.state = .aborted ∨
    ∃ outcome, w.outcome? service generation = some outcome ∧ c.state = .finished outcome.result

theorem Told.agrees {c : Call} (told : w.Told c service generation) :
    w.Agrees c service generation := by
  rcases told with ⟨waiting, _⟩ | settled
  · exact Or.inl waiting
  · exact Or.inr (Or.inr settled)

/-- A call that attends a creation in its turn is told there, or was ended from outside. -/
theorem Verdict.told {call : Nat} {c : Call} {state : CallState}
    (verdict : Verdict call c w w' state) (awaits : w.awaited? c = some generation) :
    state = .aborted ∨ w'.Told { c with state } c.service generation := by
  cases verdict with
  | unchanged pointless same =>
      rcases pointless with settled | ⟨fresh, absent⟩
      · cases before : c.state with
        | fresh | waiting => rw [before] at settled; cases settled
        | finished | aborted => simp [awaited?, before] at awaits
      · simp [awaited?, fresh, phase?, absent] at awaits
  | aborted => exact Or.inl rfl
  | served fresh ready => simp [awaited?, fresh, ready] at awaits
  | refused fresh disposed => simp [awaited?, fresh, disposed] at awaits
  | @waiting number place _ _ attends unsettled =>
      rw [attends.awaits] at awaits
      cases awaits
      exact Or.inr (Or.inl ⟨⟨place, rfl⟩, unsettled⟩)
  | @answered number _ _ outcome attends settled =>
      rw [attends.awaits] at awaits
      cases awaits
      exact Or.inr (Or.inr ⟨outcome, settled, rfl⟩)

/-- A call that attends a creation and is not to be ended is told there. -/
theorem Attends.told {call : Nat} {c : Call} {w₁ w₂ : World}
    (attends : Attends call c generation w w₁ w₂ w') :
    ∃ state, w'.calls[call]? = some { c with state } ∧
      w'.Told { c with state } c.service generation := by
  rcases attends.arrives.call attends.found with ⟨⟨place, waiting⟩, _⟩
  rw [← attends.progress.confined.calls] at waiting
  cases attends.attended with
  | pending unsettled => exact ⟨_, waiting, Or.inl ⟨⟨place, rfl⟩, unsettled⟩⟩
  | answered settled answers =>
      have ended := answers.call waiting
      refine ⟨_, ended, Or.inr ⟨_, ?_, rfl⟩⟩
      rw [answers.sessions.outcome?, settled]

/-- Agreement is kept by every action. -/
theorem Agrees.kept {action : Action} {call : Nat} {c : Call}
    (agrees : w.Agrees c service generation) (happens : Happens w action w') (sound : w.Sound)
    (found : w.calls[call]? = some c) (about : c.service = service) :
    ∃ c', w'.calls[call]? = some c' ∧ c'.service = service ∧
      w'.Agrees c' service generation := by
  have later {c' : Call} (same : c'.state = c.state)
      (settled : c.state.isOver = true) : w'.Agrees c' service generation := by
    rcases agrees with ⟨place, waiting⟩ | aborted | ⟨outcome, settled, finished⟩
    · rw [waiting] at settled
      cases settled
    · exact Or.inr (Or.inl (same.trans aborted))
    · exact Or.inr (Or.inr
        ⟨outcome, happens.affair.outcome? sound settled, same.trans finished⟩)
  cases settled : c.state.isOver with
  | true =>
      rcases happens.calls_of_over found settled with ⟨c', found', service', _, same⟩
      exact ⟨c', found', service'.trans about, later same settled⟩
  | false =>
      have waits : ∃ place, c.state = .waiting generation place := by
        rcases agrees with waits | aborted | ⟨outcome, _, finished⟩
        · exact waits
        · rw [aborted] at settled
          cases settled
        · rw [finished] at settled
          cases settled
      rcases waits with ⟨place, waiting⟩
      rcases happens.kept found with ⟨c', found', service', _, same | ⟨_, verdict⟩⟩
      · exact ⟨c', found', service'.trans about, Or.inl ⟨place, same.trans waiting⟩⟩
      · have awaits : w.awaited? c = some generation := by rw [awaited?, waiting]
        refine ⟨c', found', service'.trans about, ?_⟩
        rcases verdict.told awaits with aborted | told
        · exact Or.inr (Or.inl aborted)
        · rw [about] at told
          exact told.agrees

end World

namespace Moment

variable {m : Moment} {service generation : Nat}

/-- A moment leads from one sound state to another. -/
structure Lawful (m : Moment) : Prop where
  before : m.before.Sound
  happens : World.Happens m.before m.action m.after
  after : m.after.Sound

/-- A call that is not to be ended has its turn and attends a creation of its service. -/
structure AttendedBy (m : Moment) (call : Nat) (c : Call) (service generation : Nat) : Prop where
  turn : m.action = .poll call
  found : m.before.calls[call]? = some c
  wanted : c.cancelled = false
  about : c.service = service
  awaits : m.before.awaited? c = some generation

/-- Nothing changes in any session but the creation itself. -/
structure Unmoved (m : Moment) (service generation : Nat) : Prop where
  phase : m.after.phase? service = m.before.phase? service
  count : m.after.generation service = m.before.generation service
  numbers : ∀ number, number ≠ generation →
    m.after.creation? service number = m.before.creation? service number
  others : ∀ other, other ≠ service → m.after.session? other = m.before.session? other

theorem AttendedBy.attends {call : Nat} {c : Call}
    (attended : m.AttendedBy call c service generation) (lawful : m.Lawful) :
    ∃ w₁ w₂, World.Attends call c generation m.before w₁ w₂ m.after := by
  have happens := lawful.happens
  rw [attended.turn] at happens
  exact happens.turn.attends attended.found attended.wanted attended.awaits

/-- A call that attends a creation for which its service does not wait moves nothing else. -/
theorem AttendedBy.unmoved {call : Nat} {c : Call}
    (attended : m.AttendedBy call c service generation) (lawful : m.Lawful)
    (stale : ¬ m.Awaits service generation) : m.Unmoved service generation := by
  rcases attended.attends lawful with ⟨w₁, w₂, attends⟩
  rw [Awaits, attended.turn, ← attended.about] at stale
  rcases attends.stale stale with ⟨_, phase, count, _⟩
  have spares := attends.spares lawful.before
  rw [← attended.about]
  exact ⟨phase, count, spares.numbers, spares.others⟩

/-- What a call is told that attends a creation, and what it does with the terminal. -/
theorem AttendedBy.served {call : Nat} {c c' : Call}
    (attended : m.AttendedBy call c service generation) (lawful : m.Lawful)
    (within : ∀ {active : Active}, m.after.outcome? service generation = some (.ok active) →
      active.terminal < m.after.host.next)
    (found' : m.after.calls[call]? = some c') (fine : c'.state = .finished (.ok ())) :
    ∃ active earlier, m.after.outcome? service generation = some (.ok active) ∧
      m.after.terminal? service generation = some active.terminal ∧
      m.before.uses active.terminal <+: earlier ∧
      m.after.uses active.terminal = earlier ++ c.request.uses active.shell := by
  have happens := lawful.happens
  rcases attended with ⟨turn, found, wanted, rfl, awaits⟩
  rw [turn] at happens
  rcases (happens.turn.verdict found).1 with ⟨state, there, verdict⟩
  rw [found'] at there
  cases there
  dsimp only at fine
  subst fine
  generalize after : CallState.finished (.ok ()) = state at verdict
  cases verdict with
  | unchanged =>
      rw [World.awaited?, ← after] at awaits
      cases awaits
  | aborted | refused | waiting => cases after
  | served fresh ready => simp [World.awaited?, fresh, ready] at awaits
  | @answered number w₁ w₂ outcome attends settled answers =>
      have same := attends.awaits
      rw [awaits] at same
      cases same
      rcases Outcome.exists_of_result_ok (CallState.finished.inj after).symm with ⟨active, rfl⟩
      have record : m.after.host.terminals =
          (Effect.use active.terminal (c.request.uses active.shell)).terminals
            w₂.host.terminals := answers.terminals
      have inside := within settled
      rw [World.next_use record] at inside
      exact ⟨active, w₂.uses active.terminal, settled,
        (World.completed_of_ok lawful.after settled).2, attends.uses_grow active.terminal,
        World.uses_use_self record inside⟩

/-! ## How a creation ends -/

/-- What a creation ends with, given whether its service waits for it then. -/
inductive Concludes (m : Moment) (service generation : Nat) : Outcome → Prop
  /-- Its terminal is in use. -/
  | usable {active : Active} (awaits : m.Awaits service generation)
      (completed : m.after.Completed service generation)
      (handed : m.after.terminal? service generation = some active.terminal)
      (ready : m.after.phase? service = some (.ready active)) :
      Concludes m service generation (.ok active)
  /-- It failed, and its service has no terminal. -/
  | failed {error : Error} (awaits : m.Awaits service generation)
      (latest : m.after.generation service = generation)
      (incomplete : ¬ m.after.Completed service generation)
      (idle : m.after.phase? service = some .idle) :
      Concludes m service generation (.error error)
  /-- Its service did not wait for it any more. -/
  | stale {error : Error} (stale : ¬ m.Awaits service generation)
      (unmoved : m.Unmoved service generation) : Concludes m service generation (.error error)

theorem Settles.concludes {outcome : Outcome} (settles : m.Settles service generation outcome)
    (lawful : m.Lawful) : m.Concludes service generation outcome := by
  have settled := settles.2
  rcases lawful.happens.affair.attends_of_settles lawful.before settles.1 settled with
    ⟨call, c, w₁, w₂, turn, rfl, attends⟩
  by_cases awaits : m.Awaits c.service generation
  · have awaitsAt := awaits
    rw [Awaits, turn] at awaitsAt
    cases attends.current lawful.before awaitsAt with
    | waiting current =>
        rw [current.unsettled lawful.after] at settled
        cases settled
    | failed settled' idle incomplete =>
        rw [settled'] at settled
        cases settled
        exact .failed awaits (attends.generation lawful.before awaitsAt) incomplete idle
    | usable settled' ready =>
        rw [settled'] at settled
        cases settled
        rcases World.completed_of_ok lawful.after settled' with ⟨completed, handed⟩
        exact .usable awaits completed handed ready
  · have stale := awaits
    rw [Awaits, turn] at stale
    rcases attends.stale stale with ⟨_, phase, count, unchanged | ⟨error, failed⟩⟩
    · rw [settles.1, settled] at unchanged
      cases unchanged
    · rw [settled] at failed
      cases failed
      have spares := attends.spares lawful.before
      exact .stale awaits ⟨phase, count, spares.numbers, spares.others⟩

end Moment

namespace Run

theorem lawful (run : Run) (action : Action) : Moment.Lawful ⟨run.world, action⟩ :=
  ⟨run.sound, run.happens action, (run.happens action).sound run.sound⟩

theorem lawful_of_mem {run : Run} {m : Moment} (member : m ∈ run.past) : m.Lawful := by
  rcases happens_of_mem member with ⟨before, happens⟩
  exact ⟨before, happens, happens.sound before⟩

/-- Every moment is the last one of a run on which the rest follows. -/
theorem exists_extend_of_mem {run : Run} {m : Moment} (member : m ∈ run.past) :
    ∃ (next : Run) (later : List Action), next.world = m.after ∧ run = next.extend later := by
  rcases exists_of_mem_past member with ⟨earlier, later, moment, rest⟩
  refine ⟨earlier.step m.action, later, ?_, rest⟩
  rw [moment, world_step]
  rfl

theorem outcome?_extend (run : Run) {service generation : Nat} {outcome : Outcome}
    (settled : run.world.outcome? service generation = some outcome) (more : List Action) :
    (run.extend more).world.outcome? service generation = some outcome := by
  induction more generalizing run with
  | nil => rwa [extend_nil]
  | cons action rest inductionHypothesis =>
      rw [extend_cons]
      have happens := run.happens action
      rw [← world_step] at happens
      exact inductionHypothesis (run.step action) (happens.affair.outcome? run.sound settled)

/-- What a call agrees with it goes on to agree with. -/
theorem agrees_extend (run : Run) {service generation call : Nat} {c : Call}
    (agrees : run.world.Agrees c service generation) (found : run.world.calls[call]? = some c)
    (about : c.service = service) (more : List Action) :
    ∃ c', (run.extend more).world.calls[call]? = some c' ∧
      (run.extend more).world.Agrees c' service generation := by
  induction more generalizing run c with
  | nil => exact ⟨c, by rwa [extend_nil], by rwa [extend_nil]⟩
  | cons action rest inductionHypothesis =>
      rw [extend_cons]
      have happens := run.happens action
      rw [← world_step] at happens
      rcases agrees.kept happens run.sound found about with ⟨c', found', about', agrees'⟩
      exact inductionHypothesis (run.step action) agrees' found' about'

/-- A call that finds its service without a terminal begins the next creation. -/
theorem begins_next (run : Run) {service call : Nat} {c : Call}
    (idle : run.world.phase? service = some .idle) (found : run.world.calls[call]? = some c)
    (fresh : c.state = .fresh) (wanted : c.cancelled = false) (about : c.service = service) :
    (run.world.poll call).generation service = run.world.generation service + 1 ∧
      (run.world.poll call).host.requests.length = run.world.host.requests.length + 1 := by
  have finds : run.world.findsIdle? (.poll call) = some service :=
    World.findsIdle?_eq_some_iff.mpr ⟨call, c, rfl, found, fresh, wanted, about, idle⟩
  rcases (run.happens (.poll call)).affair.counts_of_some finds with ⟨_, _, requests, count⟩
  refine ⟨count, ?_⟩
  have more := congrArg List.length requests
  rw [List.length_append, List.length_singleton] at more
  exact more

/-- A call that attends a creation agrees with it to the end of the run. -/
theorem agrees_of_attended {run : Run} {m : Moment} (member : m ∈ run.past)
    {service generation call : Nat} {c : Call}
    (attended : m.AttendedBy call c service generation) :
    (∃ c', m.after.calls[call]? = some c' ∧ m.after.Told c' service generation) ∧
      ∃ c', run.world.calls[call]? = some c' ∧ run.world.Agrees c' service generation := by
  rcases attended.attends (lawful_of_mem member) with ⟨w₁, w₂, attends⟩
  rcases attends.told with ⟨state, found', told⟩
  rcases exists_extend_of_mem member with ⟨next, later, after, rest⟩
  have about := attended.about
  subst about
  refine ⟨⟨_, found', told⟩, ?_⟩
  have agrees := told.agrees
  rw [← after] at found' agrees
  rw [rest]
  exact next.agrees_extend agrees found' rfl later

/-- Along every run a creation has one outcome.  A call that attends it in its turn waits on while
there is none, and returns it once there is; whoever attended it waits for it, was ended from
outside or returned that outcome, and one that returned without an error used the terminal of this
creation.  The outcome is that terminal exactly if the host handed it out, the environment was
prepared and the service waited for this creation when it ended; then the terminal is in use.  If
the creation failed although its service waited for it, there is no terminal, and the next call
begins the next creation.  If the service did not wait for it, the outcome is an error, and nobody
who goes on with it moves anything else in any session. -/
theorem outcomes_agree (run : Run) (service generation : Nat) :
    (∀ m ∈ run.past, ∀ call c, m.AttendedBy call c service generation →
      (∃ c', m.after.calls[call]? = some c' ∧ m.after.Told c' service generation) ∧
      (∃ c', run.world.calls[call]? = some c' ∧ run.world.Agrees c' service generation) ∧
      ∀ c', m.after.calls[call]? = some c' → c'.state = .finished (.ok ()) →
        ∃ active earlier, m.after.outcome? service generation = some (.ok active) ∧
          m.after.terminal? service generation = some active.terminal ∧
          m.before.uses active.terminal <+: earlier ∧
          m.after.uses active.terminal = earlier ++ c.request.uses active.shell) ∧
    (∀ m ∈ run.past, ∀ outcome, m.Settles service generation outcome →
      run.world.outcome? service generation = some outcome ∧
      ((∃ active, outcome = .ok active) ↔
        m.after.Completed service generation ∧ m.Awaits service generation) ∧
      ∀ active, outcome = .ok active → m.after.phase? service = some (.ready active) ∧
        m.after.terminal? service generation = some active.terminal) ∧
    (∀ m ∈ run.past, m.Fails service generation → m.after.phase? service = some .idle ∧
      ∀ (call : Nat) (c : Call), m.after.calls[call]? = some c → c.state = .fresh →
        c.cancelled = false → c.service = service →
        (m.after.poll call).generation service = generation + 1 ∧
        (m.after.poll call).host.requests.length = m.after.host.requests.length + 1) ∧
    (∀ m ∈ run.past, ¬ m.Awaits service generation →
      (∀ call c, m.AttendedBy call c service generation → m.Unmoved service generation) ∧
      ∀ outcome, m.Settles service generation outcome → ∃ error, outcome = .error error) ∧
    (∀ (phase : Phase) (terminal : Nat) (outcome : Outcome), phase.isCurrent generation = false →
      phase.record? generation terminal = none ∧ phase.release? generation = none ∧
        phase.settle generation outcome = phase) := by
  refine ⟨?_, ?_, ?_, ?_, ?_⟩
  · intro m member call c attended
    rcases agrees_of_attended member attended with ⟨told, agrees⟩
    refine ⟨told, agrees, fun c' found' fine => ?_⟩
    have lawful := lawful_of_mem member
    refine attended.served lawful (fun {active} settled => ?_) found' fine
    rcases exists_extend_of_mem member with ⟨next, later, after, _⟩
    rw [← after] at settled ⊢
    rcases next.ledger.order?_of_ok next.sound settled with ⟨_, _, _, inside⟩
    exact inside
  · intro m member outcome settles
    rcases exists_extend_of_mem member with ⟨next, later, after, rest⟩
    refine ⟨?_, ?_⟩
    · have settled := settles.2
      rw [← after] at settled
      rw [rest]
      exact next.outcome?_extend settled later
    · cases settles.concludes (lawful_of_mem member) with
      | @usable active awaits completed handed ready =>
          refine ⟨⟨fun _ => ⟨completed, awaits⟩, fun _ => ⟨active, rfl⟩⟩, fun other same => ?_⟩
          cases same
          exact ⟨ready, handed⟩
      | failed _ _ incomplete =>
          refine ⟨⟨fun usable => ?_, fun complete => absurd complete.1 incomplete⟩, nofun⟩
          rcases usable with ⟨_, same⟩
          cases same
      | stale stale =>
          refine ⟨⟨fun usable => ?_, fun complete => absurd complete.2 stale⟩, nofun⟩
          rcases usable with ⟨_, same⟩
          cases same
  · rintro m member ⟨awaits, error, settles⟩
    cases settles.concludes (lawful_of_mem member) with
    | failed _ latest _ idle =>
        refine ⟨idle, fun call c found fresh wanted about => ?_⟩
        rcases exists_extend_of_mem member with ⟨next, later, after, _⟩
        rw [← after] at idle found latest ⊢
        have begins := next.begins_next idle found fresh wanted about
        rwa [latest] at begins
    | stale stale => exact absurd awaits stale
  · intro m member stale
    have lawful := lawful_of_mem member
    refine ⟨fun call c attended => attended.unmoved lawful stale, fun outcome settles => ?_⟩
    cases settles.concludes lawful with
    | usable awaits | failed awaits => exact absurd awaits stale
    | stale => exact ⟨_, rfl⟩
  · intro phase terminal outcome stale
    exact Phase.eq_of_not_current stale terminal outcome

/-- A run in which the terminal of the first creation is closed while its environment is being
prepared, so that another creation is under way when the first one ends. -/
def closedEarly : Run where
  actions :=
    [.addService "Lint" none (.fixed none), .delay 0 5, .call 0 (.show true), .poll 0, .close 0,
      .delay 7 5, .call 0 (.sendText "make"), .poll 1, .pass 5]

theorem closedEarly_unmoved :
    ∃ m ∈ (closedEarly.step (.poll 0)).past, m.before.phase? 0 = some (.creating 2 none) ∧
      m.after.outcome? 0 1 = some (.error .terminalClosed) ∧ m.Unmoved 0 1 := by
  let m : Moment := ⟨closedEarly.world, .poll 0⟩
  let c : Call := { service := 0, request := .show true, state := .waiting 1 0 }
  have member : m ∈ (closedEarly.step (.poll 0)).past := by
    rw [past_step]
    exact List.mem_append_right _ (List.mem_singleton_self _)
  have creating : m.before.phase? 0 = some (.creating 2 none) := by decide +kernel
  have attended : m.AttendedBy 0 c 0 1 :=
    { turn := rfl
      found := by decide +kernel
      wanted := rfl
      about := rfl
      awaits := rfl }
  have stale : ¬ m.Awaits 0 1 := by
    rintro (⟨slot, current⟩ | ⟨finds, _⟩)
    · rw [creating] at current
      cases current
    · have unfound : m.before.findsIdle? m.action = none := by decide +kernel
      rw [unfound] at finds
      cases finds
  rcases outcomes_agree (closedEarly.step (.poll 0)) 0 1 with ⟨_, _, _, unmoved, _⟩
  exact ⟨m, member, creating, by decide +kernel, (unmoved m member stale).1 0 c attended⟩

end Run

end Terminal
end Workbench
