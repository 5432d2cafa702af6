import Mathlib.Logic.ExistsUnique
import Workbench.Proofs.Terminal.Ledger

namespace Workbench
namespace Terminal

/-!
# Every terminal of a run is accounted for

A terminal that the host hands out to a service is held by that service, or the service heard that
it was closed while it held it, or the service disposed it, once.  Which of these is the case may
change along a run, but never are two of them the case at once, and never none.  The only terminals
that can be lost are those of a service that is dropped before it is disposed.
-/

namespace Moment

/-- A service that is registered at the host hears that the terminal which it holds is closed. -/
def HearsClosed (m : Moment) (service terminal : Nat) : Prop :=
  m.action = .close terminal ∧ service ∈ m.before.host.closeListeners ∧
    m.before.held? service = some terminal

/-- A service disposes a terminal: the host counts one disposal more after a turn of one of its
calls, or after its own disposal. -/
def Disposes (m : Moment) (service terminal : Nat) : Prop :=
  m.before.actor? m.action = some service ∧
    m.after.disposals terminal = m.before.disposals terminal + 1

end Moment

namespace Run

/-- Whether a terminal was closed while it was held, and its service heard of it. -/
def Closed (run : Run) (terminal : Nat) : Prop :=
  ∃ m ∈ run.past, ∃ service, m.HearsClosed service terminal

/-- Services without any reference to them are disposed at every moment. -/
def DisposesDropped (run : Run) : Prop :=
  ∀ m ∈ run.past, ∀ s ∈ m.after.services, s.dropped = true → s.phase = .disposed

theorem closed_step {run : Run} {action : Action} {terminal : Nat} :
    (run.step action).Closed terminal ↔
      run.Closed terminal ∨ ∃ service, Moment.HearsClosed ⟨run.world, action⟩ service terminal := by
  constructor
  · rintro ⟨m, member, service, hears⟩
    rw [past_step, List.mem_append, List.mem_singleton] at member
    rcases member with earlier | rfl
    · exact Or.inl ⟨m, earlier, service, hears⟩
    · exact Or.inr ⟨service, hears⟩
  · rintro (⟨m, earlier, service, hears⟩ | ⟨service, hears⟩)
    · exact ⟨m, by rw [past_step]; exact List.mem_append_left _ earlier, service, hears⟩
    · exact ⟨_, by rw [past_step]; exact List.mem_append_right _ (List.mem_singleton_self _),
        service, hears⟩

/-- What an action does if nobody hears of a closed terminal, or who hears of it. -/
theorem changes_or_hears {w : World} {closed : Nat → Prop} (sound : w.Sound)
    (ledger : World.Ledger closed w) (action : Action) :
    (∀ terminal service, ¬ Moment.HearsClosed ⟨w, action⟩ service terminal) ∧
      (∀ service, (∀ other, w.actor? action = some other → other = service) →
        World.Changes service w (w.perform action)) ∨
    ∃ service terminal s, Moment.HearsClosed ⟨w, action⟩ service terminal ∧
      World.Hears service w (w.perform action) s := by
  have happens := World.perform_happens sound (ledger.holder sound) action
  generalize w.perform action = w' at happens ⊢
  by_cases heard : ∃ terminal service, Moment.HearsClosed ⟨w, action⟩ service terminal
  · rcases heard with ⟨terminal, service, hears⟩
    rcases hears with ⟨rfl, listening, held⟩
    cases happens with
    | heard listening' held' hears =>
        exact Or.inr ⟨_, terminal, _, ⟨rfl, listening', held'⟩, hears⟩
    | unheard nobody => exact absurd held (nobody service listening)
    | quiet _ noReport => exact absurd rfl (noReport terminal)
  · refine Or.inl ⟨fun terminal service hears => heard ⟨terminal, service, hears⟩, ?_⟩
    intro service actor
    refine happens.changes sound ?_ actor
    intro terminal same other listening held
    exact heard ⟨terminal, other, same, listening, held⟩

/-- Every action leaves the services sound and the ledger in order; a terminal that a service hears
to be closed moves to another page. -/
theorem sound_ledger_perform {w : World} {closed : Nat → Prop} (sound : w.Sound)
    (ledger : World.Ledger closed w) (action : Action) :
    (w.perform action).Sound ∧
      World.Ledger
        (fun terminal =>
          closed terminal ∨ ∃ service, Moment.HearsClosed ⟨w, action⟩ service terminal)
        (w.perform action) := by
  rcases changes_or_hears sound ledger action with
    ⟨unheard, changes⟩ | ⟨service, terminal, s, heard, hears⟩
  · have unchanged : (fun terminal =>
        closed terminal ∨ ∃ service, Moment.HearsClosed ⟨w, action⟩ service terminal) =
          closed := by
      funext terminal
      refine propext (or_iff_left ?_)
      rintro ⟨service, hears⟩
      exact unheard terminal service hears
    have actor : ∀ other, w.actor? action = some other →
        other = (w.actor? action).getD 0 := by
      intro other concerned
      rw [concerned, Option.getD_some]
    rw [unchanged]
    exact ledger.changes sound (changes _ actor)
  · have more : (fun other =>
        closed other ∨ ∃ service, Moment.HearsClosed ⟨w, action⟩ service other) =
          fun other => closed other ∨ other = terminal := by
      funext other
      refine propext (or_congr_right ⟨?_, ?_⟩)
      · rintro ⟨_, same, _⟩
        rw [heard.1] at same
        cases same
        rfl
      · rintro rfl
        exact ⟨service, heard⟩
    have happens := World.perform_happens sound (ledger.holder sound) action
    rw [more]
    exact ⟨happens.sound sound, ledger.hears sound heard.2.2 hears⟩

/-- All services of a run are sound, and its ledger is kept. -/
theorem sound_ledger (run : Run) : run.world.Sound ∧ World.Ledger run.Closed run.world := by
  induction run using Run.induction with
  | start env =>
      refine ⟨⟨fun {service s} found => ?_⟩, ?_⟩
      · cases found
      · exact
          { told := nofun
            distinct := nofun
            covered := nofun
            activatedOnce := List.nodup_nil
            activatedWithin := nofun
            accounted := nofun
            closedWithin := fun {terminal} shut => by
              rcases shut with ⟨m, member, _⟩
              cases member }
  | step run action inductionHypothesis =>
      have closed : (run.step action).Closed = fun terminal =>
          run.Closed terminal ∨
            ∃ service, Moment.HearsClosed ⟨run.world, action⟩ service terminal :=
        funext fun _ => propext closed_step
      rw [world_step, closed]
      exact sound_ledger_perform inductionHypothesis.1 inductionHypothesis.2 action

theorem sound (run : Run) : run.world.Sound :=
  run.sound_ledger.1

theorem ledger (run : Run) : World.Ledger run.Closed run.world :=
  run.sound_ledger.2

/-- What happens at each moment of a run. -/
theorem happens (run : Run) (action : Action) :
    World.Happens run.world action (run.world.perform action) :=
  World.perform_happens run.sound (run.ledger.holder run.sound) action

theorem happens_of_mem {run : Run} {m : Moment} (member : m ∈ run.past) :
    m.before.Sound ∧ World.Happens m.before m.action m.after := by
  rcases exists_of_mem_past member with ⟨earlier, later, moment, _⟩
  rw [moment]
  exact ⟨earlier.sound, earlier.happens m.action⟩

/-- What was handed out for a creation stays with it. -/
theorem order?_step {run : Run} {service generation : Nat} {order : Nat × Options}
    (handed : run.world.order? service generation = some order) (action : Action) :
    (run.step action).world.order? service generation = some order := by
  rw [world_step]
  rcases changes_or_hears run.sound run.ledger action with
    ⟨_, changes⟩ | ⟨_, _, s, _, hears⟩
  · refine (changes ((run.world.actor? action).getD 0) ?_).order? handed
    intro other concerned
    rw [concerned, Option.getD_some]
  · rwa [hears.order?]

theorem terminal?_step {run : Run} {service generation terminal : Nat}
    (handed : run.world.terminal? service generation = some terminal) (action : Action) :
    (run.step action).world.terminal? service generation = some terminal := by
  rcases World.terminal?_eq_some_iff.mp handed with ⟨options, order⟩
  exact World.terminal?_eq_some_iff.mpr ⟨options, order?_step order action⟩

theorem terminal?_of_mem {run : Run} {m : Moment} (member : m ∈ run.past)
    {service generation terminal : Nat}
    (handed : m.before.terminal? service generation = some terminal) :
    run.world.terminal? service generation = some terminal := by
  induction run using Run.induction with
  | start env => cases member
  | step run action inductionHypothesis =>
      refine terminal?_step ?_ action
      rw [past_step, List.mem_append, List.mem_singleton] at member
      rcases member with earlier | rfl
      · exact inductionHypothesis earlier
      · exact handed

/-- An action that disposes a terminal concerns the service to which it was handed out. -/
theorem actor?_of_disposed {run : Run} {action : Action} {service generation terminal : Nat}
    (handed : (run.step action).world.terminal? service generation = some terminal)
    (changed : (run.step action).world.disposals terminal ≠ run.world.disposals terminal) :
    run.world.actor? action = some service := by
  -- Whichever service the action concerns, it disposes nothing but its own terminals.
  have owned (actor : Nat)
      (concerned : ∀ other, run.world.actor? action = some other → other = actor) :
      actor = service := by
    have ledger := (run.step action).ledger
    rw [world_step] at handed changed ledger
    rcases changes_or_hears run.sound run.ledger action with ⟨_, changes⟩ | ⟨_, _, s, _, hears⟩
    · rcases ((changes actor concerned).disposals run.sound terminal).2 with
        unchanged | ⟨number, given⟩
      · exact absurd unchanged changed
      · exact (ledger.distinct given handed).1
    · exact absurd (World.disposals_of_eq hears.terminals terminal) changed
  cases concerned : run.world.actor? action with
  | none =>
      have wrong : service + 1 = service := by
        apply owned
        intro other there
        rw [concerned] at there
        cases there
      exact absurd wrong (Nat.succ_ne_self service)
  | some actor =>
      have right : actor = service := by
        apply owned
        intro other there
        rw [concerned] at there
        exact (Option.some.inj there).symm
      rw [right]

/-- A terminal that was disposed was disposed by the service to which it had been handed out. -/
theorem exists_disposes {run : Run} {service generation terminal : Nat}
    (handed : run.world.terminal? service generation = some terminal)
    (disposed : run.world.disposals terminal = 1) :
    ∃ m ∈ run.past, m.Disposes service terminal := by
  induction run using Run.induction generalizing generation with
  | start env => cases handed
  | step run action inductionHypothesis =>
      by_cases same : (run.step action).world.disposals terminal = run.world.disposals terminal
      · have before : run.world.disposals terminal = 1 := same.symm.trans disposed
        have inside : terminal < run.world.host.next := by
          by_contra beyond
          rw [World.disposals_of_le (Nat.le_of_not_lt beyond)] at before
          cases before
        rcases run.ledger.covered inside with ⟨other, number, given⟩
        have owner := ((run.step action).ledger.distinct handed (terminal?_step given action)).1
        subst owner
        rcases inductionHypothesis given before with ⟨m, member, disposes⟩
        exact ⟨m, by rw [past_step]; exact List.mem_append_left _ member, disposes⟩
      · refine ⟨⟨run.world, action⟩, by rw [past_step]; simp, actor?_of_disposed handed same, ?_⟩
        have le := (run.ledger.disposals_le_one terminal).1
        have before : run.world.disposals terminal = 0 := by omega
        show (run.world.perform action).disposals terminal = run.world.disposals terminal + 1
        rw [before, ← world_step]
        exact disposed

/-! ## What became of a terminal -/

inductive Lot where
  | held
  | closed
  | disposed
  deriving DecidableEq, Repr

/-- What became of a terminal that the host handed out to a service. -/
def Fares (run : Run) (service terminal : Nat) : Lot → Prop
  | .held => (∃ s, run.world.services[service]? = some s ∧ s.dropped = false ∧
      s.phase.held? = some terminal) ∧ run.world.disposals terminal = 0
  | .closed => (∃ m ∈ run.past, m.HearsClosed service terminal) ∧
      run.world.disposals terminal = 0
  | .disposed => (∃ m ∈ run.past, m.Disposes service terminal) ∧
      run.world.disposals terminal = 1

/-- A terminal that nobody disposed and that was not closed while it was held. -/
def Live (run : Run) (terminal : Nat) : Prop :=
  terminal < run.world.host.next ∧ run.world.disposals terminal = 0 ∧ ¬ run.Closed terminal

/-- A service that holds a terminal is not dropped. -/
theorem holder_kept {run : Run} (careful : run.DisposesDropped) {service terminal : Nat}
    (held : run.world.held? service = some terminal) :
    ∃ s, run.world.services[service]? = some s ∧ s.dropped = false ∧
      s.phase.held? = some terminal := by
  rcases World.exists_session_of_held held with ⟨session, found, holding⟩
  rcases Option.map_eq_some_iff.mp found with ⟨s, present, rfl⟩
  refine ⟨s, present, ?_, holding⟩
  cases dropped : s.dropped with
  | false => rfl
  | true =>
      have disposed : s.phase = .disposed := by
        induction run using Run.induction with
        | start env => cases present
        | step run action _ =>
            rw [world_step] at present
            refine careful ⟨run.world, action⟩ ?_ s (List.mem_of_getElem? present) dropped
            rw [past_step]
            exact List.mem_append_right _ (List.mem_singleton_self _)
      rw [Service.phase_session, disposed] at holding
      cases holding

/-- Who heard that a terminal was closed had been handed that terminal. -/
theorem handed_of_hearsClosed {run : Run} {m : Moment} (member : m ∈ run.past)
    {service terminal : Nat} (hears : m.HearsClosed service terminal) :
    run.world.Handed service terminal :=
  ⟨_, terminal?_of_mem member ((happens_of_mem member).1.held hears.2.2)⟩

/-- Only one service can hear that a terminal was closed. -/
theorem hearsClosed_of_closed {run : Run} {service terminal : Nat}
    (handed : run.world.Handed service terminal) (closed : run.Closed terminal) :
    ∃ m ∈ run.past, m.HearsClosed service terminal := by
  rcases closed with ⟨m, member, other, hears⟩
  rcases handed with ⟨generation, given⟩
  rcases handed_of_hearsClosed member hears with ⟨number, given'⟩
  have same := (run.ledger.distinct given given').1
  subst same
  exact ⟨m, member, hears⟩

/-- One thing and not two became of every terminal. -/
theorem existsUnique_lot {run : Run} (careful : run.DisposesDropped) {service terminal : Nat}
    (handed : run.world.Handed service terminal) : ∃! lot, run.Fares service terminal lot := by
  have closed {other : Nat} (hears : ∃ m ∈ run.past, m.HearsClosed other terminal) :
      run.Closed terminal := by
    rcases hears with ⟨m, member, hears⟩
    exact ⟨m, member, other, hears⟩
  rcases handed with ⟨generation, given⟩
  rcases run.ledger.accounted given with ⟨held, opened, none⟩ | ⟨free, shut, none⟩ | ⟨free, _, once⟩
  · refine ⟨.held, ⟨holder_kept careful held, none⟩, fun lot fares => ?_⟩
    cases lot with
    | held => rfl
    | closed => exact absurd (closed fares.1) opened
    | disposed => exact absurd (none.symm.trans fares.2) Nat.zero_ne_one
  · refine ⟨.closed, ⟨hearsClosed_of_closed ⟨_, given⟩ shut, none⟩, fun lot fares => ?_⟩
    cases lot with
    | held =>
        rcases fares.1 with ⟨s, present, _, holding⟩
        exact absurd ((World.held?_eq_of_services present).trans holding) free
    | closed => rfl
    | disposed => exact absurd (none.symm.trans fares.2) Nat.zero_ne_one
  · refine ⟨.disposed, ⟨exists_disposes given once, once⟩, fun lot fares => ?_⟩
    cases lot with
    | held => exact absurd (fares.2.symm.trans once) Nat.zero_ne_one
    | closed => exact absurd (fares.2.symm.trans once) Nat.zero_ne_one
    | disposed => rfl

theorem Live.held {run : Run} {terminal : Nat} (live : run.Live terminal) :
    ∃ service, run.world.held? service = some terminal ∧
      ∀ other, run.world.Handed other terminal → other = service := by
  rcases live with ⟨inside, none, opened⟩
  rcases run.ledger.covered inside with ⟨service, generation, given⟩
  refine ⟨service, ?_, fun other handed => ?_⟩
  · rcases run.ledger.accounted given with ⟨held, _⟩ | ⟨_, shut, _⟩ | ⟨_, _, once⟩
    · exact held
    · exact absurd shut opened
    · exact absurd (none.symm.trans once) Nat.zero_ne_one
  · rcases handed with ⟨number, given'⟩
    exact (run.ledger.distinct given' given).1

/-- In every run in which services without references are disposed, one thing became of every
terminal that was handed out to a service: it is held, or it was closed while it was held, or its
service disposed it once.  Every terminal of the host was handed out to one service, a service has
at most one live terminal, a live terminal is held by a service that is there, and no terminal is
disposed twice or as well as closed. -/
theorem run_accounts_for_every_terminal (run : Run) (careful : run.DisposesDropped) :
    (∀ service terminal, run.world.Handed service terminal →
      ∃! lot, run.Fares service terminal lot) ∧
    (∀ terminal, terminal < run.world.host.next → ∃! service, run.world.Handed service terminal) ∧
    (∀ service terminal other, run.world.Handed service terminal → run.Live terminal →
      run.world.Handed service other → run.Live other → terminal = other) ∧
    (∀ terminal, run.Live terminal → ∃ (service : Nat) (s : Service),
      run.world.services[service]? = some s ∧ s.dropped = false ∧
        s.phase.held? = some terminal) ∧
    (∀ terminal, run.world.disposals terminal ≤ 1 ∧
      (run.Closed terminal → run.world.disposals terminal = 0)) := by
  refine ⟨fun service terminal handed => existsUnique_lot careful handed, ?_, ?_, ?_, ?_⟩
  · intro terminal inside
    rcases run.ledger.covered inside with ⟨service, generation, given⟩
    refine ⟨service, ⟨generation, given⟩, ?_⟩
    rintro other ⟨number, given'⟩
    exact (run.ledger.distinct given' given).1
  · intro service terminal other handed live handed' live'
    rcases live.held with ⟨holder, held, only⟩
    rcases live'.held with ⟨holder', held', only'⟩
    rw [← only service handed] at held
    rw [← only' service handed', held] at held'
    exact Option.some.inj held'
  · intro terminal live
    rcases live.held with ⟨service, held, _⟩
    exact ⟨service, holder_kept careful held⟩
  · exact run.ledger.disposals_le_one

/-- A run with two services.  The first terminal of the first one is closed, its second one is
disposed with it, and the second service holds the third terminal. -/
def threeTerminals : Run where
  actions :=
    [.addService "Lint" none (.fixed none), .addService "Build" none (.fixed none),
      .call 0 (.show true), .poll 0, .close 0, .call 0 (.sendText "make"), .poll 1, .dispose 0,
      .call 1 (.sendCommand "make" ["all"]), .poll 2]

theorem threeTerminals_accounted :
    threeTerminals.DisposesDropped ∧
      (∃! lot, threeTerminals.Fares 0 0 lot) ∧ (∃! lot, threeTerminals.Fares 0 1 lot) ∧
        (∃! lot, threeTerminals.Fares 1 2 lot) := by
  have careful : threeTerminals.DisposesDropped := by
    unfold DisposesDropped
    decide +kernel
  have accounted := (run_accounts_for_every_terminal threeTerminals careful).1
  exact ⟨careful, accounted 0 0 ⟨1, by decide +kernel⟩, accounted 0 1 ⟨2, by decide +kernel⟩,
    accounted 1 2 ⟨1, by decide +kernel⟩⟩

end Run

end Terminal
end Workbench
