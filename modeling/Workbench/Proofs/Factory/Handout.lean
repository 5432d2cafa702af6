import Workbench.Proofs.Factory.Cache
import Workbench.Proofs.Terminal.Lulls

namespace Workbench
namespace Terminal

/-!
# Services that are disposed while they are kept

A factory does not look whether a service that it keeps was disposed meanwhile.  A new service is
not disposed, and one that is kept is disposed exactly if someone who uses it disposed it, or had it
disposed when its terminal was closed.  It stays where it is all the same, is handed out as before
and counts like any other, until the factory is emptied.
-/

namespace Moment

/-- A service is disposed by those who use it: directly, or by a listener that hears that the
service lost its terminal. -/
def DisposesService (m : Moment) (service : Nat) : Prop :=
  (∃ phase, m.before.phase? service = some phase) ∧
    (m.action = .dispose service ∨
      ∃ terminal, m.ClosesHeld service terminal ∧ ∃ l ∈ m.before.listeners,
        l.service = service ∧ l.active = true ∧ l.reaction = .dispose)

end Moment

namespace World

variable {w w' : World} {closed : Nat → Prop} {service : Nat}

/-- No creation disposes its service. -/
theorem Attends.disposed_iff {call generation : Nat} {c : Call} {w₁ w₂ : World}
    (attends : Attends call c generation w w₁ w₂ w') (sound : w.Sound) :
    w'.phase? c.service = some .disposed ↔ w.phase? c.service = some .disposed := by
  by_cases awaits : w.AwaitsAt (.poll call) c.service generation
  · have standing : w.phase? c.service ≠ some .disposed := fun disposed =>
      not_awaitsAt_of_disposed disposed _ awaits
    refine iff_of_false ?_ standing
    cases attends.current sound awaits with
    | waiting current =>
        rcases current with ⟨slot, creating⟩
        simp [creating]
    | failed _ idle => simp [idle]
    | usable _ ready => simp [ready]
  · rw [(attends.stale awaits).2.1]

theorem InOrder.disposed_iff (order : InOrder closed w) (action : Action) {phase : Phase}
    (there : w.phase? service = some phase) :
    (w.perform action).phase? service = some .disposed ↔
      w.phase? service = some .disposed ∨ Moment.DisposesService ⟨w, action⟩ service := by
  have reports {terminal : Nat} (closes : Moment.ClosesHeld ⟨w, action⟩ service terminal) :
      Moment.Reports ⟨w, action⟩ service terminal :=
    closes.reports order.registered (order.ledger.holder order.sound)
  constructor
  · intro disposed
    rcases exists_session_of_phase there with ⟨s, found, _⟩
    rcases (order.happens action).phase?_cases order.sound found with
      same | rfl | ⟨terminal, hears⟩ | ⟨call, c, number, w₁, w₂, rfl, rfl, attends⟩
    · exact Or.inl (same.symm.trans disposed)
    · exact Or.inr ⟨⟨phase, there⟩, Or.inl rfl⟩
    · have closes := (Moment.closesHeld_iff order.registered).mpr hears
      have after : (w.perform action).phase? service = some (if _ then _ else _) :=
        (reports closes).phase
      rw [disposed] at after
      refine Or.inr ⟨⟨phase, there⟩, Or.inr ⟨terminal, closes, ?_⟩⟩
      by_contra none
      rw [if_neg none] at after
      cases after
    · exact Or.inl ((attends.disposed_iff order.sound).mp disposed)
  · rintro (disposed | ⟨_, turn | ⟨terminal, closes, disposing⟩⟩)
    · exact order.disposed action disposed
    · have turn : action = .dispose service := turn
      subst turn
      rcases exists_session_of_phase there with ⟨_, found, _⟩
      rcases Option.map_eq_some_iff.mp found with ⟨s, present, _⟩
      exact dispose_phase present
    · have after : (w.perform action).phase? service = some (if _ then _ else _) :=
        (reports closes).phase
      rwa [if_pos disposing] at after

end World

namespace Site

/-- Unless it is emptied, what a factory does by itself leaves all services as they are. -/
theorem take_session? {site : Site} {step : Step} (own : site.moment? step = none)
    (kept : step ≠ .disposeAll) {service : Nat} {s : Service}
    (found : site.world.session? service = some s) :
    (site.take step).world.session? service = some s := by
  have added (line : Log.Line) (title : String) (resource : Option Url) (helper : Helper) :
      ((site.world.write line).addService title resource helper).session? service = some s := by
    have adds := World.addService_adds (site.world.write line) title resource helper
    refine (adds.others service ?_).trans found
    rintro rfl
    have absent : site.world.session? (site.world.write line).services.length = none :=
      adds.absent
    rw [absent] at found
    cases found
  cases step with
  | act action => cases own
  | disposeAll => exact absurd rfl kept
  | create title resource =>
      refine ((World.addService_adds site.world _ resource site.factory.helper).others service
        ?_).trans found
      rintro rfl
      rw [World.session?, List.getElem?_eq_none (Nat.le_refl _)] at found
      cases found
  | get title resource =>
      simp only [take]
      have gets := site.factory.get_gets site.world title resource
      generalize site.factory.get site.world title resource = result at gets
      cases gets with
      | kept | full => exact found
      | made => exact added _ _ _ _

end Site

namespace Visit

/-- Services do not go away. -/
theorem label?_of_mem {visit : Visit} {m : Moment} (member : m ∈ visit.past) {service : Nat}
    {key : Key} (labelled : m.before.label? service = some key) :
    visit.site.world.label? service = some key := by
  induction visit using Visit.induction with
  | start env config helper => cases member
  | step visit step inductionHypothesis =>
      refine visit.label?_step step ?_
      rw [past_step, List.mem_append] at member
      rcases member with earlier | last
      · exact inductionHypothesis earlier
      · cases step with
        | get | create | disposeAll => cases last
        | act action =>
            rcases List.mem_singleton.mp last with rfl
            exact labelled

/-- A service that is not there was not disposed. -/
theorem not_disposesService {visit : Visit} {service : Nat}
    (absent : visit.site.world.session? service = none) :
    ∀ m ∈ visit.past, ¬ m.DisposesService service := by
  rintro m member ⟨⟨phase, there⟩, _⟩
  rcases World.exists_session_of_phase there with ⟨s, found, _⟩
  have labelled : m.before.label? service = some (s.title, s.resource) := by
    rw [World.label?, found, Option.map_some]
  have later := label?_of_mem member labelled
  rw [World.label?, absent] at later
  cases later

/-- A service that is kept is disposed exactly if someone disposed it who uses it. -/
theorem disposed_iff (visit : Visit) {entry : Key × Nat}
    (member : entry ∈ visit.site.factory.cache) :
    visit.site.world.phase? entry.2 = some .disposed ↔
      ∃ m ∈ visit.past, m.DisposesService entry.2 := by
  induction visit using Visit.induction with
  | start env config helper => cases member
  | step visit step inductionHypothesis =>
      have session {entry : Key × Nat} (earlier : entry ∈ visit.site.factory.cache) :
          ∃ s, visit.site.world.session? entry.2 = some s := by
        rcases Option.map_eq_some_iff.mp (visit.tidy.labelled entry earlier) with ⟨s, found, _⟩
        exact ⟨s, found⟩
      have unchanged (own : visit.site.moment? step = none) (kept : step ≠ .disposeAll)
          (earlier : entry ∈ visit.site.factory.cache) :
          (visit.step step).site.world.phase? entry.2 = some .disposed ↔
            ∃ m ∈ (visit.step step).past, m.DisposesService entry.2 := by
        rcases session earlier with ⟨s, found⟩
        rw [past_step_of_none own, ← inductionHypothesis earlier, site_step,
          World.phase?_eq (Site.take_session? own kept found), World.phase?_eq found]
      cases own : visit.site.moment? step with
      | some m =>
          cases step with
          | get | create | disposeAll => cases own
          | act action =>
              have earlier : entry ∈ visit.site.factory.cache := by
                rw [site_step] at member
                exact member
              rcases session earlier with ⟨s, found⟩
              have action_iff := visit.inOrder.disposed_iff action (World.phase?_eq found)
              rw [inductionHypothesis earlier] at action_iff
              rw [site_step, past_act]
              refine Iff.trans action_iff ?_
              simp only [List.mem_append, List.mem_singleton, or_and_right, exists_or,
                exists_eq_left]
      | none =>
          rw [site_step] at member
          have takes := visit.site.take_takes step
          cases takes with
          | same kept same =>
              rw [same] at member
              exact unchanged own kept member
          | emptied emptied =>
              rw [emptied] at member
              cases member
          | made _ _ cache adds =>
              rw [cache, List.mem_append, List.mem_singleton] at member
              rcases member with earlier | rfl
              · exact unchanged own nofun earlier
              · rw [past_step_of_none own, site_step, World.phase?_eq adds.present]
                refine iff_of_false nofun ?_
                rintro ⟨m, among, disposes⟩
                exact not_disposesService adds.absent m among disposes

/-- A service that a factory hands out is disposed at that moment exactly if it was kept already and
someone who uses it had disposed it; a new one waits to be used.  Whatever was done to it, a service
that is kept stays kept until the factory is emptied, and a request for another one fails, always
because of the limit, exactly if as many are kept as may be, disposed ones included. -/
theorem factories_hand_out_what_they_keep (visit : Visit) :
    (∀ title resource service factory w,
      visit.site.factory.get visit.site.world title resource = .ok (service, factory, w) →
      ((∀ other, (visit.key title resource, other) ∉ visit.site.factory.cache) →
        w.phase? service = some .idle) ∧
      (w.phase? service = some .disposed ↔
        (visit.key title resource, service) ∈ visit.site.factory.cache ∧
          ∃ m ∈ visit.past, m.DisposesService service)) ∧
    (∀ entry ∈ visit.site.factory.cache, ∀ more, .disposeAll ∉ more →
      entry ∈ (visit.extend more).site.factory.cache) ∧
    ∀ title resource error,
      visit.site.factory.get visit.site.world title resource = .error error ↔
        error = .terminalLimitReached visit.config.maxTerminals ∧
          (∀ service, (visit.key title resource, service) ∉ visit.site.factory.cache) ∧
          visit.site.factory.cache.length = visit.config.maxTerminals := by
  refine ⟨fun title resource service factory w got => ?_,
    fun entry member more kept => visit.mem_cache_extend member kept,
    fun title resource error => visit.get_eq_error_iff⟩
  have gets := visit.site.factory.get_gets visit.site.world title resource
  rw [got] at gets
  rw [← key_factory]
  cases gets with
  | kept kept =>
      have member := (Factory.lookup?_eq_some_iff visit.tidy.keys).mp kept
      refine ⟨fun absent => absurd member (absent service), ?_⟩
      rw [visit.disposed_iff member]
      exact (and_iff_right member).symm
  | made absent _ line =>
      have adds := World.addService_adds (visit.site.world.write line)
        (visit.site.factory.key title resource).1 (visit.site.factory.key title resource).2
        visit.site.factory.helper
      have idle := World.phase?_eq adds.present
      refine ⟨fun _ => idle, iff_of_false ?_ ?_⟩
      · intro disposed
        cases idle.symm.trans disposed
      · rintro ⟨member, _⟩
        exact Factory.lookup?_eq_none_iff.mp absent _ member

/-- A factory that may keep one service, which is disposed by whoever got it. -/
def spent : Visit where
  config := { maxTerminals := 1 }
  helper := .fixed none
  steps := [.get none none, .act (.dispose 0)]

/-- The disposed service is handed out again. -/
theorem spent_stays_kept :
    ∃ factory w, spent.site.factory.get spent.site.world none none = .ok (0, factory, w) ∧
      w.phase? 0 = some .disposed ∧
      ∀ more, .disposeAll ∉ more →
        (("Python", none), 0) ∈ (spent.extend more).site.factory.cache := by
  have got : ∃ factory w,
      spent.site.factory.get spent.site.world none none = .ok (0, factory, w) := ⟨_, _, rfl⟩
  rcases got with ⟨factory, w, got⟩
  have member : (spent.key none none, 0) ∈ spent.site.factory.cache := by decide +kernel
  have disposes : ∃ m ∈ spent.past, m.DisposesService 0 :=
    ⟨_, List.mem_singleton_self _, ⟨.idle, by decide +kernel⟩, Or.inl rfl⟩
  rcases factories_hand_out_what_they_keep spent with ⟨handed, stays, _⟩
  exact ⟨factory, w, got, (handed none none 0 factory w got).2.mpr ⟨member, disposes⟩,
    stays _ member⟩

/-- A disposed service is returned, and takes the place that another one would need. -/
theorem disposed_services_are_handed_out :
    (∃ factory w, spent.site.factory.get spent.site.world none none = .ok (0, factory, w) ∧
      w.phase? 0 = some .disposed) ∧
    spent.site.factory.get spent.site.world (some "Lint") none =
      .error (.terminalLimitReached 1) ∧
    spent.site.world.phase? 0 = some .disposed ∧ spent.site.factory.size = 1 :=
  ⟨⟨_, _, rfl, by decide +kernel⟩, rfl, by decide +kernel, by decide +kernel⟩

end Visit

end Terminal
end Workbench
