import Workbench.Proofs.Factory.Run

namespace Workbench
namespace Terminal

/-!
# What a factory keeps

A factory keeps one service for each title and resource that it was asked for since it was emptied,
and no more than it may.  Services are never made twice, so whoever asks for the same again gets the
same, and whoever asks for something else, or after the factory was emptied, gets another one.
-/

namespace Factory

variable {factory : Factory} {key : Key} {service : Nat}

theorem lookup?_eq_some_iff (keys : (factory.cache.map Prod.fst).Nodup) :
    factory.lookup? key = some service ↔ (key, service) ∈ factory.cache := by
  rw [lookup?, List.lookup_eq_some_iff]
  constructor
  · rintro ⟨before, after, split, _⟩
    rw [split]
    exact List.mem_append_right _ List.mem_cons_self
  · intro member
    rcases List.append_of_mem member with ⟨before, after, split⟩
    refine ⟨before, after, split, fun entry earlier => bne_iff_ne.mpr ?_⟩
    rw [split, List.map_append, List.map_cons, List.nodup_append] at keys
    exact (keys.2.2 _ (List.mem_map_of_mem earlier) _ List.mem_cons_self).symm

theorem lookup?_eq_none_iff :
    factory.lookup? key = none ↔ ∀ service, (key, service) ∉ factory.cache := by
  rw [lookup?, List.lookup_eq_none_iff]
  constructor
  · intro absent service member
    exact bne_iff_ne.mp (absent _ member) rfl
  · rintro absent ⟨other, service⟩ member
    refine bne_iff_ne.mpr fun same => ?_
    rw [same] at absent
    exact absent service member

end Factory

namespace World

variable {w w' : World} {closed : Nat → Prop} {service : Nat}

theorem exists_session_of_label {key : Key} (labelled : w.label? service = some key) :
    ∃ s, w.services[service]? = some s ∧ (s.title, s.resource) = key := by
  rcases Option.map_eq_some_iff.mp labelled with ⟨session, found, same⟩
  rcases Option.map_eq_some_iff.mp found with ⟨s, present, rfl⟩
  exact ⟨s, present, same⟩

theorem InOrder.disposed (order : InOrder closed w) (action : Action)
    (disposed : w.phase? service = some .disposed) :
    (w.perform action).phase? service = some .disposed :=
  ((order.happens action).affair.meets order.sound service).disposed disposed

/-- Nothing brings a disposed service back. -/
theorem Calm.disposed (calm : Calm w w') (order : InOrder closed w)
    (disposed : w.phase? service = some .disposed) : w'.phase? service = some .disposed := by
  induction calm with
  | refl => exact disposed
  | act earlier _ _ inductionHypothesis =>
      exact (order.calm earlier).disposed _ inductionHypothesis
  | write _ line inductionHypothesis =>
      rw [(Alike.write _ line).sessions.phase?, inductionHypothesis]

/-- A terminal that was handed out to a disposed service was closed or disposed. -/
theorem InOrder.released (order : InOrder closed w)
    (disposed : w.phase? service = some .disposed) {terminal : Nat}
    (handed : w.Handed service terminal) : closed terminal ∨ w.disposals terminal = 1 := by
  rcases handed with ⟨generation, given⟩
  rcases order.ledger.accounted given with ⟨held, _⟩ | ⟨_, shut, _⟩ | ⟨_, _, once⟩
  · rw [held?_of_disposed disposed] at held
    cases held
  · exact Or.inl shut
  · exact Or.inr once

/-- The services of a list are disposed one after the other. -/
theorem disposed_of_dispose_each (entries : List (Key × Nat)) (order : InOrder closed w)
    (labelled : ∀ entry ∈ entries, ∃ key, w.label? entry.2 = some key) :
    ∀ entry ∈ entries,
      (entries.foldl (fun w entry => (w.dispose entry.2).release entry.2) w).phase? entry.2 =
        some .disposed := by
  induction entries generalizing w with
  | nil => exact fun entry member => absurd member List.not_mem_nil
  | cons first rest inductionHypothesis =>
      have calm : Calm w ((w.dispose first.2).release first.2) :=
        (Calm.refl.act (.dispose first.2) nofun).act (.release first.2) nofun
      intro entry member
      rw [List.foldl_cons]
      rcases List.mem_cons.mp member with rfl | later
      · rcases labelled entry member with ⟨key, label⟩
        rcases exists_session_of_label label with ⟨s, found, _⟩
        have disposed : (w.dispose entry.2).phase? entry.2 = some .disposed := dispose_phase found
        have disposing : Calm w (w.dispose entry.2) :=
          Calm.refl.act (.dispose entry.2) nofun
        have releasing : Calm (w.dispose entry.2) ((w.dispose entry.2).release entry.2) :=
          Calm.refl.act (.release entry.2) nofun
        exact (Factory.dispose_each_calm rest .refl).disposed (order.calm calm)
          (releasing.disposed (order.calm disposing) disposed)
      · refine inductionHypothesis (order.calm calm) (fun other among => ?_) entry later
        rcases labelled other (List.mem_cons_of_mem _ among) with ⟨key, label⟩
        exact ⟨key, calm.label? order label⟩

end World

namespace Site

/-- What a step means for the services that the factory keeps. -/
inductive Takes (site : Site) : Step → Site → Prop
  | same {step : Step} {site' : Site} (kept : step ≠ .disposeAll)
      (same : site'.factory.cache = site.factory.cache) : Takes site step site'
  | emptied {site' : Site} (emptied : site'.factory.cache = []) : Takes site .disposeAll site'
  /-- A service is made and kept. -/
  | made {title : Option String} {resource : Option Url} {site' : Site} {service : Nat}
      (absent : site.factory.lookup? (site.factory.key title resource) = none)
      (room : site.factory.size < site.factory.config.maxTerminals)
      (cache : site'.factory.cache =
        site.factory.cache ++ [(site.factory.key title resource, service)])
      (adds : World.Adds (site.factory.key title resource).1 (site.factory.key title resource).2
        site.factory.helper service site.world site'.world) :
      Takes site (.get title resource) site'

theorem take_takes (site : Site) (step : Step) : Takes site step (site.take step) := by
  cases step with
  | act | create => exact .same (fun emptied => by cases emptied) rfl
  | disposeAll => exact .emptied rfl
  | get title resource =>
      simp only [take]
      have gets := site.factory.get_gets site.world title resource
      generalize site.factory.get site.world title resource = result at gets
      cases gets with
      | kept | full => exact .same (fun emptied => by cases emptied) rfl
      | made absent room line =>
          have adds := World.addService_adds (site.world.write line)
            (site.factory.key title resource).1 (site.factory.key title resource).2
            site.factory.helper
          exact .made absent room rfl ⟨adds.absent, adds.present, adds.others, adds.terminals,
            adds.requests, adds.activations, adds.calls⟩

/-- A factory keeps as many services as it may, each of them under its own title and resource. -/
structure Tidy (site : Site) : Prop where
  bounded : site.factory.size ≤ site.factory.config.maxTerminals
  keys : (site.factory.cache.map Prod.fst).Nodup
  labelled : ∀ entry ∈ site.factory.cache, site.world.label? entry.2 = some entry.1

/-- Two entries of one service are the same. -/
theorem Tidy.key_eq {site : Site} (tidy : site.Tidy) {key other : Key} {service : Nat}
    (member : (key, service) ∈ site.factory.cache)
    (member' : (other, service) ∈ site.factory.cache) : key = other :=
  Option.some.inj ((tidy.labelled _ member).symm.trans (tidy.labelled _ member'))

end Site

namespace Visit

variable {visit : Visit}

/-- What a service is kept under when it is asked for. -/
def key (visit : Visit) (title : Option String) (resource : Option Url) : Key :=
  (title.getD visit.config.defaultTitle, resource)

theorem key_factory (visit : Visit) (title : Option String) (resource : Option Url) :
    visit.site.factory.key title resource = visit.key title resource := by
  rcases visit.factory_eq with ⟨cache, same⟩
  rw [same]
  rfl

theorem config_factory (visit : Visit) : visit.site.factory.config = visit.config := by
  rcases visit.factory_eq with ⟨cache, same⟩
  rw [same]

/-- The factory is tidy at every time. -/
theorem tidy (visit : Visit) : visit.site.Tidy := by
  induction visit using Visit.induction with
  | start env config helper =>
      exact ⟨Nat.zero_le _, List.nodup_nil, fun _ member => absurd member List.not_mem_nil⟩
  | step visit step inductionHypothesis =>
      have config : (visit.step step).site.factory.config = visit.site.factory.config := by
        rw [config_factory, config_factory]
        rfl
      have old {entry : Key × Nat} (member : entry ∈ visit.site.factory.cache) :
          (visit.step step).site.world.label? entry.2 = some entry.1 :=
        visit.label?_step step (inductionHypothesis.labelled entry member)
      have takes := visit.site.take_takes step
      rw [← site_step] at takes
      generalize (visit.step step).site = site' at takes config old
      cases takes with
      | same _ same =>
          refine ⟨?_, ?_, fun entry member => ?_⟩
          · rw [Factory.size, same, config]
            exact inductionHypothesis.bounded
          · rw [same]
            exact inductionHypothesis.keys
          · rw [same] at member
            exact old member
      | emptied emptied =>
          refine ⟨?_, ?_, fun entry member => ?_⟩
          · rw [Factory.size, emptied]
            exact Nat.zero_le _
          · rw [emptied]
            exact List.nodup_nil
          · rw [emptied] at member
            cases member
      | made absent room cache adds =>
          refine ⟨?_, ?_, fun entry member => ?_⟩
          · rw [Factory.size, cache, config, List.length_append, List.length_singleton]
            exact room
          · rw [cache, List.map_append, List.map_singleton, List.nodup_append]
            refine ⟨inductionHypothesis.keys, List.nodup_singleton _, ?_⟩
            intro key among other last same
            rw [List.mem_singleton] at last
            rcases List.mem_map.mp among with ⟨⟨key, service⟩, member, rfl⟩
            have here : key = visit.site.factory.key _ _ := same.trans last
            rw [here] at member
            exact Factory.lookup?_eq_none_iff.mp absent service member
          · rw [cache, List.mem_append, List.mem_singleton] at member
            rcases member with earlier | rfl
            · exact old earlier
            · rw [World.label?, adds.present, Option.map_some]

/-! ## Along a visit -/

/-- What is kept stays kept until the factory is emptied. -/
theorem mem_cache_extend (visit : Visit) {entry : Key × Nat}
    (member : entry ∈ visit.site.factory.cache) {more : List Site.Step}
    (kept : .disposeAll ∉ more) : entry ∈ (visit.extend more).site.factory.cache := by
  induction more generalizing visit with
  | nil => rwa [extend_nil]
  | cons step rest inductionHypothesis =>
      rw [extend_cons]
      rw [List.mem_cons, not_or] at kept
      refine inductionHypothesis (visit.step step) ?_ kept.2
      rw [site_step]
      cases visit.site.take_takes step with
      | same _ same => rwa [same]
      | emptied => exact absurd rfl kept.1
      | made _ _ cache =>
          rw [cache]
          exact List.mem_append_left _ member

/-- What is kept was kept before, and the factory was not emptied since, or it is new. -/
theorem kept_or_new (visit : Visit) {more : List Site.Step} {entry : Key × Nat}
    (member : entry ∈ (visit.extend more).site.factory.cache) :
    entry ∈ visit.site.factory.cache ∧ .disposeAll ∉ more ∨
      visit.site.world.session? entry.2 = none := by
  induction more generalizing visit with
  | nil =>
      rw [extend_nil] at member
      exact Or.inl ⟨member, List.not_mem_nil⟩
  | cons step rest inductionHypothesis =>
      rw [extend_cons] at member
      rcases inductionHypothesis (visit.step step) member with ⟨earlier, kept⟩ | absent
      · rw [site_step] at earlier
        cases visit.site.take_takes step with
        | same other same =>
            rw [same] at earlier
            refine Or.inl ⟨earlier, fun among => ?_⟩
            rcases List.mem_cons.mp among with rfl | later
            · exact other rfl
            · exact kept later
        | emptied emptied =>
            rw [emptied] at earlier
            cases earlier
        | made _ _ cache adds =>
            rw [cache, List.mem_append, List.mem_singleton] at earlier
            rcases earlier with before | rfl
            · refine Or.inl ⟨before, fun among => ?_⟩
              rcases List.mem_cons.mp among with wrong | later
              · cases wrong
              · exact kept later
            · exact Or.inr adds.absent
      · refine Or.inr (Option.eq_none_iff_forall_ne_some.mpr fun s found => ?_)
        have labelled : visit.site.world.label? entry.2 = some (s.title, s.resource) := by
          rw [World.label?, found, Option.map_some]
        have later := visit.label?_step step labelled
        rw [World.label?, absent] at later
        cases later

theorem disposed_extend (visit : Visit) {service : Nat}
    (disposed : visit.site.world.phase? service = some .disposed) (more : List Site.Step) :
    (visit.extend more).site.world.phase? service = some .disposed := by
  induction more generalizing visit with
  | nil => rwa [extend_nil]
  | cons step rest inductionHypothesis =>
      rw [extend_cons]
      refine inductionHypothesis (visit.step step) ?_
      rw [site_step]
      cases own : visit.site.moment? step with
      | none => exact (Site.take_calm own).disposed visit.inOrder disposed
      | some m =>
          cases step with
          | get | create | disposeAll => cases own
          | act action => exact visit.inOrder.disposed action disposed

/-! ## Asking for services -/

variable {title title' : Option String} {resource resource' : Option Url} {service service' : Nat}
  {factory : Factory} {w : World}

/-- Whoever asks for what is kept gets it, and nothing changes. -/
theorem get_of_mem (visit : Visit)
    (member : (visit.key title resource, service) ∈ visit.site.factory.cache) :
    visit.site.factory.get visit.site.world title resource =
      .ok (service, visit.site.factory, visit.site.world) := by
  have kept := (Factory.lookup?_eq_some_iff visit.tidy.keys).mpr member
  rw [← key_factory] at kept
  rw [Factory.get]
  simp only [kept]

/-- What is handed out is kept. -/
theorem mem_of_get
    (got : visit.site.factory.get visit.site.world title resource = .ok (service, factory, w)) :
    (visit.step (.get title resource)).site = ⟨factory, w⟩ ∧
      (visit.key title resource, service) ∈ factory.cache := by
  have site : (visit.step (.get title resource)).site = ⟨factory, w⟩ := by
    rw [site_step, Site.take, got]
  refine ⟨site, ?_⟩
  have gets := visit.site.factory.get_gets visit.site.world title resource
  rw [got] at gets
  rw [← key_factory]
  cases gets with
  | kept kept => exact (Factory.lookup?_eq_some_iff visit.tidy.keys).mp kept
  | made => exact List.mem_append_right _ (List.mem_singleton_self _)

/-- Two requests lead to the same service exactly if they ask for the same and the factory was not
emptied between them. -/
theorem get_eq_iff (visit : Visit)
    (got : visit.site.factory.get visit.site.world title resource = .ok (service, factory, w))
    {more : List Site.Step} {factory' : Factory} {w' : World}
    (got' : ((visit.step (.get title resource)).extend more).site.factory.get
      ((visit.step (.get title resource)).extend more).site.world title' resource' =
        .ok (service', factory', w')) :
    service' = service ↔
      visit.key title resource = visit.key title' resource' ∧ .disposeAll ∉ more := by
  rcases mem_of_get got with ⟨site, member⟩
  have before : (visit.key title resource, service) ∈
      (visit.step (.get title resource)).site.factory.cache := by
    rw [site]
    exact member
  constructor
  · rintro rfl
    have after : (visit.key title' resource', service') ∈
        ((visit.step (.get title resource)).extend
          (more ++ [.get title' resource'])).site.factory.cache := by
      rcases mem_of_get got' with ⟨site', member'⟩
      have same : (visit.step (.get title resource)).extend (more ++ [.get title' resource']) =
          ((visit.step (.get title resource)).extend more).step (.get title' resource') := by
        simp only [Visit.step, extend, List.append_assoc]
      rw [same, site']
      exact member'
    have tidy := (visit.step (.get title resource)).tidy
    rcases kept_or_new _ after with ⟨earlier, kept⟩ | absent
    · exact ⟨tidy.key_eq before earlier, fun among => kept (List.mem_append_left _ among)⟩
    · have labelled := tidy.labelled _ before
      rw [World.label?, absent] at labelled
      cases labelled
  · rintro ⟨same, kept⟩
    have later := mem_cache_extend _ before kept
    rw [same] at later
    rw [get_of_mem _ later] at got'
    cases got'
    rfl

/-- A request fails exactly if the service is not there and as many are kept as may be. -/
theorem get_eq_error_iff (visit : Visit) {error : Error} :
    visit.site.factory.get visit.site.world title resource = .error error ↔
      error = .terminalLimitReached visit.config.maxTerminals ∧
        (∀ service, (visit.key title resource, service) ∉ visit.site.factory.cache) ∧
        visit.site.factory.size = visit.config.maxTerminals := by
  have bounded := visit.tidy.bounded
  rw [config_factory] at bounded
  have gets := visit.site.factory.get_gets visit.site.world title resource
  rw [← Factory.lookup?_eq_none_iff, ← config_factory, ← key_factory]
  rw [← config_factory] at bounded
  generalize visit.site.factory.get visit.site.world title resource = result at gets
  cases gets with
  | kept kept =>
      refine iff_of_false nofun ?_
      rintro ⟨_, absent, _⟩
      rw [kept] at absent
      cases absent
  | full absent full =>
      constructor
      · intro same
        cases same
        exact ⟨rfl, absent, Nat.le_antisymm bounded full⟩
      · rintro ⟨rfl, _⟩
        rfl
  | made _ room =>
      refine iff_of_false nofun ?_
      rintro ⟨_, _, full⟩
      exact absurd room (Nat.not_lt.mpr (Nat.le_of_eq full.symm))

/-- In everything that can happen around a factory, it keeps no more services than it may, each of
them under its own title and resource.

Whoever asks again for a title and a resource gets the same service, as long as the factory was not
emptied in between, and otherwise another one; the default title stands for itself.  A request fails
exactly if there is no such service and as many are kept as may be, and then nothing has happened.
What is made outside of the cache is not kept and never handed out again.

Disposing all services empties the factory.  Each of them is disposed for good, hears of no closed
terminal any more, and every terminal that was ever handed out to it was closed or is disposed. -/
theorem one_service_is_kept_per_key (visit : Visit) :
    (visit.site.factory.size ≤ visit.config.maxTerminals ∧
      ∀ key service, (key, service) ∈ visit.site.factory.cache →
        ∃ s, visit.site.world.services[service]? = some s ∧ (s.title, s.resource) = key) ∧
    (∀ title resource service factory w,
      visit.site.factory.get visit.site.world title resource = .ok (service, factory, w) →
      ∀ more title' resource',
        let later := (visit.step (.get title resource)).extend more
        (visit.key title resource = visit.key title' resource' ∧ .disposeAll ∉ more →
          later.site.factory.get later.site.world title' resource' =
            .ok (service, later.site.factory, later.site.world)) ∧
        ∀ service' factory' w',
          later.site.factory.get later.site.world title' resource' =
              .ok (service', factory', w') →
            (service' = service ↔
              visit.key title resource = visit.key title' resource' ∧ .disposeAll ∉ more)) ∧
    (∀ title resource error,
      (visit.site.factory.get visit.site.world title resource = .error error ↔
        error = .terminalLimitReached visit.config.maxTerminals ∧
          (∀ service, (visit.key title resource, service) ∉ visit.site.factory.cache) ∧
          visit.site.factory.size = visit.config.maxTerminals) ∧
      (visit.site.factory.get visit.site.world title resource = .error error →
        (visit.step (.get title resource)).site = visit.site)) ∧
    (∀ title resource,
      (visit.step (.create title resource)).site.factory = visit.site.factory ∧
      (∃ s, (visit.step (.create title resource)).site.world.services[
          visit.site.world.services.length]? = some s ∧
        (s.title, s.resource) = visit.key title resource) ∧
      ∀ more key, (key, visit.site.world.services.length) ∉
        ((visit.step (.create title resource)).extend more).site.factory.cache) ∧
    (visit.step .disposeAll).site.factory.cache = [] ∧
    ∀ key service, (key, service) ∈ visit.site.factory.cache → ∀ more,
      let later := (visit.step .disposeAll).extend more
      later.site.world.Gone service ∧ later.site.world.held? service = none ∧
        ∀ terminal, later.site.world.Handed service terminal →
          later.Closed terminal ∨ later.site.world.disposals terminal = 1 := by
  refine ⟨⟨?_, ?_⟩, ?_, ?_, ?_, by rw [site_step]; rfl, ?_⟩
  · rw [← config_factory]
    exact visit.tidy.bounded
  · intro key service member
    exact World.exists_session_of_label (visit.tidy.labelled _ member)
  · intro title resource service factory w got more title' resource' later
    refine ⟨?_, fun service' factory' w' got' => visit.get_eq_iff got got'⟩
    rintro ⟨same, kept⟩
    rcases mem_of_get got with ⟨site, member⟩
    have before : (visit.key title resource, service) ∈
        (visit.step (.get title resource)).site.factory.cache := by
      rw [site]
      exact member
    refine later.get_of_mem ?_
    have there := mem_cache_extend _ before kept
    rwa [same] at there
  · intro title resource error
    refine ⟨visit.get_eq_error_iff, fun failed => ?_⟩
    rw [site_step, Site.take, failed]
  · intro title resource
    have adds := World.addService_adds visit.site.world
      (title.getD visit.site.factory.config.defaultTitle) resource visit.site.factory.helper
    have made : (visit.step (.create title resource)).site.world.label?
        visit.site.world.services.length = some (visit.key title resource) := by
      rw [site_step, ← key_factory]
      show World.label? (World.addService _ _ _ _) _ = _
      rw [World.label?, adds.present, Option.map_some]
      rfl
    refine ⟨by rw [site_step]; rfl, World.exists_session_of_label made, ?_⟩
    intro more key member
    rcases kept_or_new _ member with ⟨earlier, _⟩ | absent
    · rw [site_step] at earlier
      have labelled := visit.tidy.labelled _ earlier
      rw [World.label?, adds.absent] at labelled
      cases labelled
    · rw [World.label?, absent] at made
      cases made
  · intro key service member more later
    have order := visit.inOrder
    have written : World.Calm visit.site.world (visit.site.world.write _) := World.Calm.refl.write
      (.debug ("Disposing " ++ Nat.repr visit.site.factory.size ++ " terminal services"))
    have disposed : (visit.step .disposeAll).site.world.phase? service = some .disposed := by
      rw [site_step]
      refine World.disposed_of_dispose_each visit.site.factory.cache (order.calm written)
        (fun entry among => ⟨entry.1, ?_⟩) _ member
      exact written.label? order (visit.tidy.labelled entry among)
    have gone := disposed_extend _ disposed more
    exact ⟨later.inOrder.registered.gone gone, World.held?_of_disposed gone,
      fun terminal handed => later.inOrder.released gone handed⟩

/-- A factory that may keep one service and keeps none yet. -/
def narrow : Visit where
  config := { maxTerminals := 1 }
  helper := .fixed none
  steps := []

/-- The default title stands for itself, there is no room for another title, and after the factory
was emptied the same request leads to another service. -/
theorem narrow_keeps_one :
    ∃ factory w, narrow.site.factory.get narrow.site.world none none = .ok (0, factory, w) ∧
      (let kept := (narrow.step (.get none none)).extend []
      kept.site.factory.get kept.site.world (some "Python") none =
        .ok (0, kept.site.factory, kept.site.world)) ∧
      (let kept := narrow.step (.get none none)
      kept.site.factory.get kept.site.world (some "Lint") none =
          .error (.terminalLimitReached 1) ∧
        (kept.step .disposeAll).site.world.phase? 0 = some .disposed) ∧
      let emptied := (narrow.step (.get none none)).extend [.disposeAll]
      ∃ service factory' w', emptied.site.factory.get emptied.site.world none none =
        .ok (service, factory', w') ∧ service ≠ 0 := by
  let kept := narrow.step (.get none none)
  have got : ∃ factory w,
      narrow.site.factory.get narrow.site.world none none = .ok (0, factory, w) := ⟨_, _, rfl⟩
  rcases got with ⟨factory, w, got⟩
  rcases one_service_is_kept_per_key narrow with ⟨_, again, _⟩
  rcases one_service_is_kept_per_key kept with ⟨_, _, limit, _, _, emptied⟩
  refine ⟨factory, w, got, ?_, ⟨?_, ?_⟩, ?_⟩
  · exact (again none none 0 factory w got [] (some "Python") none).1 ⟨rfl, List.not_mem_nil⟩
  · have absent := Factory.lookup?_eq_none_iff.mp
      (show kept.site.factory.lookup? ("Lint", none) = none by decide +kernel)
    exact (limit (some "Lint") none _).1.mpr ⟨rfl, absent, rfl⟩
  · exact (emptied ("Python", none) 0 (by decide +kernel) []).1.phase
  · have got' : ∃ service factory' w', (kept.extend [.disposeAll]).site.factory.get
        (kept.extend [.disposeAll]).site.world none none = .ok (service, factory', w') :=
      ⟨_, _, _, rfl⟩
    rcases got' with ⟨service, factory', w', got'⟩
    refine ⟨service, factory', w', got', fun same => ?_⟩
    have together := ((again none none 0 factory w got [.disposeAll] none none).2 service factory'
      w' got').mp same
    exact together.2 (List.mem_singleton_self _)

end Visit

end Terminal
end Workbench
