import Workbench.Proofs.Lint.Orders

namespace Workbench
namespace Lint

/-!
# Who listens

Along every run exactly the schedulers that are not disposed listen, to all channels alike, so that
`Happens` describes all that follows.
-/

namespace World

variable {w w' : World}

/-- Only the flags of schedulers matter to who listens. -/
def flags (w : World) : List (Bool × Bool) :=
  w.schedulers.map fun s => (s.disposed, s.dropped)

theorem isSome_live? (w : World) (scheduler : Nat) :
    (w.live? scheduler).isSome = ((w.flags[scheduler]?).map fun entry => !entry.1).getD false := by
  rw [flags, List.getElem?_map, live?]
  cases w.schedulers[scheduler]? with
  | none => rfl
  | some s => cases disposed : s.disposed <;> simp [disposed]

theorem Attuned.of_flags (attuned : w.Attuned) (flags : w'.flags = w.flags)
    (listeners : w'.listeners = w.listeners) : w'.Attuned where
  listening := fun channel => by
    have length := congrArg List.length flags
    rw [World.flags, World.flags, List.length_map, List.length_map] at length
    rw [listenersOn, listeners, ← listenersOn, attuned.listening, length]
    simp only [isSome_live?, flags]
  dropped := fun {scheduler s} found gone => by
    have same := congrArg (·[scheduler]?) flags
    simp only [World.flags, List.getElem?_map, found, Option.map_some] at same
    rcases Option.map_eq_some_iff.mp same.symm with ⟨s', found', same⟩
    rw [Prod.mk.injEq] at same
    rw [← same.1]
    exact attuned.dropped found' (same.2.trans gone)

theorem flags_modify {scheduler : Nat} {f : Scheduler → Scheduler}
    (schedulers : w'.schedulers = w.schedulers.modify scheduler f)
    (same : ∀ s, (f s).disposed = s.disposed ∧ (f s).dropped = s.dropped) : w'.flags = w.flags := by
  apply List.ext_getElem?
  intro other
  rw [flags, flags, schedulers, List.getElem?_map, List.getElem?_map, List.getElem?_modify]
  cases w.schedulers[other]? with
  | none => rfl
  | some s => by_cases here : scheduler = other <;> simp [here, same]

theorem schedule_flags (w : World) (scheduler delay : Nat) (reason : Reason) :
    (w.schedule scheduler delay reason).flags = w.flags ∧
      (w.schedule scheduler delay reason).listeners = w.listeners := by
  rw [schedule_eq]
  cases w.live? scheduler with
  | none => exact ⟨rfl, rfl⟩
  | some s => exact ⟨flags_modify rfl fun _ => ⟨rfl, rfl⟩, rfl⟩

/-- A scheduler that is added listens to all channels, and nothing else changes. -/
theorem Attuned.added (attuned : w.Attuned) (config : Config)
    (schedulers : w'.schedulers = w.schedulers ++ [({ config } : Scheduler)])
    (listeners : w'.listeners =
      w.listeners ++ Channel.all.map fun channel => (channel, w.schedulers.length)) :
    w'.Attuned := by
  have before {scheduler : Nat} (inside : scheduler < w.schedulers.length) :
      w'.schedulers[scheduler]? = w.schedulers[scheduler]? := by
    rw [schedulers, List.getElem?_append_left inside]
  have last : w'.schedulers[w.schedulers.length]? = some ({ config } : Scheduler) := by
    rw [schedulers, List.getElem?_concat_length]
  have length : w'.schedulers.length = w.schedulers.length + 1 := by
    rw [schedulers, List.length_append, List.length_singleton]
  refine ⟨fun channel => ?_, fun {scheduler s} found gone => ?_⟩
  · have more : w'.listenersOn channel = w.listenersOn channel ++ [w.schedulers.length] := by
      rw [listenersOn, listeners, List.filter_append, List.map_append]
      cases channel <;> rfl
    have same : (List.range w.schedulers.length).filter (fun scheduler =>
        (w'.live? scheduler).isSome) = w.listenersOn channel := by
      rw [attuned.listening]
      refine List.filter_congr fun scheduler member => ?_
      rw [live?, live?, before (List.mem_range.mp member)]
    rw [more, length, List.range_succ, List.filter_append, same]
    simp [live?, last]
  · have inside : scheduler < w'.schedulers.length := (List.getElem?_eq_some_iff.mp found).1
    rw [length, Nat.lt_succ_iff_lt_or_eq] at inside
    rcases inside with earlier | rfl
    · rw [before earlier] at found
      exact attuned.dropped found gone
    · rw [last] at found
      cases found
      cases gone

theorem addScheduler_attuned (attuned : w.Attuned) (config : Config) :
    (w.addScheduler config).Attuned := by
  let added : World :=
    { w with
      schedulers := w.schedulers ++ [({ config } : Scheduler)]
      listeners := w.listeners ++ Channel.all.map fun channel => (channel, w.schedulers.length) }
  have listens (line : Log.Line) : (added.write line).Attuned := attuned.added config rfl rfl
  unfold addScheduler
  dsimp only
  split
  · exact (listens _).of_flags (schedule_flags _ _ _ _).1 (schedule_flags _ _ _ _).2
  · exact attuned.added config rfl rfl

theorem disposeScheduler_attuned (attuned : w.Attuned) (scheduler : Nat) :
    (w.disposeScheduler scheduler).Attuned := by
  cases live : w.live? scheduler with
  | none => rwa [disposeScheduler_of_disposed live]
  | some s =>
      have retires := disposeScheduler_retires live
      rcases disposeScheduler_schedulers live with ⟨schedulers, listeners, _⟩
      have length : (w.disposeScheduler scheduler).schedulers.length = w.schedulers.length := by
        rw [schedulers, List.length_modify]
      refine ⟨fun channel => ?_, fun {other t} found gone => ?_⟩
      · have fewer : (w.disposeScheduler scheduler).listenersOn channel =
            (w.listenersOn channel).filter (· != scheduler) := by
          rw [listenersOn, listenersOn, listeners, List.filter_map, List.filter_filter,
            List.filter_filter]
          simp only [Function.comp_def, Bool.and_comm]
        rw [fewer, attuned.listening, length, List.filter_filter]
        refine List.filter_congr fun other _ => ?_
        rw [retires.live]
        by_cases here : other = scheduler <;> simp [here]
      · rw [schedulers, List.getElem?_modify] at found
        rcases Option.map_eq_some_iff.mp found with ⟨before, found', rfl⟩
        by_cases here : scheduler = other
        · simp [here]
        · simp only [here, if_false] at gone ⊢
          exact attuned.dropped found' gone

theorem dropScheduler_attuned (attuned : w.Attuned) (scheduler : Nat) :
    (w.dropScheduler scheduler).Attuned := by
  have disposed := disposeScheduler_attuned attuned scheduler
  have calm := w.dropScheduler_calm scheduler
  have schedulers : (w.dropScheduler scheduler).schedulers =
      (w.disposeScheduler scheduler).schedulers.modify scheduler ({ · with dropped := true }) := rfl
  have length : (w.dropScheduler scheduler).schedulers.length =
      (w.disposeScheduler scheduler).schedulers.length := by
    rw [schedulers, List.length_modify]
  refine ⟨fun channel => ?_, fun {other t} found gone => ?_⟩
  · have same : (w.dropScheduler scheduler).listenersOn channel =
        (w.disposeScheduler scheduler).listenersOn channel := rfl
    rw [same, disposed.listening, length]
    simp only [calm.live]
  · rw [schedulers, List.getElem?_modify] at found
    rcases Option.map_eq_some_iff.mp found with ⟨before, found', rfl⟩
    by_cases here : scheduler = other
    · subst here
      have none := w.live?_disposeScheduler scheduler
      rw [live?, found', Option.bind_some] at none
      cases standing : before.disposed with
      | true => simp
      | false => simp [standing] at none
    · simp only [here, if_false] at gone ⊢
      exact disposed.dropped found' gone

theorem turnAt_attuned (attuned : w.Attuned) (place : Nat) : (w.turnAt place).Attuned := by
  have lints (v : World) (pass : Pass) :
      (v.lint pass).flags = v.flags ∧ (v.lint pass).listeners = v.listeners := by
    cases pass <;> (unfold lint; dsimp only; split <;> exact ⟨rfl, rfl⟩)
  unfold turnAt
  cases found : w.queue[place]? with
  | none => exact attuned
  | some task =>
      have attuned' : ({ w with queue := w.queue.eraseIdx place } : World).Attuned :=
        attuned.of_eq rfl rfl
      generalize { w with queue := w.queue.eraseIdx place } = v at attuned'
      dsimp only
      cases task with
      | pass pass => exact attuned'.of_flags (lints v pass).1 (lints v pass).2
      | lookUp scheduler uri baseName =>
          show (v.lookUp scheduler uri baseName).Attuned
          unfold lookUp
          dsimp only
          split
          · exact attuned'.of_eq rfl rfl
          · split
            · split
              · exact attuned'.of_eq rfl rfl
              · exact attuned'.of_flags (schedule_flags _ _ _ _).1 (schedule_flags _ _ _ _).2
            · exact attuned'.of_eq rfl rfl
      | delayed index =>
          show (v.awaitDue index).Attuned
          unfold awaitDue
          split
          · exact attuned'
          · split
            · exact attuned'
            · split
              · exact attuned'.of_flags (lints _ _).1 (lints _ _).2
              · exact attuned'.of_eq rfl rfl

theorem Asks.attuned {tasks : List Task} (asks : Asks tasks w w') (attuned : w.Attuned) :
    w'.Attuned := by
  rcases asks with ⟨cleared, log, rfl⟩
  exact attuned.of_eq rfl rfl

theorem act_attuned (attuned : w.Attuned) (action : Action) : (w.act action).Attuned := by
  cases action with
  | start config =>
      show ((w.startScheduler config).toOption.getD w).Attuned
      unfold startScheduler
      split
      · exact addScheduler_attuned attuned config
      · exact attuned
  | dispose scheduler => exact disposeScheduler_attuned attuned scheduler
  | drop scheduler => exact dropScheduler_attuned attuned scheduler
  | openDocument document =>
      exact (tell_asks (w := { w with editors := w.editors.add document })
        (fun _ _ => onOpened_asks document) .opened).attuned (attuned.of_eq rfl rfl)
  | closeDocument document =>
      exact (tell_asks (w := { w with editors := w.editors.close document.uri })
        (fun _ _ => onClosed_asks document) .closed).attuned (attuned.of_eq rfl rfl)
  | saveDocument document =>
      exact (tell_asks (fun _ _ => onSaved_asks document) .saved).attuned attuned
  | changeConfiguration change =>
      exact (tell_asks (fun _ _ => onConfigurationChanged_asks change) .configuration).attuned
        attuned
  | changeInterpreter =>
      exact (tell_asks (fun _ _ => onInterpreterChanged_asks) .interpreter).attuned attuned
  | setSwitches | setLinters | failLookups | failEngine | pass => exact attuned.of_eq rfl rfl
  | turn place => exact turnAt_attuned attuned place
  | fire due =>
      show (if due ≤ w.now then w.fire due else w).Attuned
      split
      · exact attuned.of_eq rfl rfl
      · exact attuned

end World

namespace Run

theorem attuned (run : Run) : run.world.Attuned := by
  induction run using Run.induction with
  | start hasRuntime => exact ⟨fun _ => rfl, fun found => by cases found⟩
  | step run action inductionHypothesis =>
      rw [world_step]
      exact World.act_attuned inductionHypothesis action

theorem happens (run : Run) (action : Action) :
    World.Happens run.world action (run.world.act action) :=
  World.act_happens run.attuned action

end Run

end Lint
end Workbench
