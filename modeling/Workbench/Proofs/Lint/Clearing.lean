import Workbench.Proofs.Lint.Listening

namespace Workbench
namespace Lint

/-!
# What the editors show

Only opening and closing documents changes what the editors show.  Diagnostics are cleared by the
schedulers that are not disposed, when the last editor is closed that shows a document with a path,
and at no other time.
-/

/-- Whether a document is opened in one more editor. -/
def Action.opens (uri : Url) : Action → Bool
  | openDocument document => document.uri == uri
  | _ => false

namespace World

variable {w w' w'' : World} {action : Action}

/-- What the editors show after an action. -/
def editorsAfter (w : World) : Action → Editors
  | .openDocument document => w.editors.add document
  | .closeDocument document => w.editors.close document.uri
  | _ => w.editors

/-- The document whose diagnostics a scheduler clears. -/
def clearsOf (w : World) (action : Action) (scheduler : Nat) : List Url :=
  match action with
  | .closeDocument document =>
    if (w.live? scheduler).isSome && document.filePath?.isSome &&
        !(w.editorsAfter action).isOpen document.uri then [document.uri]
    else []
  | _ => []

/-- The diagnostics that are cleared, once by each scheduler. -/
def clearedAt (w : World) (action : Action) : List Url :=
  (List.range w.schedulers.length).flatMap (w.clearsOf action)

/-- Editors show what they showed, no diagnostics are cleared, and there is a runtime if there was
one. -/
structure SameView (w w' : World) : Prop where
  editors : w'.editors = w.editors
  cleared : w'.cleared = w.cleared
  hasRuntime : w'.hasRuntime = w.hasRuntime

theorem SameView.refl (w : World) : SameView w w :=
  ⟨rfl, rfl, rfl⟩

theorem SameView.after (same : SameView w' w'') (editors : w'.editors = w.editors)
    (cleared : w'.cleared = w.cleared) (hasRuntime : w'.hasRuntime = w.hasRuntime) :
    SameView w w'' :=
  ⟨same.editors.trans editors, same.cleared.trans cleared, same.hasRuntime.trans hasRuntime⟩

/-! ## Tasks and schedulers -/

theorem lint_sameView (w : World) (pass : Pass) : SameView w (w.lint pass) := by
  cases pass <;> (unfold lint; dsimp only; split <;> exact ⟨rfl, rfl, rfl⟩)

theorem schedule_sameView (w : World) (scheduler delay : Nat) (reason : Reason) :
    SameView w (w.schedule scheduler delay reason) := by
  rw [schedule_eq]
  cases w.live? scheduler <;> exact ⟨rfl, rfl, rfl⟩

theorem lookUp_sameView (w : World) (scheduler : Nat) (uri : Url) (baseName : String) :
    SameView w (w.lookUp scheduler uri baseName) := by
  unfold lookUp
  dsimp only
  split
  · exact ⟨rfl, rfl, rfl⟩
  · split
    · split
      · exact ⟨rfl, rfl, rfl⟩
      · exact (schedule_sameView _ _ _ _).after rfl rfl rfl
    · exact ⟨rfl, rfl, rfl⟩

theorem awaitDue_sameView (w : World) (index : Nat) : SameView w (w.awaitDue index) := by
  unfold awaitDue
  split
  · exact .refl w
  · split
    · exact .refl w
    · split
      · exact (lint_sameView _ _).after rfl rfl rfl
      · exact ⟨rfl, rfl, rfl⟩

theorem turnAt_sameView (w : World) (place : Nat) : SameView w (w.turnAt place) := by
  cases found : w.queue[place]? with
  | none =>
      rw [turnAt_of_none found]
      exact .refl w
  | some task =>
      rw [turnAt_of_getElem? found]
      cases task with
      | pass pass => exact (lint_sameView _ pass).after rfl rfl rfl
      | lookUp scheduler uri baseName =>
          exact (lookUp_sameView _ scheduler uri baseName).after rfl rfl rfl
      | delayed index => exact (awaitDue_sameView _ index).after rfl rfl rfl

theorem addScheduler_sameView (w : World) (config : Config) :
    SameView w (w.addScheduler config) := by
  unfold addScheduler
  dsimp only
  split
  · have scheduled (v : World) :=
      schedule_sameView v w.schedulers.length config.startupDelay .startup
    exact ⟨(scheduled _).editors, (scheduled _).cleared, (scheduled _).hasRuntime⟩
  · exact ⟨rfl, rfl, rfl⟩

theorem disposeScheduler_sameView (w : World) (scheduler : Nat) :
    SameView w (w.disposeScheduler scheduler) := by
  unfold disposeScheduler
  split
  · exact .refl w
  · split <;> exact ⟨rfl, rfl, rfl⟩

/-! ## Events -/

theorem tell_sameView {event : World → Nat → World}
    (each : ∀ v scheduler, SameView v (event v scheduler)) (w : World) (channel : Channel) :
    SameView w (w.tell channel event) := by
  have telling (schedulers : List Nat) (v : World) : SameView v (schedulers.foldl event v) := by
    induction schedulers generalizing v with
    | nil => exact .refl v
    | cons scheduler rest inductionHypothesis =>
        have first := each v scheduler
        exact (inductionHypothesis _).after first.editors first.cleared first.hasRuntime
  exact telling (w.listenersOn channel) w

theorem spawnAll_sameView (documents : List Document) (task : Document → Task) (w : World) :
    SameView w (documents.foldl (fun w document => w.spawn (task document)) w) := by
  induction documents generalizing w with
  | nil => exact .refl w
  | cons document rest inductionHypothesis =>
      exact (inductionHypothesis _).after rfl rfl rfl

/-- Only a scheduler that is not disposed does anything about an event. -/
theorem sameView_of_live {scheduler : Nat} {f : Scheduler → World}
    (same : w' = (w.live? scheduler).elim w f) (each : ∀ s, SameView w (f s)) : SameView w w' := by
  rw [same]
  cases w.live? scheduler with
  | none => exact .refl w
  | some s => exact each s

theorem onOpened_sameView (w : World) (scheduler : Nat) (document : Document) :
    SameView w (w.onOpened scheduler document) :=
  sameView_of_live (match_live w scheduler _) fun _ => ⟨rfl, rfl, rfl⟩

theorem onSaved_sameView (w : World) (scheduler : Nat) (document : Document) :
    SameView w (w.onSaved scheduler document) := by
  unfold onSaved
  split
  · exact .refl w
  · split
    · exact .refl w
    · split
      · exact ⟨rfl, rfl, rfl⟩
      · split
        · exact ⟨rfl, rfl, rfl⟩
        · exact .refl w

theorem onConfigurationChanged_sameView (w : World) (scheduler : Nat) (change : Change) :
    SameView w (w.onConfigurationChanged scheduler change) :=
  sameView_of_live (match_live w scheduler _) fun _ => spawnAll_sameView _ _ w

theorem onInterpreterChanged_sameView (w : World) (scheduler : Nat) :
    SameView w (w.onInterpreterChanged scheduler) :=
  sameView_of_live (match_live w scheduler _) fun _ => ⟨rfl, rfl, rfl⟩

/-- A scheduler that hears of a closed document clears its diagnostics, unless the document is still
open elsewhere or has no path. -/
theorem onClosed_cleared (w : World) (scheduler : Nat) (document : Document) :
    (w.onClosed scheduler document).cleared = w.cleared ++
      if (w.live? scheduler).isSome && document.filePath?.isSome &&
        !w.editors.isOpen document.uri then [document.uri] else [] := by
  unfold onClosed live?
  cases w.schedulers[scheduler]? with
  | none => simp
  | some s =>
      cases disposed : s.disposed with
      | true => simp [disposed]
      | false =>
          cases path : document.filePath? with
          | none => simp
          | some path' =>
              cases shown : w.editors.isOpen document.uri <;> simp [disposed, World.write]

theorem Asks.frame {tasks : List Task} (asks : Asks tasks w w') :
    w'.editors = w.editors ∧ w'.schedulers = w.schedulers ∧ w'.hasRuntime = w.hasRuntime := by
  rcases asks with ⟨cleared, log, rfl⟩
  exact ⟨rfl, rfl, rfl⟩

/-- When a document is closed in an editor, every scheduler that is not disposed hears of it. -/
theorem closeDocument_sameView (attuned : w.Attuned) (document : Document) :
    SameView
      { w with
        editors := w.editors.close document.uri
        cleared := w.cleared ++ w.clearedAt (.closeDocument document) }
      (w.closeDocument document) := by
  let closed : World := { w with editors := w.editors.close document.uri }
  have telling (schedulers : List Nat) (v : World) (editors : v.editors = closed.editors)
      (same : v.schedulers = w.schedulers) :
      SameView
        { v with cleared := v.cleared ++ schedulers.flatMap (w.clearsOf (.closeDocument document)) }
        (schedulers.foldl (fun w scheduler => w.onClosed scheduler document) v) := by
    induction schedulers generalizing v with
    | nil => exact ⟨rfl, (List.append_nil _).symm, rfl⟩
    | cons scheduler rest inductionHypothesis =>
        have asks : Asks (v.tasksOf (.closeDocument document) scheduler) v
          (v.onClosed scheduler document) := onClosed_asks document
        rcases asks.frame with ⟨editors', same', hasRuntime⟩
        refine (inductionHypothesis _ (editors'.trans editors) (same'.trans same)).after editors' ?_
          hasRuntime
        show _ ++ _ = _ ++ _
        rw [onClosed_cleared, live?_of_schedulers same, editors, List.flatMap_cons,
          List.append_assoc]
        rfl
  have listening : (w.listenersOn .closed).flatMap (w.clearsOf (.closeDocument document)) =
      w.clearedAt (.closeDocument document) := by
    rw [attuned.listening, clearedAt]
    induction List.range w.schedulers.length with
    | nil => rfl
    | cons scheduler rest inductionHypothesis =>
        rw [List.flatMap_cons, ← inductionHypothesis, List.filter_cons]
        cases live : w.live? scheduler with
        | none => simp [clearsOf, live]
        | some s => simp
  have all := telling (w.listenersOn .closed) closed rfl rfl
  rw [listening] at all
  exact all

/-! ## Actions -/

theorem clearedAt_eq_nil (none : ∀ scheduler, w.clearsOf action scheduler = []) :
    w.clearedAt action = [] :=
  List.flatMap_eq_nil_iff.mpr fun scheduler _ => none scheduler

/-- What every action does to editors and diagnostics. -/
theorem act_sameView (attuned : w.Attuned) (action : Action) :
    SameView
      { w with
        editors := w.editorsAfter action
        cleared := w.cleared ++ w.clearedAt action }
      (w.act action) := by
  have unchanged {w' : World} {action : Action} (same : SameView w w')
      (editors : w.editorsAfter action = w.editors)
      (none : ∀ scheduler, w.clearsOf action scheduler = []) :
      SameView
        { w with
          editors := w.editorsAfter action
          cleared := w.cleared ++ w.clearedAt action } w' := by
    rw [clearedAt_eq_nil none, List.append_nil, editors]
    exact same
  cases action with
  | openDocument document =>
      have same : SameView { w with editors := w.editors.add document } (w.openDocument document) :=
        tell_sameView (fun v scheduler => v.onOpened_sameView scheduler document) _ .opened
      rw [clearedAt_eq_nil fun _ => rfl, List.append_nil]
      exact same
  | closeDocument document => exact closeDocument_sameView attuned document
  | start config =>
      have same : SameView w ((w.startScheduler config).toOption.getD w) := by
        unfold startScheduler
        split
        · exact addScheduler_sameView w config
        · exact .refl w
      exact unchanged same rfl fun _ => rfl
  | dispose scheduler => exact unchanged (disposeScheduler_sameView w scheduler) rfl fun _ => rfl
  | drop scheduler =>
      have disposed := disposeScheduler_sameView w scheduler
      have same : SameView w (w.dropScheduler scheduler) :=
        ⟨disposed.editors, disposed.cleared, disposed.hasRuntime⟩
      exact unchanged same rfl fun _ => rfl
  | saveDocument document =>
      exact unchanged
        (tell_sameView (fun v scheduler => v.onSaved_sameView scheduler document) w .saved) rfl
        fun _ => rfl
  | changeConfiguration change =>
      exact unchanged
        (tell_sameView (fun v scheduler => v.onConfigurationChanged_sameView scheduler change) w
          .configuration) rfl fun _ => rfl
  | changeInterpreter =>
      exact unchanged
        (tell_sameView (fun v scheduler => v.onInterpreterChanged_sameView scheduler) w
          .interpreter) rfl fun _ => rfl
  | turn place => exact unchanged (turnAt_sameView w place) rfl fun _ => rfl
  | setSwitches | setLinters | failLookups | failEngine | pass =>
      exact unchanged ⟨rfl, rfl, rfl⟩ rfl fun _ => rfl
  | fire due =>
      have same : SameView w (if due ≤ w.now then w.fire due else w) := by
        split
        · exact ⟨rfl, rfl, rfl⟩
        · exact .refl w
      exact unchanged same rfl fun _ => rfl

end World

end Lint
end Workbench
