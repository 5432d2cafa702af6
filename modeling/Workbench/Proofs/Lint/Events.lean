import Workbench.Proofs.Lint.Run

namespace Workbench
namespace Lint

/-!
# What schedulers do about events

A scheduler that is not disposed listens to all channels, and nobody else does.  What it does about
an event is to start tasks, which depend on its configuration and on the switches and documents of
that moment (`eventTasks`), or to clear diagnostics.  Nothing else of the world changes.
-/

namespace World

variable {w w' w'' : World} {scheduler : Nat}

/-- A scheduler, unless it is disposed. -/
def live? (w : World) (scheduler : Nat) : Option Scheduler :=
  (w.schedulers[scheduler]?).bind fun s => if s.disposed then none else some s

theorem live?_eq_some_iff {s : Scheduler} :
    w.live? scheduler = some s ↔ w.schedulers[scheduler]? = some s ∧ s.disposed = false := by
  unfold live?
  cases w.schedulers[scheduler]? with
  | none => simp
  | some found =>
      cases disposed : found.disposed with
      | true =>
          simp only [Option.bind_some, disposed, if_true, Option.some.injEq, reduceCtorEq,
            false_iff]
          rintro ⟨rfl, live⟩
          rw [disposed] at live
          cases live
      | false =>
          simp only [Option.bind_some, disposed, Bool.false_eq_true, if_false, Option.some.injEq]
          constructor
          · rintro rfl
            exact ⟨rfl, disposed⟩
          · exact And.left

theorem live?_of_schedulers (same : w'.schedulers = w.schedulers) (scheduler : Nat) :
    w'.live? scheduler = w.live? scheduler := by
  rw [live?, live?, same]

/-- What does nothing for a disposed scheduler is done for one that is not. -/
theorem match_live (w : World) (scheduler : Nat) (f : Scheduler → World) :
    (match w.schedulers[scheduler]? with
      | none => w
      | some s => if s.disposed then w else f s) = (w.live? scheduler).elim w f := by
  unfold live?
  cases w.schedulers[scheduler]? with
  | none => rfl
  | some s => cases disposed : s.disposed <;> simp [disposed]

/-- Whether saving a document makes a scheduler lint it. -/
def lintsOnSave (w : World) (s : Scheduler) (document : Document) : Bool :=
  document.languageId == s.config.languageId && (w.table.switches document.uri).lintsOnSave

/-- The tasks that a scheduler starts because of an event. -/
def eventTasks (w : World) (scheduler : Nat) (s : Scheduler) : Action → List Task
  | .openDocument document => [.pass (.document document.uri .opened)]
  | .saveDocument document =>
    if w.lintsOnSave s document then [.pass (.document document.uri .saved)]
    else (document.baseName?.map (.lookUp scheduler document.uri)).toList
  | .changeConfiguration change =>
    (w.editors.documents.filter fun document =>
      change.affects s.config.configSection (some document.uri)).map fun document =>
        .pass (.document document.uri .configurationChanged)
  | .changeInterpreter => [.pass (.openFiles .interpreterChanged)]
  | _ => []

def tasksOf (w : World) (action : Action) (scheduler : Nat) : List Task :=
  match w.live? scheduler with
  | some s => w.eventTasks scheduler s action
  | none => []

/-- The tasks that are started because of an event. -/
def tasksAt (w : World) (action : Action) : List Task :=
  (List.range w.schedulers.length).flatMap (w.tasksOf action)

/-- Tasks are added to the queue, diagnostics are cleared, something is logged, and nothing else
happens. -/
def Asks (tasks : List Task) (w w' : World) : Prop :=
  ∃ cleared log, w' = { w with queue := w.queue ++ tasks, cleared, log }

namespace Asks

variable {first second : List Task}

theorem refl (w : World) : Asks [] w w :=
  ⟨w.cleared, w.log, by rw [List.append_nil]⟩

theorem trans (one : Asks first w w') (two : Asks second w' w'') :
    Asks (first ++ second) w w'' := by
  rcases one with ⟨cleared, log, rfl⟩
  rcases two with ⟨cleared', log', rfl⟩
  exact ⟨cleared', log', by rw [List.append_assoc]⟩

theorem spawn (w : World) (task : Task) : Asks [task] w (w.spawn task) :=
  ⟨w.cleared, w.log, rfl⟩

theorem write (w : World) (line : Log.Line) : Asks [] w (w.write line) :=
  ⟨w.cleared, w.log ++ [line], by rw [List.append_nil]; rfl⟩

theorem spawnAll (documents : List Document) (task : Document → Task) (w : World) :
    Asks (documents.map task) w
      (documents.foldl (fun w document => w.spawn (task document)) w) := by
  induction documents generalizing w with
  | nil => exact refl w
  | cons document rest inductionHypothesis =>
      exact (spawn w (task document)).trans (inductionHypothesis _)

end Asks

/-! ## One scheduler -/

section

variable {s : Scheduler}

theorem onOpened_asks (document : Document) :
    Asks (w.tasksOf (.openDocument document) scheduler) w (w.onOpened scheduler document) := by
  have eq : w.onOpened scheduler document = (w.live? scheduler).elim w fun _ =>
      w.spawn (.pass (.document document.uri .opened)) :=
    match_live w scheduler _
  rw [eq, tasksOf]
  cases w.live? scheduler with
  | none => exact .refl w
  | some s => exact .spawn w _

theorem onSaved_asks (document : Document) :
    Asks (w.tasksOf (.saveDocument document) scheduler) w (w.onSaved scheduler document) := by
  have eq : w.onSaved scheduler document = (w.live? scheduler).elim w fun s =>
      if w.lintsOnSave s document then w.spawn (.pass (.document document.uri .saved))
      else ((document.baseName?.map (.lookUp scheduler document.uri)).map w.spawn).getD w := by
    rw [← match_live]
    unfold onSaved lintsOnSave
    cases document.baseName? <;> rfl
  rw [eq, tasksOf]
  cases w.live? scheduler with
  | none => exact .refl w
  | some s =>
      cases lints : w.lintsOnSave s document with
      | true => simpa [eventTasks, lints] using Asks.spawn w _
      | false =>
          cases baseName : document.baseName? with
          | none => simpa [eventTasks, lints, baseName] using Asks.refl w
          | some baseName' => simpa [eventTasks, lints, baseName] using Asks.spawn w _

theorem tasksOf_closeDocument (w : World) (document : Document) (scheduler : Nat) :
    w.tasksOf (.closeDocument document) scheduler = [] := by
  unfold tasksOf
  cases w.live? scheduler <;> rfl

theorem onClosed_asks (document : Document) :
    Asks (w.tasksOf (.closeDocument document) scheduler) w (w.onClosed scheduler document) := by
  rw [tasksOf_closeDocument]
  unfold onClosed
  split
  · exact .refl w
  · split
    · exact .refl w
    · split
      · exact .write w _
      · exact ⟨_, _, by rw [List.append_nil]; rfl⟩

theorem onConfigurationChanged_asks (change : Change) :
    Asks (w.tasksOf (.changeConfiguration change) scheduler) w
      (w.onConfigurationChanged scheduler change) := by
  have eq : w.onConfigurationChanged scheduler change = (w.live? scheduler).elim w fun s =>
      (w.editors.documents.filter fun document =>
        change.affects s.config.configSection (some document.uri)).foldl
          (fun w document => w.spawn (.pass (.document document.uri .configurationChanged))) w :=
    match_live w scheduler _
  rw [eq, tasksOf]
  cases w.live? scheduler with
  | none => exact .refl w
  | some s => exact .spawnAll _ _ w

theorem onInterpreterChanged_asks :
    Asks (w.tasksOf .changeInterpreter scheduler) w (w.onInterpreterChanged scheduler) := by
  have eq : w.onInterpreterChanged scheduler = (w.live? scheduler).elim w fun _ =>
      w.spawn (.pass (.openFiles .interpreterChanged)) :=
    match_live w scheduler _
  rw [eq, tasksOf]
  cases w.live? scheduler with
  | none => exact .refl w
  | some s => exact .spawn w _

/-! ## All who listen -/

def listenersOn (w : World) (channel : Channel) : List Nat :=
  (w.listeners.filter fun entry => entry.1 == channel).map Prod.snd

theorem tasksOf_congr (schedulers : w'.schedulers = w.schedulers) (table : w'.table = w.table)
    (editors : w'.editors = w.editors) (action : Action) (scheduler : Nat) :
    w'.tasksOf action scheduler = w.tasksOf action scheduler := by
  unfold tasksOf
  rw [live?_of_schedulers schedulers]
  cases w.live? scheduler with
  | none => rfl
  | some s => cases action <;> simp [eventTasks, lintsOnSave, table, editors]

/-- What a scheduler does about an event does not depend on what others did before. -/
theorem Asks.tasksOf {started : List Task} (asks : Asks started w w') (action : Action)
    (scheduler : Nat) : w'.tasksOf action scheduler = w.tasksOf action scheduler := by
  rcases asks with ⟨cleared, log, rfl⟩
  exact tasksOf_congr rfl rfl rfl action scheduler

theorem tell_asks {action : Action} {event : World → Nat → World}
    (each : ∀ v scheduler, Asks (v.tasksOf action scheduler) v (event v scheduler))
    (channel : Channel) :
    Asks ((w.listenersOn channel).flatMap (w.tasksOf action)) w (w.tell channel event) := by
  have telling (schedulers : List Nat) (v : World) (started : List Task) (asks : Asks started w v) :
      Asks (started ++ schedulers.flatMap (w.tasksOf action)) w (schedulers.foldl event v) := by
    induction schedulers generalizing v started with
    | nil => rwa [List.flatMap_nil, List.append_nil]
    | cons scheduler rest inductionHypothesis =>
        have next := each v scheduler
        rw [asks.tasksOf] at next
        rw [List.flatMap_cons, ← List.append_assoc]
        exact inductionHypothesis _ _ (asks.trans next)
  exact telling (w.listenersOn channel) w [] (.refl w)

/-- Exactly the schedulers that are not disposed listen, to all channels alike, and a scheduler that
was dropped is disposed. -/
structure Attuned (w : World) : Prop where
  listening : ∀ channel, w.listenersOn channel =
    (List.range w.schedulers.length).filter fun scheduler => (w.live? scheduler).isSome
  dropped : ∀ {scheduler : Nat} {s : Scheduler}, w.schedulers[scheduler]? = some s →
    s.dropped = true → s.disposed = true

theorem Attuned.of_eq (attuned : w.Attuned) (schedulers : w'.schedulers = w.schedulers)
    (listeners : w'.listeners = w.listeners) : w'.Attuned where
  listening := fun channel => by
    rw [listenersOn, listeners, ← listenersOn, attuned.listening, schedulers]
    simp only [live?_of_schedulers schedulers]
  dropped := fun found => by
    rw [schedulers] at found
    exact attuned.dropped found

theorem Attuned.flatMap_tasksOf (attuned : w.Attuned) (action : Action) (channel : Channel) :
    (w.listenersOn channel).flatMap (w.tasksOf action) = w.tasksAt action := by
  rw [attuned.listening, tasksAt]
  induction List.range w.schedulers.length with
  | nil => rfl
  | cons scheduler rest inductionHypothesis =>
      rw [List.flatMap_cons, ← inductionHypothesis, List.filter_cons]
      cases live : w.live? scheduler with
      | none => simp [tasksOf, live]
      | some s => simp

end

end World

end Lint
end Workbench
