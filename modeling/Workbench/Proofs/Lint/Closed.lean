import Workbench.Proofs.Lint.Clearing
import Workbench.Proofs.Lint.Requests

namespace Workbench
namespace Lint

/-!
# Documents that are closed

The task that lints a document runs on its own, so that it may have its turn when the document is
closed already.  But such a task is only started while some editor shows the document, if documents
are saved only while they are open: after the last editor was closed, the engine is asked only for
what had been started before.
-/

namespace Editors

variable {editors : Editors}

theorem mem_of_mem_insertNew {documents : List Document} {document other : Document}
    (member : other ∈ insertNew documents document) : other ∈ documents ∨ other = document := by
  unfold insertNew at member
  split at member
  · exact Or.inl member
  · rcases List.mem_append.mp member with earlier | last
    · exact Or.inl earlier
    · exact Or.inr (List.mem_singleton.mp last)

/-- The listed documents are shown in some editor. -/
theorem shown_of_mem_documents {document : Document} (member : document ∈ editors.documents) :
    document ∈ editors.shown := by
  have listing (shown listed : List Document)
      (member : document ∈ shown.foldl insertNew listed) :
      document ∈ listed ∨ document ∈ shown := by
    induction shown generalizing listed with
    | nil => exact Or.inl member
    | cons first rest inductionHypothesis =>
        rcases inductionHypothesis _ member with earlier | later
        · rcases mem_of_mem_insertNew earlier with earlier | here
          · exact Or.inl earlier
          · exact Or.inr (by rw [here]; exact List.mem_cons_self)
        · exact Or.inr (List.mem_cons_of_mem first later)
  exact (listing editors.shown [] member).resolve_left List.not_mem_nil

theorem isOpen_eq_true_iff {uri : Url} :
    editors.isOpen uri = true ↔ ∃ document ∈ editors.shown, document.uri = uri := by
  simp [isOpen]

theorem isOpen_of_mem_documents {document : Document} (member : document ∈ editors.documents) :
    editors.isOpen document.uri = true :=
  isOpen_eq_true_iff.mpr ⟨document, shown_of_mem_documents member, rfl⟩

theorem isOpen_add (document : Document) : (editors.add document).isOpen document.uri = true :=
  isOpen_eq_true_iff.mpr
    ⟨document, List.mem_append_right _ (List.mem_singleton.mpr rfl), rfl⟩

/-- A document that is not open is opened only by opening it. -/
theorem isOpen_add_of_ne {document : Document} {uri : Url} (different : document.uri ≠ uri)
    (closed : editors.isOpen uri = false) : (editors.add document).isOpen uri = false := by
  rw [← Bool.not_eq_true] at closed ⊢
  intro opened
  rcases isOpen_eq_true_iff.mp opened with ⟨other, member, same⟩
  rcases List.mem_append.mp member with earlier | last
  · exact closed (isOpen_eq_true_iff.mpr ⟨other, earlier, same⟩)
  · rw [List.mem_singleton.mp last] at same
    exact different same

theorem isOpen_close {uri other : Url} (closed : editors.isOpen uri = false) :
    (editors.close other).isOpen uri = false := by
  rw [← Bool.not_eq_true] at closed ⊢
  intro opened
  rcases isOpen_eq_true_iff.mp opened with ⟨document, member, same⟩
  exact closed (isOpen_eq_true_iff.mpr ⟨document, List.mem_of_mem_eraseP member, same⟩)

end Editors

namespace Pass

/-- Whether the engine is asked to lint a single document. -/
def lints (uri : Url) : Pass → Bool
  | document other _ => other == uri
  | openFiles _ => false

end Pass

namespace World

variable {w : World} {action : Action} {uri : Url}

/-- The document that is saved although no editor shows it. -/
def strayAt (w : World) : Action → List Document
  | .saveDocument document => if w.editors.isOpen document.uri then [] else [document]
  | _ => []

/-- The tasks waiting that lint a document. -/
def waitingFor (w : World) (uri : Url) : List Pass :=
  (w.queue.filterMap Task.pass?).filter (Pass.lints uri)

theorem lints_of_causedAt {pass : Pass} (member : pass ∈ w.causedAt action) :
    ∃ scheduler s, w.live? scheduler = some s ∧ .pass pass ∈ w.eventTasks scheduler s action := by
  rcases List.mem_filterMap.mp member with ⟨task, started, same⟩
  rcases List.mem_flatMap.mp started with ⟨scheduler, _, started⟩
  unfold tasksOf at started
  split at started
  · rename_i s live
    cases task with
    | pass pass' =>
        cases same
        exact ⟨scheduler, s, live, started⟩
    | lookUp | delayed => cases same
  · cases started

/-- When an event makes a scheduler lint a document, some editor shows the document. -/
theorem isOpen_of_causedAt (attuned : w.Attuned) (tidy : w.strayAt action = []) {pass : Pass}
    (member : pass ∈ w.causedAt action) (lints : pass.lints uri = true) :
    (w.act action).editors.isOpen uri = true := by
  rw [(act_sameView attuned action).editors]
  rcases lints_of_causedAt member with ⟨scheduler, s, _, started⟩
  show (w.editorsAfter action).isOpen uri = true
  cases action with
  | openDocument document =>
      cases List.mem_singleton.mp started
      cases eq_of_beq lints
      exact Editors.isOpen_add document
  | saveDocument document =>
      have shown : w.editors.isOpen document.uri = true := by
        rw [← Bool.not_eq_false]
        intro stray
        simp [strayAt, stray] at tidy
      unfold eventTasks at started
      dsimp only at started
      split at started
      · cases List.mem_singleton.mp started
        cases eq_of_beq lints
        exact shown
      · rw [Option.mem_toList] at started
        rcases Option.map_eq_some_iff.mp started with ⟨baseName, _, same⟩
        cases same
  | changeConfiguration change =>
      rcases List.mem_map.mp started with ⟨document, listed, same⟩
      cases same
      cases eq_of_beq lints
      exact Editors.isOpen_of_mem_documents (List.mem_of_mem_filter listed)
  | changeInterpreter =>
      cases List.mem_singleton.mp started
      cases lints
  | _ => cases started

/-- A document stays closed until it is opened. -/
theorem isOpen_act (attuned : w.Attuned) (unopened : action.opens uri = false)
    (closed : w.editors.isOpen uri = false) : (w.act action).editors.isOpen uri = false := by
  rw [(act_sameView attuned action).editors]
  show (w.editorsAfter action).isOpen uri = false
  cases action with
  | openDocument document => exact Editors.isOpen_add_of_ne (ne_of_beq_false unopened) closed
  | closeDocument document => exact Editors.isOpen_close closed
  | _ => exact closed

end World

namespace Run

variable {run : Run} {uri : Url}

/-- The documents that were saved although no editor showed them. -/
def strays (run : Run) : List Document :=
  run.collect World.strayAt

/-- While a document is closed, no pass over it is asked for. -/
theorem caused_of_closed (closed : run.world.editors.isOpen uri = false) {more : List Action}
    (tidy : run.world.collect World.strayAt more = [])
    (unopened : ∀ action ∈ more, action.opens uri = false) :
    (run.extend more).world.editors.isOpen uri = false ∧
      (run.world.collect World.causedAt more).filter (Pass.lints uri) = [] := by
  induction more generalizing run with
  | nil =>
      rw [extend_nil]
      exact ⟨closed, rfl⟩
  | cons action rest inductionHypothesis =>
      rw [World.collect, List.append_eq_nil_iff] at tidy
      have still : (run.step action).world.editors.isOpen uri = false := by
        rw [world_step]
        exact World.isOpen_act run.attuned (unopened action List.mem_cons_self) closed
      have none : (run.world.causedAt action).filter (Pass.lints uri) = [] := by
        refine List.filter_eq_nil_iff.mpr fun pass member lints => ?_
        have shown := World.isOpen_of_causedAt run.attuned tidy.1 member lints
        rw [← world_step, still] at shown
        cases shown
      rcases inductionHypothesis still (by rw [world_step]; exact tidy.2)
        fun other member => unopened other (List.mem_cons_of_mem action member) with ⟨last, others⟩
      rw [world_step] at others
      rw [extend_cons]
      refine ⟨last, ?_⟩
      rw [World.collect, List.filter_append, none, others]
      rfl

/-- A document that is opened and closed in its only editor, before its task has a turn. -/
def closedEarly : Run :=
  let document : Document :=
    { uri := { scheme := "untitled", path := "work/a.py" }, languageId := "python" }
  { actions :=
      [.start ⟨"python", "python", 5, 10, false⟩, .openDocument document,
        .closeDocument document] }

/-- The task has its turn when the diagnostics of the document are cleared and no editor shows
it. -/
theorem closed_documents_are_linted :
    let uri : Url := { scheme := "untitled", path := "work/a.py" }
    closedEarly.strays = [] ∧ closedEarly.world.editors.isOpen uri = false ∧
      closedEarly.world.cleared = [uri] ∧ closedEarly.world.passes = [] ∧
        (closedEarly.step (.turn 0)).world.passes = [.document uri .opened] := by
  decide +kernel

/-- If documents are saved only while they are open, the engine is asked to lint a document only
because of events during which some editor showed it, once for each pass that they ask for.  While
the document is closed no more of these passes are started; those that were waiting when the last
editor was closed reach the engine once or are still waiting. -/
theorem lints_are_started_while_open (run : Run) (uri : Url) :
    -- Whatever lints the document was started by an event, and is asked for once.
    (run.world.passes.filter (Pass.lints uri) ++ run.world.waitingFor uri).Perm
        (run.caused.filter (Pass.lints uri)) ∧
    -- During such an event some editor shows the document.
    (∀ action, (run.step action).strays = [] →
      ∀ pass ∈ run.world.causedAt action, pass.lints uri = true →
        (run.step action).world.editors.isOpen uri = true) ∧
    -- While it is closed, only what was waiting reaches the engine, once, until it is opened again.
    (run.world.editors.isOpen uri = false → ∀ more : List Action,
      (run.extend more).strays = [] → (∀ action ∈ more, action.opens uri = false) →
      (run.extend more).world.editors.isOpen uri = false ∧
      (run.extend more).caused.filter (Pass.lints uri) = run.caused.filter (Pass.lints uri) ∧
      (∃ late : List Pass,
        (run.extend more).world.passes.filter (Pass.lints uri) =
            run.world.passes.filter (Pass.lints uri) ++ late ∧
          (late ++ (run.extend more).world.waitingFor uri).Perm (run.world.waitingFor uri)) ∧
      (run.world.waitingFor uri = [] →
        (run.extend more).world.passes.filter (Pass.lints uri) =
          run.world.passes.filter (Pass.lints uri))) := by
  have undelayed : ∀ reason : Reason, reason.isDelayed = true →
      (Pass.openFiles reason).lints uri = false := fun _ _ => rfl
  refine ⟨?_, fun action tidy pass member lints => ?_, fun closed more tidy unopened => ?_⟩
  · rw [run.passes_filter undelayed, World.waitingFor, ← List.filter_append]
    exact run.caused_perm.filter _
  · rw [strays, collect_step, List.append_eq_nil_iff] at tidy
    rw [world_step]
    exact World.isOpen_of_causedAt run.attuned tidy.2 member lints
  · rw [strays, collect_extend, List.append_eq_nil_iff] at tidy
    rcases caused_of_closed closed tidy.2 unopened with ⟨still, none⟩
    have late : (run.extend more).world.passes.filter (Pass.lints uri) =
        run.world.passes.filter (Pass.lints uri) ++
          (run.world.collect World.madeAt more).filter (Pass.lints uri) := by
      rw [(run.extend more).passes_filter undelayed, run.passes_filter undelayed, made,
        collect_extend, List.filter_append]
      rfl
    have waited : ((run.world.collect World.madeAt more).filter (Pass.lints uri) ++
        (run.extend more).world.waitingFor uri).Perm (run.world.waitingFor uri) := by
      have perm := (World.collect_causedAt run.attuned more).filter (Pass.lints uri)
      rwa [List.filter_append, List.filter_append, none, List.append_nil, ← world_extend] at perm
    refine ⟨still, ?_, ⟨_, late, waited⟩, fun idle => ?_⟩
    · rw [caused, collect_extend, List.filter_append, none, List.append_nil]
      rfl
    · rw [idle] at waited
      rw [late, (List.append_eq_nil_iff.mp waited.eq_nil).1, List.append_nil]

end Run

end Lint
end Workbench
