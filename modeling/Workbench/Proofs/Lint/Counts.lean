import Mathlib.Data.List.Nodup
import Workbench.Proofs.Lint.Triggers

namespace Workbench
namespace Lint

/-!
# Counting editors

What the editors show follows from how often each document was opened and closed: a number for each
document, which goes up by one when it is opened and down by one when it is closed, but not below
zero (`Run.count_editors`).  A document is open while its number is not zero, and its diagnostics
are cleared whenever it is closed and its number is zero then.
-/

/-- The number of editors that show a document after an action, by their number before. -/
def Action.tally (uri : Url) (editors : Nat) : Action → Nat
  | openDocument document => if document.uri = uri then editors + 1 else editors
  | closeDocument document => if document.uri = uri then editors - 1 else editors
  | _ => editors

/-- The number of editors that show a document after all that happened. -/
def editorCount (uri : Url) (actions : List Action) : Nat :=
  actions.foldl (Action.tally uri) 0

/-- A document with a path that is closed last, after all that happened and this action. -/
def Action.lastClosing (earlier : List Action) : Action → List Url
  | closeDocument document =>
    if editorCount document.uri (earlier ++ [closeDocument document]) = 0 ∧
        document.filePath?.isSome = true then [document.uri]
    else []
  | _ => []

/-- The documents with a path that are closed last, as often as that happens and in that order. -/
def lastClosings (earlier : List Action) : List Action → List Url
  | [] => []
  | action :: rest => action.lastClosing earlier ++ lastClosings (earlier ++ [action]) rest

theorem editorCount_concat (uri : Url) (earlier : List Action) (action : Action) :
    editorCount uri (earlier ++ [action]) = action.tally uri (editorCount uri earlier) :=
  List.foldl_concat _ _ _ _

namespace Editors

variable {editors : Editors}

/-- The document of each editor, by its address. -/
def uris (editors : Editors) : List Url :=
  editors.shown.map Document.uri

theorem count_eq (editors : Editors) (uri : Url) : editors.count uri = editors.uris.count uri := by
  rw [count, uris, List.count_eq_countP, List.countP_map]
  rfl

theorem uris_close (editors : Editors) (uri : Url) :
    (editors.close uri).uris = editors.uris.erase uri := by
  rw [uris, uris, close, List.erase_eq_eraseP', List.eraseP_map]
  rfl

theorem count_close (editors : Editors) (uri other : Url) :
    (editors.close uri).count other =
      if uri = other then editors.count other - 1 else editors.count other := by
  rw [count_eq, uris_close, count_eq]
  split
  · rename_i same
    rw [same, List.count_erase_self]
  · rename_i different
    exact List.count_erase_of_ne (Ne.symm different)

/-! ## Open documents -/

theorem mem_insertNew {listed : List Document} {document : Document} {uri : Url} :
    uri ∈ (insertNew listed document).map Document.uri ↔
      uri ∈ listed.map Document.uri ∨ uri = document.uri := by
  unfold insertNew
  split
  · rename_i seen
    refine ⟨Or.inl, ?_⟩
    rintro (earlier | rfl)
    · exact earlier
    · simpa using seen
  · simp

theorem nodup_insertNew {listed : List Document} (nodup : (listed.map Document.uri).Nodup)
    (document : Document) : ((insertNew listed document).map Document.uri).Nodup := by
  unfold insertNew
  split
  · exact nodup
  · rename_i unseen
    rw [List.map_append, List.map_singleton, ← List.concat_eq_append]
    apply List.Nodup.concat _ nodup
    simpa using unseen

/-- Every document that some editor shows is listed once, and no other document. -/
theorem documents_spec (editors : Editors) :
    (editors.documents.map Document.uri).Nodup ∧
      ∀ uri, uri ∈ editors.documents.map Document.uri ↔ 0 < editors.count uri := by
  have listing (shown listed : List Document) (nodup : (listed.map Document.uri).Nodup) :
      ((shown.foldl insertNew listed).map Document.uri).Nodup ∧
        ∀ uri, uri ∈ (shown.foldl insertNew listed).map Document.uri ↔
          uri ∈ listed.map Document.uri ∨ uri ∈ shown.map Document.uri := by
    induction shown generalizing listed with
    | nil => simp [nodup]
    | cons document rest inductionHypothesis =>
        rcases inductionHypothesis _ (nodup_insertNew nodup document) with ⟨nodup', members⟩
        refine ⟨nodup', fun uri => ?_⟩
        rw [List.foldl_cons, members, mem_insertNew, List.map_cons, List.mem_cons, or_assoc]
  rcases listing editors.shown [] List.nodup_nil with ⟨nodup, members⟩
  refine ⟨nodup, fun uri => ?_⟩
  rw [count_eq, List.count_pos_iff]
  exact (members uri).trans (by simp [uris])

end Editors

namespace World

variable {w : World} {config : Config}

theorem count_editorsAfter (w : World) (action : Action) (uri : Url) :
    (w.editorsAfter action).count uri = action.tally uri (w.editors.count uri) := by
  cases action with
  | openDocument document =>
      show (w.editors.add document).count uri = _
      rw [Editors.count_add, Action.tally]
      split <;> rfl
  | closeDocument document => exact Editors.count_close w.editors document.uri uri
  | _ => rfl

/-- A scheduler that is there alone clears diagnostics once. -/
theorem clearedAt_closeDocument (alone : w.liveConfigs = [config]) (document : Document) :
    w.clearedAt (.closeDocument document) =
      if document.filePath?.isSome && !(w.editors.close document.uri).isOpen document.uri then
        [document.uri]
      else [] := by
  let cleared : List Url :=
    if document.filePath?.isSome && !(w.editors.close document.uri).isOpen document.uri then
      [document.uri]
    else []
  have live : w.clearedAt (.closeDocument document) = w.liveConfigs.flatMap fun _ => cleared := by
    apply flatMap_live
    intro scheduler
    unfold clearsOf editorsAfter
    cases w.live? scheduler <;> rfl
  rw [live, alone, List.flatMap_singleton]

end World

namespace Run

theorem count_editors (run : Run) (uri : Url) :
    run.world.editors.count uri = editorCount uri run.actions := by
  induction run using Run.induction with
  | start hasRuntime => rfl
  | step run action inductionHypothesis =>
      rw [world_step, (World.act_sameView run.attuned action).editors]
      show (run.world.editorsAfter action).count uri = editorCount uri (run.actions ++ [action])
      rw [World.count_editorsAfter, inductionHypothesis, editorCount_concat]

theorem isOpen_iff (run : Run) (uri : Url) :
    run.world.editors.isOpen uri = true ↔ 0 < editorCount uri run.actions := by
  rw [Editors.isOpen_iff_count_pos, run.count_editors]

theorem clearedAt_eq {run : Run} {config : Config} (alone : run.world.liveConfigs = [config])
    (action : Action) : run.world.clearedAt action = action.lastClosing run.actions := by
  cases action with
  | closeDocument document =>
      have closed := (run.step (.closeDocument document)).isOpen_iff document.uri
      rw [world_step, (World.act_sameView run.attuned (.closeDocument document)).editors] at closed
      change (run.world.editors.close document.uri).isOpen document.uri = true ↔
        0 < editorCount document.uri (run.actions ++ [.closeDocument document]) at closed
      rw [World.clearedAt_closeDocument alone, Action.lastClosing]
      apply if_congr _ rfl rfl
      rw [Bool.and_eq_true, Bool.not_eq_true', ← Bool.not_eq_true, closed, Nat.not_lt,
        Nat.le_zero, and_comm]
  | _ => exact World.clearedAt_eq_nil fun scheduler => rfl

/-- While a scheduler is there alone, the diagnostics of a document are cleared whenever it is
closed last and has a path, and at no other time. -/
theorem cleared_extend {run : Run} {config : Config} (alone : run.world.liveConfigs = [config])
    {events : List Action} (constant : ∀ action ∈ events, action.isStaffing = false) :
    (run.extend events).world.cleared =
      run.world.cleared ++ lastClosings run.actions events := by
  induction events generalizing run with
  | nil =>
      rw [extend_nil, lastClosings, List.append_nil]
  | cons action rest inductionHypothesis =>
      have same : (run.step action).world.liveConfigs = [config] := by
        rw [world_step, World.liveConfigs_act run.attuned (constant action List.mem_cons_self),
          alone]
      have others := inductionHypothesis same fun other member =>
        constant other (List.mem_cons_of_mem action member)
      rw [extend_cons, others, world_step, (World.act_sameView run.attuned action).cleared,
        clearedAt_eq alone, lastClosings, List.append_assoc]
      rfl

/-- Every document has a number of editors, which goes up by one when it is opened and down by one,
but not below zero, when it is closed.  It is open, and listed once, while that number is not zero.
As long as a scheduler is there alone, diagnostics are cleared for every time that a document with a
path is closed and its number is zero then, once for each time and in that order. -/
theorem diagnostics_go_with_the_last_editor (run : Run) (config : Config)
    (alone : run.world.liveConfigs = [config]) (events : List Action)
    (constant : ∀ action ∈ events, action.isStaffing = false) :
    let later := run.extend events
    (∀ uri, later.world.editors.count uri = editorCount uri later.actions) ∧
    (∀ uri, later.world.editors.isOpen uri = true ↔ 0 < editorCount uri later.actions) ∧
    -- Open documents are listed once, and no others.
    (later.world.editors.documents.map Document.uri).Nodup ∧
    (∀ uri, uri ∈ later.world.editors.documents.map Document.uri ↔
      0 < editorCount uri later.actions) ∧
    -- Diagnostics are cleared by the last closing, each time.
    later.world.cleared = run.world.cleared ++ lastClosings run.actions events := by
  intro later
  rcases later.world.editors.documents_spec with ⟨nodup, members⟩
  refine ⟨later.count_editors, later.isOpen_iff, nodup, fun uri => ?_,
    cleared_extend alone constant⟩
  rw [members, later.count_editors]

/-- A document is shown in two editors and closed three times, another one has no path, and a third
one was never open. -/
def shared : List Action :=
  let document (scheme path : String) : Document :=
    { uri := { scheme, path }, languageId := "python" }
  [.openDocument (document "untitled" "a"), .openDocument (document "output" ""),
    .openDocument (document "untitled" "a"), .closeDocument (document "untitled" "a"),
    .saveDocument (document "untitled" "a"), .closeDocument (document "untitled" "a"),
    .closeDocument (document "untitled" "b"), .closeDocument (document "output" ""),
    .turn 0, .closeDocument (document "untitled" "a"), .openDocument (document "untitled" "b")]

theorem shared_cleared :
    let config : Config := ⟨"python", "python", 5, 10, false⟩
    let run : Run := { actions := [.start config] }
    let a : Url := { scheme := "untitled", path := "a" }
    let b : Url := { scheme := "untitled", path := "b" }
    run.world.liveConfigs = [config] ∧
      (run.extend shared).world.cleared = [a, b, a] ∧
      (run.extend shared).world.editors.isOpen b = true ∧
      ¬ (run.extend shared).world.editors.isOpen a = true := by
  intro config run a b
  have alone : run.world.liveConfigs = [config] := by decide +kernel
  rcases diagnostics_go_with_the_last_editor run config alone shared (by decide +kernel) with
    ⟨_, shown, _, _, cleared⟩
  refine ⟨alone, ?_, (shown b).mpr (by decide +kernel), ?_⟩
  · rw [cleared]
    decide +kernel
  · rw [shown a]
    decide +kernel

end Run

end Lint
end Workbench
