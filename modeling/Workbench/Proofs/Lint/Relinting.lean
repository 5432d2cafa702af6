import Workbench.Proofs.Lint.Counts

namespace Workbench
namespace Lint

/-!
# Changes of the configuration

A change of the configuration makes a scheduler lint the open documents that it affects, as seen
from each of them: each document once, in however many editors it is open, and no other document.
-/

/-- Whether the configuration changes. -/
def Action.changesConfiguration : Action → Bool
  | changeConfiguration _ => true
  | _ => false

/-- Whether a pass is due to a change of the configuration. -/
def Pass.isRelint (pass : Pass) : Bool :=
  pass.reason == .configurationChanged

namespace World

variable {w : World} {action : Action} {config : Config} {change : Change}

/-- The passes due to changes of the configuration that the engine was asked for, or that are still
to come. -/
def relints (w : World) : List Pass :=
  (w.passes ++ w.queue.filterMap Task.pass?).filter Pass.isRelint

/-- The open documents that a change affects, as a scheduler sees it. -/
def affected (w : World) (config : Config) (change : Change) : List Url :=
  (w.editors.documents.map Document.uri).filter fun uri =>
    change.affects config.configSection (some uri)

theorem affected_nodup (w : World) (config : Config) (change : Change) :
    (w.affected config change).Nodup :=
  w.editors.documents_spec.1.filter _

theorem mem_affected_iff {uri : Url} :
    uri ∈ w.affected config change ↔
      w.editors.isOpen uri = true ∧ change.affects config.configSection (some uri) = true := by
  rw [affected, List.mem_filter, w.editors.documents_spec.2, Editors.isOpen_iff_count_pos]

/-- A scheduler that is there alone starts one task for every open document that is affected. -/
theorem filter_isRelint_causedAt (alone : w.liveConfigs = [config]) (change : Change) :
    (w.causedAt (.changeConfiguration change)).filter Pass.isRelint =
      (w.affected config change).map (.document · .configurationChanged) := by
  have each (scheduler : Nat) (s : Scheduler) :
      ((w.eventTasks scheduler s (.changeConfiguration change)).filterMap Task.pass?).filter
          Pass.isRelint =
        (w.affected s.config change).map (.document · .configurationChanged) := by
    have passes : (w.eventTasks scheduler s (.changeConfiguration change)).filterMap Task.pass? =
        (w.affected s.config change).map (.document · .configurationChanged) := by
      rw [eventTasks, affected, List.filterMap_map, List.filter_map, List.map_map,
        ← List.filterMap_eq_map]
      rfl
    rw [passes, List.filter_eq_self]
    intro pass member
    rcases List.mem_map.mp member with ⟨uri, _, rfl⟩
    rfl
  rw [filter_causedAt_eq (fun config => (w.affected config change).map _) each, alone,
    List.flatMap_singleton]

/-- Nothing else starts such tasks. -/
theorem filter_isRelint_causedAt_eq_nil (unchanged : action.changesConfiguration = false) :
    (w.causedAt action).filter Pass.isRelint = [] := by
  rw [filter_causedAt_eq fun _ => []]
  · exact List.flatMap_eq_nil_iff.mpr fun _ _ => rfl
  · intro scheduler s
    cases action with
    | changeConfiguration change => cases unchanged
    | saveDocument document =>
        unfold eventTasks
        dsimp only
        split
        · rfl
        · cases document.baseName? <;> rfl
    | _ => rfl

theorem collect_causedAt_isRelint {later : List Action}
    (quiet : ∀ action ∈ later, action.changesConfiguration = false) :
    (w.collect causedAt later).filter Pass.isRelint = [] := by
  induction later generalizing w with
  | nil => rfl
  | cons action rest inductionHypothesis =>
      rw [collect, List.filter_append,
        filter_isRelint_causedAt_eq_nil (quiet action List.mem_cons_self),
        inductionHypothesis fun other member => quiet other (List.mem_cons_of_mem action member)]
      rfl

end World

namespace Run

/-- What was started for changes of the configuration reaches the engine once, or is still to
come. -/
theorem relints_perm (run : Run) : run.world.relints.Perm (run.caused.filter Pass.isRelint) := by
  have undelayed : ∀ reason : Reason, reason.isDelayed = true →
      (Pass.openFiles reason).isRelint = false := by
    intro reason
    cases reason <;> decide
  rw [World.relints, List.filter_append, run.passes_filter undelayed, ← List.filter_append]
  exact run.caused_perm.filter _

variable {run : Run} {config : Config}

/-- A change adds the documents that it affects, whatever else happens afterwards. -/
theorem relints_extend (alone : run.world.liveConfigs = [config]) (change : Change)
    {later : List Action} (quiet : ∀ action ∈ later, action.changesConfiguration = false) :
    ((run.step (.changeConfiguration change)).extend later).world.relints.Perm
      (run.world.relints ++
        (run.world.affected config change).map (.document · .configurationChanged)) := by
  have caused : ((run.step (.changeConfiguration change)).extend later).caused =
      run.caused ++ run.world.causedAt (.changeConfiguration change) ++
        (run.step (.changeConfiguration change)).world.collect World.causedAt later := by
    rw [Run.caused, collect_extend, collect_step]
    rfl
  refine (relints_perm _).trans ?_
  rw [caused, List.filter_append, List.filter_append, World.collect_causedAt_isRelint quiet,
    List.append_nil, World.filter_isRelint_causedAt alone]
  exact run.relints_perm.symm.append_right _

/-- A change of the configuration makes a scheduler that is there alone lint every open document that
it affects, once for each, and no other document; the requests reach the engine whatever else
happens, and at the latest when no task is left.  A change to a section affects the open documents
among its resources, if it names any, provided that the components of the scheduler's section begin
those of the changed one. -/
theorem changes_lint_what_they_affect (run : Run) (config : Config)
    (alone : run.world.liveConfigs = [config]) (change : Change) :
    let told := run.step (.changeConfiguration change)
    let affected := run.world.affected config change
    let demands := affected.map (Pass.document · .configurationChanged)
    -- The affected documents are the open ones that the change affects, each once.
    affected.Nodup ∧
    (∀ uri, uri ∈ affected ↔ run.world.editors.isOpen uri = true ∧
      change.affects config.configSection (some uri) = true) ∧
    -- The engine is asked for these, or will be, until the configuration changes again.
    (∀ later : List Action, (∀ action ∈ later, action.changesConfiguration = false) →
      (told.extend later).world.relints.Perm (run.world.relints ++ demands)) ∧
    -- It is asked for them as soon as the executor has served all tasks.
    told.world.run.queue = [] ∧
    (told.world.run.passes.filter Pass.isRelint).Perm (run.world.relints ++ demands) ∧
    -- Which documents a change to a section affects.
    (∀ sectional : SectionChange, change = sectional.toChange → ∀ uri,
      uri ∈ affected ↔ run.world.editors.isOpen uri = true ∧
        SectionChange.components config.configSection <+:
          SectionChange.components sectional.changed ∧
        (sectional.resources = [] ∨ uri ∈ sectional.resources)) ∧
    ∀ (sectional : SectionChange) (configSection : String) (scope : Option Url),
      sectional.affects configSection scope = true ↔
        SectionChange.components configSection <+: SectionChange.components sectional.changed ∧
          ∀ resource ∈ scope, sectional.resources = [] ∨ resource ∈ sectional.resources := by
  intro told affected demands
  have settled : told.world.run.queue = [] := told.world.run_queue
  refine ⟨World.affected_nodup _ _ _, fun uri => World.mem_affected_iff,
    fun later => relints_extend alone change, settled, ?_, fun sectional same uri => ?_,
    fun sectional configSection scope => SectionChange.affects_eq_true_iff⟩
  · rcases told.serves_self.served with ⟨later, executions, served⟩
    have quiet : ∀ action ∈ later, action.changesConfiguration = false := by
      intro action member
      have execution := executions action member
      cases action <;> first | rfl | cases execution
    have relints : (told.extend later).world.relints.Perm (run.world.relints ++ demands) :=
      relints_extend alone change quiet
    rw [served, World.relints, settled, List.filterMap_nil, List.append_nil] at relints
    exact relints
  · rw [World.mem_affected_iff, same]
    show _ ∧ sectional.affects _ _ = true ↔ _
    rw [SectionChange.affects_eq_true_iff]
    simp

/-- Two documents are open, one of them twice, when a setting changes for that one and for a third
that is closed. -/
theorem twiceOpen_linted_once :
    let uri (path : String) : Url := { scheme := "untitled", path }
    let document (path : String) : Document := { uri := uri path, languageId := "python" }
    let config : Config := ⟨"python", "python", 5, 10, false⟩
    let sectional : SectionChange := ⟨"python.linting.enabled", [uri "a", uri "c"]⟩
    let run : Run :=
      { actions := [.start config, .openDocument (document "a"), .openDocument (document "b"),
          .openDocument (document "a")] }
    run.world.liveConfigs = [config] ∧
      ((run.step (.changeConfiguration sectional.toChange)).world.run.passes.filter
        Pass.isRelint).Perm [.document (uri "a") .configurationChanged] ∧
      sectional.affects "python.linting" none = true ∧
      ¬ sectional.affects "python.lint" none = true := by
  intro uri document config sectional run
  have alone : run.world.liveConfigs = [config] := by decide +kernel
  rcases changes_lint_what_they_affect run config alone sectional.toChange with
    ⟨_, _, _, _, asked, _, sections⟩
  have demands : run.world.relints ++ (run.world.affected config sectional.toChange).map
      (Pass.document · .configurationChanged) = [.document (uri "a") .configurationChanged] := by
    decide +kernel
  rw [demands] at asked
  refine ⟨alone, asked, (sections _ _ _).mpr ⟨?_, by rintro _ ⟨⟩⟩, fun affects => ?_⟩
  · exact List.isPrefixOf_iff_prefix.mp (by decide +kernel)
  · have begins := List.isPrefixOf_iff_prefix.mpr ((sections _ _ _).mp affects).1
    exact absurd begins (by decide +kernel)

end Run

end Lint
end Workbench
