import Workbench.Extension
import Workbench.Proofs.Lint.Orders

namespace Workbench
namespace Extension

/-!
# What extensions do

An extension that is activated registers its scheduler and its services before anything else can be
registered, so as long as it is not disposed it disposes both of them, and the items that were
registered change neither terminals nor linting (`dispose_of_standing`).
-/

variable {x : Extension} {w : Workspace}

/-- Unless it is disposed, an extension has its scheduler and its services registered. -/
def Furnished (x : Extension) : Prop :=
  x.isDisposed = false →
    ∃ names : List String, x.registry.items = .scheduler :: .services :: names.map .item

/-- What comes of an activation: nothing happens unless the settings are valid and there is a
runtime; then there are a factory that keeps nothing yet and a scheduler. -/
inductive Activates (w : Workspace) (settings : Settings) :
    Except Error (Extension × Workspace) → Prop
  | invalid {fault : SettingsFault} (wrong : settings.fault? = some fault) :
      Activates w settings (.error fault.error)
  | noRuntime (absent : w.lint.hasRuntime = false) : Activates w settings (.error .noRuntime)
  | activated {x : Extension} {w' : Workspace} {config : Lint.Config}
      (valid : settings.fault? = none) (present : w.lint.hasRuntime = true)
      (furnished : x.Furnished) (empty : x.factory.cache = [])
      (scheduler : x.scheduler = w.lint.schedulers.length)
      (terminals : w'.terminals = w.terminals) (lint : w'.lint = w.lint.addScheduler config) :
      Activates w settings (.ok (x, w'))

theorem activate_activates (w : Workspace) (helper : Option Terminal.Helper)
    (settings : Settings) : Activates w settings (activate w helper settings) := by
  unfold activate Settings.validated
  cases wrong : settings.fault? with
  | some fault => exact .invalid wrong
  | none =>
      unfold Lint.World.startScheduler
      cases present : w.lint.hasRuntime with
      | false => exact .noRuntime present
      | true => exact .activated wrong present (fun _ => ⟨[], rfl⟩) rfl rfl rfl rfl

/-- An activation fails for one of two reasons. -/
theorem activate_eq_error_iff (w : Workspace) (helper : Option Terminal.Helper)
    (settings : Settings) :
    (∃ error, activate w helper settings = .error error) ↔
      settings.fault? ≠ none ∨ w.lint.hasRuntime = false := by
  have activates := activate_activates w helper settings
  generalize activate w helper settings = result at activates
  cases activates with
  | invalid wrong =>
      apply iff_of_true ⟨_, rfl⟩
      left
      rw [wrong]
      exact Option.some_ne_none _
  | noRuntime absent => exact iff_of_true ⟨_, rfl⟩ (.inr absent)
  | activated valid present =>
      apply iff_of_false
      · rintro ⟨_, failed⟩
        cases failed
      · rintro (wrong | absent)
        · exact wrong valid
        · cases absent.symm.trans present

/-- Neither terminals nor linting have anything to do with what is registered. -/
theorem register_eq (x : Extension) (w : Workspace) (name : String) :
    ∃ registry disposals, x.register w name = ({ x with registry }, { w with disposals }) ∧
      (x.Furnished → Furnished { x with registry }) := by
  unfold register Registry.push
  cases disposed : x.registry.disposed with
  | true => exact ⟨_, _, rfl, fun _ standing => by cases disposed.symm.trans standing⟩
  | false =>
      refine ⟨_, w.disposals, rfl, fun furnished _ => ?_⟩
      rcases furnished disposed with ⟨names, items⟩
      refine ⟨names ++ [name], ?_⟩
      simp only [items, List.cons_append, List.map_append, List.map_singleton]

/-- Items are disposed without any effect on terminals and linting. -/
theorem disposeItems (x : Extension) (w : Workspace) (names : List String) :
    ∃ disposals, (names.map Part.item).foldl (fun (state : Extension × Workspace) part =>
      state.1.disposePart state.2 part) (x, w) = (x, { w with disposals }) := by
  induction names generalizing w with
  | nil => exact ⟨w.disposals, rfl⟩
  | cons name rest inductionHypothesis => exact inductionHypothesis (w.disposeItem name)

theorem dispose_of_disposed (disposed : x.isDisposed = true) (w : Workspace) :
    x.dispose w = (x, w) :=
  if_pos disposed

/-- Disposing an extension disposes the services that its factory keeps, and then its scheduler. -/
theorem dispose_of_standing (furnished : x.Furnished) (standing : x.isDisposed = false)
    (w : Workspace) :
    ∃ disposals log, x.dispose w =
      ({ x with
          factory := (x.factory.disposeAll w.terminals).1
          registry := { items := [], disposed := true } },
        { terminals := (x.factory.disposeAll w.terminals).2
          lint := w.lint.disposeScheduler x.scheduler
          disposals
          log }) := by
  rcases furnished standing with ⟨names, items⟩
  let retired : Extension := { x with registry := { items := [], disposed := true } }
  have parts : x.registry.take.2 =
      names.reverse.map Part.item ++ [Part.services, Part.scheduler] := by
    rw [Registry.take, items]
    simp
  rcases retired.disposeItems w names.reverse with ⟨disposals, disposed⟩
  refine ⟨disposals, w.log ++ [.info "Extension disposed"], ?_⟩
  unfold dispose
  rw [if_neg (Bool.eq_false_iff.mp standing)]
  dsimp only
  rw [parts, List.foldl_append]
  simp only [Registry.take]
  rw [disposed]
  rfl

theorem dropScheduler_disposeScheduler (w : Lint.World) (scheduler : Nat) :
    (w.disposeScheduler scheduler).dropScheduler scheduler = w.dropScheduler scheduler := by
  rw [Lint.World.dropScheduler, Lint.World.dropScheduler,
    Lint.World.disposeScheduler_of_disposed (w.live?_disposeScheduler scheduler)]

theorem drop_of_disposed (disposed : x.isDisposed = true) (w : Workspace) :
    x.drop w = { w with
      terminals := x.factory.abandon w.terminals
      lint := w.lint.dropScheduler x.scheduler } := by
  simp only [drop, dispose_of_disposed disposed]

/-- Dropping an extension disposes it first, and then its factory keeps nothing any more. -/
theorem drop_of_standing (furnished : x.Furnished) (standing : x.isDisposed = false)
    (w : Workspace) :
    ∃ disposals log, x.drop w =
      { terminals := (x.factory.disposeAll w.terminals).2
        lint := w.lint.dropScheduler x.scheduler
        disposals
        log } := by
  rcases dispose_of_standing furnished standing w with ⟨disposals, log, disposed⟩
  refine ⟨disposals, log, ?_⟩
  simp only [drop, disposed, dropScheduler_disposeScheduler]
  rfl

/-- Whether it was disposed before or not, dropping an extension drops its scheduler. -/
theorem drop_lint (furnished : x.Furnished) (w : Workspace) :
    (x.drop w).lint = w.lint.dropScheduler x.scheduler := by
  cases standing : x.isDisposed with
  | true => rw [drop_of_disposed standing]
  | false =>
      rcases drop_of_standing furnished standing w with ⟨_, _, dropped⟩
      rw [dropped]

end Extension
end Workbench
