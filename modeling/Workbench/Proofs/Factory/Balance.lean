import Workbench.Proofs.Factory.Run
import Workbench.Proofs.Terminal.References

namespace Workbench
namespace Terminal

/-!
# Balanced references

Someone outside has references to services, and so do factories to those that they keep.  What
either of them does keeps the balance (`Balanced`): registrations at the host are in order, and
every service knows of just the references that there are.  Then the host has one registration for
every service that is neither disposed nor dropped.
-/

namespace Action

/-- The service that an action needs a reference to. -/
def subject? : Action → Option Nat
  | .retain service | .release service | .dispose service | .call service _
  | .listen service _ => some service
  | _ => none

/-- The references of someone after an action of his own, given those before it. -/
def references (w : World) (references : List Nat) : Action → List Nat
  | .addService _ _ _ => w.services.length :: references
  | .retain service => service :: references
  | .release service => references.erase service
  | _ => references

/-- What someone does with a reference of his own does not concern those of others. -/
theorem references_append (w : World) {own others : List Nat} {action : Action}
    (permitted : ∀ service, action.subject? = some service → service ∈ own) :
    action.references w (own ++ others) = action.references w own ++ others := by
  cases action with
  | release service => exact List.erase_append_left _ (permitted service rfl)
  | _ => rfl

end Action

namespace World

variable {w w' : World} {references rest : List Nat} {service : Nat}

instance (references : List Nat) (w : World) (service : Nat) :
    Decidable (w.IsHeld references service) :=
  inferInstanceAs (Decidable (_ ∨ _))

/-- The services that are neither disposed nor dropped. -/
def inUse (references : List Nat) (w : World) : List Nat :=
  (List.range w.services.length).filter fun service =>
    decide (w.phase? service ≠ some .disposed ∧ w.IsHeld references service)

/-- Registrations and references are in order. -/
structure Balanced (references : List Nat) (w : World) : Prop where
  registered : w.Registered
  referenced : w.Referenced references

namespace Balanced

theorem perm (balanced : Balanced references w) {references' : List Nat}
    (perm : references.Perm references') : Balanced references' w :=
  ⟨balanced.registered, balanced.referenced.perm perm⟩

theorem write (balanced : Balanced references w) (line : Log.Line) :
    Balanced references (w.write line) :=
  ⟨balanced.registered.same rfl fun _ => rfl,
    SameHolders.referenced (.ofAlike (.write w line)) balanced.referenced⟩

theorem perform (balanced : Balanced references w) (action : Action)
    (permitted : ∀ service, action.subject? = some service → service ∈ references) :
    Balanced (action.references w references) (w.perform action) := by
  refine ⟨perform_registered balanced.registered action, ?_⟩
  have referenced := balanced.referenced
  cases action with
  | addService title resource helper => exact referenced.addService title resource helper
  | retain service => exact referenced.retain (permitted service rfl)
  | release service =>
      exact (referenced.perm (List.perm_cons_erase (permitted service rfl))).release
  | dispose service => exact (dispose_holders w service).referenced referenced
  | call service request => exact referenced.addCall (.inl (permitted service rfl)) request
  | poll call => exact referenced.poll call
  | abort call =>
      refine SameHolders.referenced ?_ referenced
      show SameHolders w (w.abort call)
      unfold abort
      split
      · exact .refl w
      · split
        · exact .refl w
        · exact (SameHolders.modifyCall w call (f := ({ · with cancelled := true }))
            fun _ _ => rfl).trans (.ofAlike (.wake _ _))
  | close terminal => exact referenced.close balanced.registered terminal
  | listen | unlisten | failCreation | failActivation | delay | pass | arrange =>
      refine SameHolders.referenced ?_ referenced
      exact .of_eq rfl rfl

theorem retain (balanced : Balanced references w) (held : service ∈ references) :
    Balanced (service :: references) (w.retain service) :=
  balanced.perform (.retain service) fun other same => by
    rw [← Option.some.inj same]
    exact held

theorem release (balanced : Balanced (service :: references) w) :
    Balanced references (w.release service) := by
  have released := balanced.perform (.release service) fun other same => by
    rw [← Option.some.inj same]
    exact List.mem_cons_self ..
  rwa [Action.references, List.erase_cons_head] at released

theorem dispose (balanced : Balanced references w) (service : Nat) :
    Balanced references (w.dispose service) :=
  ⟨perform_registered balanced.registered (.dispose service),
    (dispose_holders w service).referenced balanced.referenced⟩

/-- The host has one registration for every service that is neither disposed nor dropped. -/
theorem closeListenerCount_eq (balanced : Balanced references w) :
    w.closeListenerCount = (w.inUse references).length := by
  refine List.Perm.length_eq ?_
  refine (List.perm_ext_iff_of_nodup balanced.registered.once
    (List.nodup_range.filter _)).mpr fun service => ?_
  rw [List.mem_filter, List.mem_range, decide_eq_true_iff]
  cases found : w.services[service]? with
  | none =>
      have beyond := List.getElem?_eq_none_iff.mp found
      apply iff_of_false
      · intro listening
        rcases balanced.registered.exists_of_mem listening with ⟨s, there, _⟩
        rw [found] at there
        cases there
      · intro inside
        exact absurd inside.1 (Nat.not_lt.mpr beyond)
  | some s =>
      have inside := (List.getElem?_eq_some_iff.mp found).1
      have phase : w.phase? service = some s.phase := by
        rw [phase?, session?, found, Option.map_some, Option.map_some, Service.phase_session]
      have kept : s.dropped = false ↔ w.IsHeld references service := by
        rw [← Bool.not_eq_true, balanced.referenced.dropped found, not_not]
      rw [balanced.registered.mem_iff found, phase, kept, ne_eq, ne_eq, Option.some.injEq]
      constructor
      · intro listens
        exact ⟨inside, listens.2, listens.1⟩
      · intro listens
        exact listens.2.symm

end Balanced

/-! ## Registrations that end -/

theorem sweep_closeListeners (unlisted : service ∉ w.host.closeListeners) :
    (w.sweep service).host.closeListeners = w.host.closeListeners := by
  unfold sweep
  split
  · split
    · exact List.erase_of_not_mem unlisted
    · rfl
  · rfl

theorem Registered.dispose_closeListeners (registered : w.Registered) (service : Nat) :
    (w.dispose service).host.closeListeners =
      w.host.closeListeners.filter (· != service) := by
  rw [← registered.once.erase_eq_filter]
  unfold dispose
  split
  · rename_i absent
    refine (List.erase_of_not_mem fun listening => ?_).symm
    rcases registered.exists_of_mem listening with ⟨s, found, _⟩
    rw [absent] at found
    cases found
  · dsimp only
    split <;> rfl

end World

namespace Factory

variable {factory factory' : Factory} {w w' : World} {references rest : List Nat}

/-- The services that a factory keeps. -/
def kept (factory : Factory) : List Nat :=
  factory.cache.map Prod.snd

theorem create_balanced (balanced : World.Balanced references w) (title : Option String)
    (resource : Option Url) :
    World.Balanced (w.services.length :: references) (factory.create w title resource) :=
  balanced.perform (.addService _ resource factory.helper) fun _ same => by cases same

/-- Whoever asks a factory for a service has a reference of his own to it. -/
theorem get_balanced (balanced : World.Balanced (factory.kept ++ rest) w) {title : Option String}
    {resource : Option Url} {service : Nat}
    (got : factory.get w title resource = .ok (service, factory', w')) :
    World.Balanced (service :: (factory'.kept ++ rest)) (w'.retain service) := by
  have gets := factory.get_gets w title resource
  rw [got] at gets
  cases gets with
  | kept kept =>
      refine balanced.retain (List.mem_append_left _ ?_)
      rcases List.lookup_eq_some_iff.mp kept with ⟨before, after, cache, _⟩
      rw [Factory.kept, cache]
      simp
  | made absent room line =>
      have made := (balanced.write line).perform
        (.addService (factory.key title resource).1 (factory.key title resource).2 factory.helper)
        fun _ same => by cases same
      refine (made.perm ?_).retain ?_
      · show (w.services.length :: (factory.cache.map Prod.snd ++ rest)).Perm
          ((factory.cache ++ [(factory.key title resource, w.services.length)]).map Prod.snd ++
            rest)
        rw [List.map_append, List.append_assoc]
        exact List.perm_middle.symm
      · exact List.mem_append_left _ (List.mem_map_of_mem (List.mem_append_right _
          (List.mem_singleton_self _)))

theorem dispose_each_balanced (entries : List (Key × Nat))
    (balanced : World.Balanced (entries.map Prod.snd ++ rest) w) :
    World.Balanced rest
      (entries.foldl (fun w entry => (w.dispose entry.2).release entry.2) w) := by
  induction entries generalizing w with
  | nil => exact balanced
  | cons entry later inductionHypothesis =>
      exact inductionHypothesis (balanced.dispose entry.2).release

theorem disposeAll_balanced (balanced : World.Balanced (factory.kept ++ rest) w) :
    World.Balanced rest (factory.disposeAll w).2 :=
  dispose_each_balanced factory.cache (balanced.write _)

theorem abandon_balanced (balanced : World.Balanced (factory.kept ++ rest) w) :
    World.Balanced rest (factory.abandon w) := by
  have each (entries : List (Key × Nat)) {v : World}
      (balanced : World.Balanced (entries.map Prod.snd ++ rest) v) :
      World.Balanced rest (entries.foldl (fun w entry => w.release entry.2) v) := by
    induction entries generalizing v with
    | nil => exact balanced
    | cons entry later inductionHypothesis => exact inductionHypothesis balanced.release
  exact each factory.cache balanced

/-- When a factory disposes its services, just their registrations end. -/
theorem disposeAll_closeListeners (balanced : World.Balanced references w) :
    (factory.disposeAll w).2.host.closeListeners =
      w.host.closeListeners.filter fun service => decide (service ∉ factory.kept) := by
  have each (entries : List (Key × Nat)) {v : World} (registered : v.Registered) :
      (entries.foldl (fun w entry => (w.dispose entry.2).release entry.2) v).host.closeListeners =
        v.host.closeListeners.filter fun service => decide (service ∉ entries.map Prod.snd) := by
    induction entries generalizing v with
    | nil => simp
    | cons entry later inductionHypothesis =>
        have disposed := (World.dispose_silently v entry.2).registered registered
        have left := registered.dispose_closeListeners entry.2
        have unlisted : entry.2 ∉ (v.dispose entry.2).host.closeListeners := by
          rw [left]
          simp
        have swept : ((v.dispose entry.2).release entry.2).host.closeListeners =
            (v.dispose entry.2).host.closeListeners := World.sweep_closeListeners unlisted
        rw [List.foldl_cons,
          inductionHypothesis ((World.release_silently _ entry.2).registered disposed), swept, left,
          List.filter_filter]
        refine List.filter_congr fun service _ => ?_
        simp only [List.map_cons, List.mem_cons, not_or, Bool.decide_and, bne, beq_eq_decide,
          decide_not, Bool.and_comm]
  exact each factory.cache (balanced.write _).registered

end Factory

end Terminal
end Workbench
