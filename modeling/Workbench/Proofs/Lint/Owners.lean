import Workbench.Proofs.Lint.Retirement

namespace Workbench
namespace Lint

/-!
# Whose schedulers listen

A scheduler belongs to whoever made it until he drops it, which disposes it.  So all schedulers that
are not disposed have an owner (`Owned`), and each of them has one listener on every channel.
-/

namespace Action

/-- The scheduler that an action takes from its owner. -/
def dropped? : Action → Option Nat
  | drop scheduler => some scheduler
  | _ => none

end Action

namespace World

variable {w w' : World} {owned : List Nat}

/-- Every scheduler that is not disposed belongs to someone. -/
def Owned (owned : List Nat) (w : World) : Prop :=
  ∀ scheduler, (w.live? scheduler).isSome → scheduler ∈ owned

/-- The schedulers that belong to someone after an action, given those before it. -/
def owners (w : World) (owned : List Nat) : Action → List Nat
  | .start _ => if w.hasRuntime then w.schedulers.length :: owned else owned
  | .drop scheduler => owned.erase scheduler
  | _ => owned

/-- The schedulers that are neither disposed nor dropped. -/
def inUse (owned : List Nat) (w : World) : List Nat :=
  (List.range w.schedulers.length).filter fun scheduler =>
    decide (scheduler ∈ owned) && (w.live? scheduler).isSome

/-- What someone does with a scheduler of his own does not concern those of others. -/
theorem owners_append (w : World) {others : List Nat} {action : Action}
    (permitted : ∀ scheduler, action.dropped? = some scheduler → scheduler ∈ owned) :
    w.owners (owned ++ others) action = w.owners owned action ++ others := by
  cases action with
  | start config =>
      dsimp only [owners]
      split <;> rfl
  | drop scheduler => exact List.erase_append_left _ (permitted scheduler rfl)
  | _ => rfl

theorem Owned.mono (owners : Owned owned w) {more : List Nat}
    (kept : ∀ scheduler ∈ owned, scheduler ∈ more) : Owned more w :=
  fun scheduler live => kept scheduler (owners scheduler live)

theorem Owned.addScheduler (owners : Owned owned w) (config : Config) :
    Owned (w.schedulers.length :: owned) (w.addScheduler config) := by
  intro scheduler live
  rcases w.addScheduler_adds config with ⟨added, adds, obeys⟩
  by_cases here : scheduler = w.schedulers.length
  · exact here ▸ List.mem_cons_self ..
  · refine List.mem_cons_of_mem _ (owners scheduler ?_)
    have before := adds.live scheduler
    rw [if_neg here] at before
    by_contra gone
    rw [Option.not_isSome_iff_eq_none, ← before] at gone
    rw [obeys.disposed gone] at live
    cases live

theorem Owned.retire (owners : Owned owned w) {action : Action} {scheduler : Nat}
    (retires : action = .dispose scheduler ∨ action = .drop scheduler) :
    Owned (owned.filter (· ≠ scheduler)) (w.act action) := by
  intro other live
  rw [live?_of_retired retires] at live
  split at live
  · cases live
  · rename_i elsewhere
    exact List.mem_filter.mpr ⟨owners other live, decide_eq_true elsewhere⟩

/-- Only a start makes a scheduler. -/
theorem Owned.happens (owners : Owned owned w) {action : Action} (happens : Happens w action w')
    (unstarted : ∀ config, action ≠ .start config) : Owned owned w' := by
  intro scheduler live
  refine owners scheduler ?_
  by_contra gone
  rw [Option.not_isSome_iff_eq_none] at gone
  rcases Option.isSome_iff_exists.mp live with ⟨s, found⟩
  have known := lt_of_live found
  rw [happens.configs unstarted] at known
  rw [happens.disposed known gone] at live
  cases live

theorem Owned.act (owners : Owned owned w) (attuned : w.Attuned) (action : Action) :
    Owned (w.owners owned action) (w.act action) := by
  cases action with
  | start config =>
      show Owned (if w.hasRuntime then w.schedulers.length :: owned else owned)
        ((w.startScheduler config).toOption.getD w)
      unfold startScheduler
      cases w.hasRuntime with
      | true => exact owners.addScheduler config
      | false => exact owners
  | dispose scheduler =>
      exact (owners.retire (.inl rfl)).mono fun _ member => (List.mem_filter.mp member).1
  | drop scheduler =>
      refine (owners.retire (.inr rfl)).mono fun other member => ?_
      rcases List.mem_filter.mp member with ⟨among, elsewhere⟩
      exact (List.mem_erase_of_ne (of_decide_eq_true elsewhere)).mpr among
  | _ => exact owners.happens (act_happens attuned _) (by rintro config ⟨⟩)

/-! ## Numbers of listeners -/

theorem length_listenersOn (w : World) (channel : Channel) :
    (w.listenersOn channel).length = w.listenerCount (· == channel) := by
  rw [listenersOn, List.length_map, listenerCount, List.countP_eq_length_filter]

/-- There are three channels that tell of documents. -/
theorem listenerCount_ofDocuments (w : World) :
    w.listenerCount Channel.ofDocuments =
      w.listenerCount (· == .opened) + w.listenerCount (· == .saved) +
        w.listenerCount (· == .closed) := by
  unfold listenerCount
  induction w.listeners with
  | nil => rfl
  | cons entry rest inductionHypothesis =>
      simp only [List.countP_cons, inductionHypothesis]
      cases entry.1 <;> simp [Channel.ofDocuments] <;> omega

theorem Attuned.listenersOn_eq (attuned : w.Attuned) (owners : Owned owned w) (channel : Channel) :
    w.listenersOn channel = w.inUse owned := by
  rw [attuned.listening, inUse]
  refine List.filter_congr fun scheduler _ => ?_
  cases live : (w.live? scheduler).isSome with
  | false => rw [Bool.and_false]
  | true => rw [Bool.and_true, decide_eq_true (owners scheduler live)]

/-- Each scheduler in use has one listener on every channel. -/
theorem Attuned.listenerCount_eq (attuned : w.Attuned) (owners : Owned owned w)
    (channel : Channel) : w.listenerCount (· == channel) = (w.inUse owned).length := by
  rw [← length_listenersOn, attuned.listenersOn_eq owners]

theorem Attuned.listenerCount_documents (attuned : w.Attuned) (owners : Owned owned w) :
    w.listenerCount Channel.ofDocuments = 3 * (w.inUse owned).length := by
  rw [listenerCount_ofDocuments, attuned.listenerCount_eq owners, attuned.listenerCount_eq owners,
    attuned.listenerCount_eq owners]
  omega

end World

end Lint
end Workbench
