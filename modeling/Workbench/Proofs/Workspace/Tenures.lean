import Workbench.Proofs.Workspace.Courses

namespace Workbench

/-!
# What extensions leave behind

A tenure is the time of one extension among everything else that is done: from its activation on it
hands out services and has items registered with it, until it is dropped.  All its items are
disposed by then, each of them once, and so are its services.  Those alone are left as they are that
its factory made after the extension was disposed, for then nobody empties the factory any more
(`Tenure.extensions_leave_what_came_late`).
-/

open Terminal (Factory)

/-! ## Items -/

namespace Workspace

/-- The names of the items that were disposed. -/
def relieved (w : Workspace) : List String :=
  w.disposals.map Disposal.name

end Workspace

namespace Extension

/-- The name of an item. -/
def Part.name? : Part → Option String
  | .item name => some name
  | _ => none

variable {x : Extension} {w : Workspace}

/-- The items that are registered with an extension. -/
def pending (x : Extension) : List String :=
  x.registry.items.filterMap Part.name?

/-- With an extension that is disposed nothing is registered. -/
def Emptied (x : Extension) : Prop :=
  x.isDisposed = true → x.registry.items = []

/-- At first an extension has its scheduler and its services to dispose. -/
theorem registry_of_activate {helper : Option Terminal.Helper} {settings : Settings}
    {w' : Workspace} (activated : activate w helper settings = .ok (x, w')) :
    x.registry = { items := [.scheduler, .services] } := by
  unfold activate Settings.validated at activated
  cases wrong : settings.fault? with
  | some fault =>
      rw [wrong] at activated
      cases activated
  | none =>
      rw [wrong] at activated
      unfold Lint.World.startScheduler at activated
      cases present : w.lint.hasRuntime with
      | false =>
          rw [present] at activated
          cases activated
      | true =>
          rw [present] at activated
          cases activated
          rfl

theorem disposePart_relieved (x : Extension) (w : Workspace) (part : Part) :
    (x.disposePart w part).2.relieved = w.relieved ++ part.name?.toList ∧
      (x.disposePart w part).1.registry = x.registry := by
  cases part with
  | scheduler | services => exact ⟨(List.append_nil _).symm, rfl⟩
  | item name => exact ⟨List.map_append, rfl⟩

theorem disposeParts_relieved (parts : List Part) (x : Extension) (w : Workspace) :
    (parts.foldl (fun (state : Extension × Workspace) part => state.1.disposePart state.2 part)
        (x, w)).2.relieved = w.relieved ++ parts.filterMap Part.name? ∧
      (parts.foldl (fun (state : Extension × Workspace) part => state.1.disposePart state.2 part)
        (x, w)).1.registry = x.registry := by
  induction parts generalizing x w with
  | nil => exact ⟨(List.append_nil _).symm, rfl⟩
  | cons part rest inductionHypothesis =>
      rcases disposePart_relieved x w part with ⟨first, registry⟩
      rcases inductionHypothesis (x.disposePart w part).1 (x.disposePart w part).2 with
        ⟨others, registry'⟩
      refine ⟨?_, registry'.trans registry⟩
      have names : (part :: rest).filterMap Part.name? =
          part.name?.toList ++ rest.filterMap Part.name? := by
        rw [List.filterMap_cons]
        cases part.name? <;> rfl
      rw [List.foldl_cons, names, ← List.append_assoc, ← first]
      exact others

/-- What is registered is disposed at once, or remembered. -/
theorem register_relieved (x : Extension) (w : Workspace) (name : String) :
    ∃ relieved, (x.register w name).2.relieved = w.relieved ++ relieved ∧
      (x.pending ++ [name]).Perm (relieved ++ (x.register w name).1.pending) := by
  unfold register Registry.push
  cases disposed : x.registry.disposed with
  | true => exact ⟨[name], List.map_append, List.perm_append_comm⟩
  | false =>
      refine ⟨[], (List.append_nil _).symm, ?_⟩
      simp [pending, Part.name?]

theorem register_isDisposed (x : Extension) (w : Workspace) (name : String) :
    (x.register w name).1.isDisposed = x.isDisposed := by
  unfold register Registry.push isDisposed
  cases disposed : x.registry.disposed with
  | true => exact disposed
  | false => rfl

theorem Emptied.register (emptied : x.Emptied) (w : Workspace) (name : String) :
    (x.register w name).1.Emptied := by
  unfold Extension.register Registry.push
  cases disposed : x.registry.disposed with
  | true => exact emptied
  | false =>
      intro disposed'
      have standing : false = true := disposed'
      cases standing

/-- Whatever was remembered is disposed with the extension, each item once. -/
theorem dispose_relieved (emptied : x.Emptied) (w : Workspace) :
    (x.dispose w).2.relieved = w.relieved ++ x.pending.reverse ∧
      (x.dispose w).1.registry = { items := [], disposed := true } := by
  cases standing : x.isDisposed with
  | true =>
      rw [dispose_of_disposed standing, pending, emptied standing]
      refine ⟨(List.append_nil _).symm, ?_⟩
      have items := emptied standing
      have disposed : x.registry.disposed = true := standing
      rcases registry : x.registry with ⟨items', disposed'⟩
      rw [registry] at items disposed
      rw [← show items' = [] from items, ← show disposed' = true from disposed]
  | false =>
      have parts := disposeParts_relieved x.registry.items.reverse
        { x with registry := { items := [], disposed := true } } w
      unfold dispose
      rw [if_neg (Bool.eq_false_iff.mp standing)]
      refine ⟨?_, parts.2⟩
      rw [pending, ← List.filterMap_reverse]
      exact parts.1

theorem drop_relieved (emptied : x.Emptied) (w : Workspace) :
    (x.drop w).relieved = w.relieved ++ x.pending.reverse :=
  (dispose_relieved emptied w).1

end Extension

/-! ## Where an extension is -/

namespace Deed

/-- The place of the extension that a deed is about. -/
def extension? : Deed → Option Nat
  | .get (.extension place) _ _ | .create (.extension place) _ _
  | .disposeServices (.extension place) | .register place _ | .dispose place | .drop place =>
    some place
  | _ => none

/-- Where the extension at a place is after a deed, if it is not dropped. -/
def moved (deed : Deed) (place : Nat) : Option Nat :=
  match deed with
  | .drop dropped =>
    if dropped = place then none else some (if dropped < place then place - 1 else place)
  | _ => some place

end Deed

namespace Estate

variable {e e' : Estate} {place : Nat} {x : Extension}

/-- What a deed does to the extension at a place. -/
inductive Fares (e : Estate) (place : Nat) (x : Extension) : Deed → Estate → Prop
  /-- The deed is not about it. -/
  | apart {deed : Deed} {e' : Estate} {place' : Nat} (other : deed.extension? ≠ some place)
      (moved : deed.moved place = some place') (there : e'.extensions[place']? = some x) :
      Fares e place x deed e'
  | serves {title : Option String} {resource : Option Url} {service : Nat} {factory : Factory}
      {w : Terminal.World} {e' : Estate}
      (got : x.factory.get e.terminals title resource = .ok (service, factory, w))
      (there : e'.extensions[place]? = some { x with factory }) :
      Fares e place x (.get (.extension place) title resource) e'
  | refuses {title : Option String} {resource : Option Url} {error : Error} {e' : Estate}
      (refused : x.factory.get e.terminals title resource = .error error)
      (there : e'.extensions[place]? = some x) :
      Fares e place x (.get (.extension place) title resource) e'
  | creates {title : Option String} {resource : Option Url} {e' : Estate}
      (there : e'.extensions[place]? = some x) :
      Fares e place x (.create (.extension place) title resource) e'
  | empties {e' : Estate}
      (there : e'.extensions[place]? =
        some { x with factory := (x.factory.disposeAll e.terminals).1 })
      (terminals : e'.terminals = (x.factory.disposeAll e.terminals).2) :
      Fares e place x (.disposeServices (.extension place)) e'
  | registers {name : String} {e' : Estate}
      (there : e'.extensions[place]? = some (x.register e.workspace name).1)
      (workspace : e'.workspace = (x.register e.workspace name).2) :
      Fares e place x (.register place name) e'
  | disposes {e' : Estate} (there : e'.extensions[place]? = some (x.dispose e.workspace).1)
      (workspace : e'.workspace = (x.dispose e.workspace).2) : Fares e place x (.dispose place) e'
  | drops {e' : Estate} (workspace : e'.workspace = x.drop e.workspace) :
      Fares e place x (.drop place) e'

theorem getElem?_withFactory (there : e.extensions[place]? = some x) (other : Nat)
    (factory : Factory) :
    (e.withFactory (.extension other) factory).extensions[place]? =
      some (if other = place then { x with factory } else x) := by
  unfold withFactory
  dsimp only
  by_cases same : other = place
  · subst same
    rw [there, if_pos rfl]
    exact List.getElem?_set_self (List.getElem?_eq_some_iff.mp there).1
  · rw [if_neg same]
    split
    · exact (List.getElem?_set_ne same).trans there
    · exact there

theorem getElem?_withExtension (there : e.extensions[place]? = some x) (other : Nat)
    (f : Extension → Workspace → Extension × Workspace) :
    (e.withExtension other f).extensions[place]? =
      some (if other = place then (f x e.workspace).1 else x) := by
  unfold withExtension
  by_cases same : other = place
  · subst same
    rw [there, if_pos rfl]
    exact List.getElem?_set_self (List.getElem?_eq_some_iff.mp there).1
  · rw [if_neg same]
    split
    · exact (List.getElem?_set_ne same).trans there
    · exact there

theorem withExtension_workspace (there : e.extensions[place]? = some x)
    (f : Extension → Workspace → Extension × Workspace) :
    (e.withExtension place f).workspace = (f x e.workspace).2 := by
  rw [withExtension, there]

/-- An extension that is dropped leaves its place to the next one. -/
theorem getElem?_drop (there : e.extensions[place]? = some x) {dropped place' : Nat}
    (moved : (Deed.drop dropped).moved place = some place') :
    (e.drop dropped).extensions[place']? = some x := by
  unfold Deed.moved at moved
  dsimp only at moved
  split at moved
  · cases moved
  · rename_i different
    rw [← Option.some.inj moved]
    unfold Estate.drop
    split
    · show (e.extensions.eraseIdx dropped)[_]? = some x
      by_cases less : dropped < place
      · have after : dropped ≤ place - 1 := by omega
        have here : place - 1 + 1 = place := by omega
        rw [if_pos less, List.getElem?_eraseIdx_of_ge after, here]
        exact there
      · have before : place < dropped := by omega
        rw [if_neg less, List.getElem?_eraseIdx_of_lt before]
        exact there
    · rename_i absent
      have beyond := List.getElem?_eq_none_iff.mp absent
      have within := (List.getElem?_eq_some_iff.mp there).1
      have more : ¬ dropped < place := by omega
      rwa [if_neg more]

theorem take_fares (there : e.extensions[place]? = some x) (deed : Deed) :
    e.Fares place x deed (e.take deed) := by
  have unmoved {deed : Deed} {e' : Estate} (silent : deed.extension? = none)
      (moved : deed.moved place = some place) (same : e'.extensions = e.extensions) :
      e.Fares place x deed e' := by
    refine .apart ?_ moved (same ▸ there)
    rw [silent]
    exact Option.some_ne_none place ∘ Eq.symm
  cases deed with
  | runtime | addScheduler | addFactory => exact unmoved rfl rfl rfl
  | terminals action =>
      apply unmoved rfl rfl
      rw [take, perform]
      split <;> rfl
  | lint action =>
      apply unmoved rfl rfl
      rw [take, act]
      split <;> rfl
  | dropFactory place =>
      apply unmoved rfl rfl
      rw [take, dropFactory]
      split <;> rfl
  | activate helper settings =>
      refine .apart (Option.some_ne_none place ∘ Eq.symm) rfl ?_
      rw [take, Estate.activate]
      split
      · exact (List.getElem?_append_left (List.getElem?_eq_some_iff.mp there).1).trans there
      · exact there
  | get keeper title resource =>
      cases keeper with
      | factory other =>
          apply unmoved rfl rfl
          rw [take, Estate.get]
          split
          · split <;> rfl
          · rfl
      | extension other =>
          by_cases same : other = place
          · subst same
            have found := factory?_extension there
            cases got : x.factory.get e.terminals title resource with
            | ok result =>
                apply Fares.serves got
                rw [take, Estate.get, found]
                simp only [got]
                exact (getElem?_withFactory there other _).trans (congrArg some (if_pos rfl))
            | error error =>
                apply Fares.refuses got
                rw [take, Estate.get, found]
                simp only [got]
                exact there
          · refine .apart (fun equal => same (Option.some.inj equal)) rfl ?_
            rw [take, Estate.get]
            split
            · split
              · exact (getElem?_withFactory there other _).trans (congrArg some (if_neg same))
              · exact there
            · exact there
  | create keeper title resource =>
      have same : (e.take (.create keeper title resource)).extensions = e.extensions := by
        rw [take, create]
        split <;> rfl
      cases keeper with
      | factory => exact unmoved rfl rfl same
      | extension other =>
          by_cases here : other = place
          · subst here
            exact .creates (same ▸ there)
          · exact .apart (fun equal => here (Option.some.inj equal)) rfl (same ▸ there)
  | disposeServices keeper =>
      cases keeper with
      | factory other =>
          apply unmoved rfl rfl
          rw [take, disposeServices]
          split <;> rfl
      | extension other =>
          by_cases same : other = place
          · subst same
            have found := factory?_extension there
            apply Fares.empties
            · rw [take, disposeServices, found]
              exact (getElem?_withFactory there other _).trans (congrArg some (if_pos rfl))
            · rw [take, disposeServices, found]
              rfl
          · refine .apart (fun equal => same (Option.some.inj equal)) rfl ?_
            rw [take, disposeServices]
            split
            · exact (getElem?_withFactory there other _).trans (congrArg some (if_neg same))
            · exact there
  | register other name =>
      by_cases same : other = place
      · subst same
        apply Fares.registers
        · rw [take, getElem?_withExtension there, if_pos rfl]
        · exact withExtension_workspace there _
      · refine .apart (fun equal => same (Option.some.inj equal)) rfl ?_
        rw [take, getElem?_withExtension there, if_neg same]
  | dispose other =>
      by_cases same : other = place
      · subst same
        apply Fares.disposes
        · rw [take, getElem?_withExtension there, if_pos rfl]
        · exact withExtension_workspace there _
      · refine .apart (fun equal => same (Option.some.inj equal)) rfl ?_
        rw [take, getElem?_withExtension there, if_neg same]
  | drop other =>
      by_cases same : other = place
      · subst same
        apply Fares.drops
        rw [take, Estate.drop, there]
      · refine .apart (fun equal => same (Option.some.inj equal)) (if_neg same) ?_
        apply getElem?_drop there
        exact if_neg same

/-! ## What becomes of what an extension gives out -/

/-- The service that an extension hands out. -/
def servedBy (e : Estate) (x : Extension) : Deed → List Nat
  | .get _ title resource =>
    match x.factory.get e.terminals title resource with
    | .ok (service, _, _) => [service]
    | .error _ => []
  | _ => []

/-- The service that an extension hands out although it is disposed. -/
def belatedBy (e : Estate) (x : Extension) (deed : Deed) : List Nat :=
  if x.isDisposed then e.servedBy x deed else []

/-- The item that is registered with an extension. -/
def enrolledBy (_ : Estate) (_ : Extension) : Deed → List String
  | .register _ name => [name]
  | _ => []

/-- The items that are disposed by a deed. -/
def relievedBy (e : Estate) (_ : Extension) (deed : Deed) : List String :=
  (e.take deed).workspace.relieved.drop e.workspace.relieved.length

/-- What can be collected of a deed about the extension at a place, if there is one. -/
def yields {α : Type} (yield : Estate → Extension → Deed → List α) (e : Estate)
    (place? : Option Nat) (deed : Deed) : List α :=
  match place?.bind fun place => e.extensions[place]? with
  | some x => if deed.extension? = place? then yield e x deed else []
  | none => []

/-- What can be collected of one extension along deeds, wherever it is moved. -/
def follow {α : Type} (yield : Estate → Extension → Deed → List α) (e : Estate)
    (place? : Option Nat) : List Deed → List α
  | [] => []
  | deed :: rest =>
    e.yields yield place? deed ++ (e.take deed).follow yield (place?.bind deed.moved) rest

theorem follow_append {α : Type} (yield : Estate → Extension → Deed → List α) (e : Estate)
    (place? : Option Nat) (first second : List Deed) :
    e.follow yield place? (first ++ second) =
      e.follow yield place? first ++
        (first.foldl take e).follow yield
          (first.foldl (fun place? deed => place?.bind deed.moved) place?) second := by
  induction first generalizing e place? with
  | nil => rfl
  | cons deed rest inductionHypothesis =>
      simp only [List.cons_append, follow, List.foldl_cons, inductionHypothesis,
        List.append_assoc]

theorem yields_of_there {α : Type} (yield : Estate → Extension → Deed → List α)
    (there : e.extensions[place]? = some x) {deed : Deed} (about : deed.extension? = some place) :
    e.yields yield (some place) deed = yield e x deed := by
  unfold yields
  rw [Option.bind_some, there]
  exact if_pos about

theorem yields_of_apart {α : Type} (yield : Estate → Extension → Deed → List α)
    (there : e.extensions[place]? = some x) {deed : Deed} (other : deed.extension? ≠ some place) :
    e.yields yield (some place) deed = [] := by
  unfold yields
  rw [Option.bind_some, there]
  exact if_neg other

/-- What becomes of items and services by a deed that leaves the extension there. -/
structure Carries (e : Estate) (place : Nat) (x : Extension) (deed : Deed) (x' : Extension) :
    Prop where
  emptied : x'.Emptied
  items : (x.pending ++ e.yields enrolledBy (some place) deed).Perm
    (e.yields relievedBy (some place) deed ++ x'.pending)
  served : ∀ service ∈ e.yields servedBy (some place) deed, service ∈ x'.factory.kept
  kept : ∀ service ∈ x.factory.kept,
    (e.take deed).terminals.phase? service = some .disposed ∨ service ∈ x'.factory.kept
  belated : x'.isDisposed = true → ∀ service ∈ x'.factory.kept,
    x.isDisposed = true ∧ service ∈ x.factory.kept ∨
      service ∈ e.yields belatedBy (some place) deed

theorem withFactory_workspace (e : Estate) (keeper : Keeper) (factory : Factory) :
    (e.withFactory keeper factory).workspace = e.workspace := by
  cases keeper with
  | factory => rfl
  | extension place =>
      unfold withFactory
      dsimp only
      split <;> rfl

/-- Only extensions dispose items. -/
theorem take_relieved {keeper : Keeper} {deed : Deed}
    (about : (∃ title resource, deed = .get keeper title resource) ∨
      (∃ title resource, deed = .create keeper title resource) ∨ deed = .disposeServices keeper) :
    (e.take deed).workspace.relieved = e.workspace.relieved := by
  have same (factory : Factory) :
      (e.withFactory keeper factory).workspace.relieved = e.workspace.relieved :=
    congrArg Workspace.relieved (withFactory_workspace e keeper factory)
  rcases about with ⟨title, resource, rfl⟩ | ⟨title, resource, rfl⟩ | rfl
  · rw [take, Estate.get]
    split
    · split
      · rename_i factory _ _ service factory' w got
        exact same factory'
      · rfl
    · rfl
  · rw [take, create]
    split <;> rfl
  · rw [take, disposeServices]
    split
    · rename_i factory found
      exact same (factory.disposeAll e.terminals).1
    · rfl

/-- What is kept already is kept by an extension that stays as it is, apart from its factory, which
keeps more. -/
theorem Carries.ofFactory (there : e.extensions[place]? = some x) (emptied : x.Emptied)
    {deed : Deed} (about : deed.extension? = some place) (enrolled : e.enrolledBy x deed = [])
    (relieved : (e.take deed).workspace.relieved = e.workspace.relieved) {factory : Factory}
    (served : ∀ service ∈ e.servedBy x deed, service ∈ factory.kept)
    (kept : ∀ service ∈ x.factory.kept,
      (e.take deed).terminals.phase? service = some .disposed ∨ service ∈ factory.kept)
    (new : ∀ service ∈ factory.kept,
      service ∈ x.factory.kept ∨ service ∈ e.servedBy x deed) :
    e.Carries place x deed { x with factory } := by
  constructor
  · exact emptied
  · rw [yields_of_there _ there about, yields_of_there _ there about, enrolled, relievedBy,
      relieved, List.drop_length, List.append_nil]
    exact List.Perm.refl _
  · rw [yields_of_there _ there about]
    exact served
  · exact kept
  · intro disposed service member
    have disposed : x.isDisposed = true := disposed
    rw [yields_of_there _ there about, belatedBy, if_pos disposed]
    exact (new service member).imp_left fun earlier => ⟨disposed, earlier⟩

/-- Whatever the factory of an extension keeps, there is. -/
theorem Sound.present (sound : e.Sound) (there : e.extensions[place]? = some x) :
    ∀ service ∈ x.factory.kept, service < e.terminals.services.length := by
  intro service member
  apply sound.balanced.referenced.present
  apply List.mem_append_right
  apply List.mem_append_right
  exact List.mem_flatMap.mpr ⟨x, List.mem_of_getElem? there, member⟩

/-- Every deed that leaves the extension there takes care of its items and of its services. -/
theorem Fares.carries {deed : Deed} (fares : e.Fares place x deed (e.take deed))
    (there : e.extensions[place]? = some x) (sound : e.Sound) (emptied : x.Emptied)
    {closed : Nat → Prop} (order : e.terminals.InOrder closed) {place' : Nat}
    (moved : deed.moved place = some place') :
    ∃ x', (e.take deed).extensions[place']? = some x' ∧ e.Carries place x deed x' := by
  have present := sound.present there
  cases fares with
  | @apart _ _ _ other moved' there' =>
      cases moved.symm.trans moved'
      refine ⟨x, there', emptied, ?_, ?_, fun service member => Or.inr member, ?_⟩
      · rw [yields_of_apart _ there other, yields_of_apart _ there other, List.append_nil]
        exact List.Perm.refl _
      · rw [yields_of_apart _ there other]
        exact fun service member => absurd member List.not_mem_nil
      · exact fun disposed service member => Or.inl ⟨disposed, member⟩
  | @serves title resource service factory w _ got there' =>
      cases moved
      have served : e.servedBy x (.get (.extension place) title resource) = [service] := by
        rw [servedBy, got]
      have gets := x.factory.get_gets e.terminals title resource
      rw [got] at gets
      rcases Terminal.Factory.kept_of_gets gets with ⟨among, earlier, new⟩
      refine ⟨_, there', .ofFactory there emptied rfl rfl
        (take_relieved (.inl ⟨title, resource, rfl⟩)) ?_ ?_ ?_⟩
      · rw [served]
        intro other member
        rwa [List.mem_singleton.mp member]
      · exact fun other member => Or.inr (earlier other member)
      · rw [served]
        intro other member
        exact (new other member).imp_right List.mem_singleton.mpr
  | @refuses title resource error _ refused there' =>
      cases moved
      have unserved : e.servedBy x (.get (.extension place) title resource) = [] := by
        rw [servedBy, refused]
      refine ⟨_, there', .ofFactory there emptied rfl rfl
        (take_relieved (.inl ⟨title, resource, rfl⟩)) ?_ (fun service member => Or.inr member)
        (fun service member => Or.inl member)⟩
      rw [unserved]
      exact fun service member => absurd member List.not_mem_nil
  | @creates title resource _ there' =>
      cases moved
      exact ⟨_, there', .ofFactory there emptied rfl rfl
        (take_relieved (.inr (.inl ⟨title, resource, rfl⟩)))
        (fun service member => absurd member List.not_mem_nil)
        (fun service member => Or.inr member) (fun service member => Or.inl member)⟩
  | @empties _ there' terminals =>
      cases moved
      refine ⟨_, there', .ofFactory there emptied rfl rfl (take_relieved (.inr (.inr rfl)))
        (fun service member => absurd member List.not_mem_nil) ?_
        (fun service member => absurd member List.not_mem_nil)⟩
      intro service member
      rw [terminals]
      exact Or.inl (Terminal.Factory.disposed_of_disposeAll order present service member)
  | @registers name _ there' workspace =>
      cases moved
      rcases x.register_relieved e.workspace name with ⟨relieved, names, perm⟩
      rcases x.register_eq e.workspace name with ⟨registry, disposals, registered, _⟩
      have factory : (x.register e.workspace name).1.factory = x.factory := by
        rw [registered]
      refine ⟨_, there', emptied.register e.workspace name, ?_, ?_, ?_, ?_⟩
      · rw [yields_of_there _ there rfl, yields_of_there _ there rfl, relievedBy, workspace, names,
          List.drop_left]
        exact perm
      · rw [yields_of_there _ there rfl]
        exact fun service member => absurd member List.not_mem_nil
      · rw [factory]
        exact fun service member => Or.inr member
      · rw [factory, x.register_isDisposed]
        exact fun disposed service member => Or.inl ⟨disposed, member⟩
  | @disposes _ there' workspace =>
      cases moved
      rcases Extension.dispose_relieved emptied e.workspace with ⟨names, registry⟩
      refine ⟨_, there', ?_, ?_, ?_, ?_, ?_⟩
      · intro _
        rw [registry]
      · rw [yields_of_there _ there rfl, yields_of_there _ there rfl, relievedBy, workspace, names,
          List.drop_left]
        have none : (x.dispose e.workspace).1.pending = [] := by
          rw [Extension.pending, registry]
          rfl
        rw [none, List.append_nil]
        show (x.pending ++ []).Perm _
        rw [List.append_nil]
        exact (List.reverse_perm _).symm
      · rw [yields_of_there _ there rfl]
        exact fun service member => absurd member List.not_mem_nil
      · intro service member
        show (e.take (.dispose place)).workspace.terminals.phase? service = some .disposed ∨ _
        rw [workspace]
        cases standing : x.isDisposed with
        | true =>
            rw [Extension.dispose_of_disposed standing]
            exact Or.inr member
        | false =>
            rcases Extension.dispose_of_standing (sound.getElem there) standing e.workspace with
              ⟨_, _, disposed⟩
            rw [disposed]
            exact Or.inl (Terminal.Factory.disposed_of_disposeAll order present service member)
      · intro _ service member
        cases standing : x.isDisposed with
        | true =>
            rw [Extension.dispose_of_disposed standing] at member
            exact Or.inl ⟨rfl, member⟩
        | false =>
            rcases Extension.dispose_of_standing (sound.getElem there) standing e.workspace with
              ⟨_, _, disposed⟩
            rw [disposed] at member
            exact absurd member List.not_mem_nil
  | drops =>
      unfold Deed.moved at moved
      dsimp only at moved
      rw [if_pos rfl] at moved
      cases moved

end Estate

/-- What is done from the activation of an extension on, the first deed first. -/
structure Tenure where
  before : Course
  helper : Option Terminal.Helper
  settings : Settings
  activated : ∃ result, Extension.activate before.estate.workspace helper settings = .ok result
  deeds : List Deed

namespace Tenure

/-- Everything that is done, the activation included. -/
def course (tenure : Tenure) : Course :=
  (tenure.before.step (.activate tenure.helper tenure.settings)).extend tenure.deeds

def estate (tenure : Tenure) : Estate :=
  tenure.course.estate

/-- Where the extension is, if it was not dropped. -/
def place? (tenure : Tenure) : Option Nat :=
  tenure.deeds.foldl (fun place? deed => place?.bind deed.moved)
    (some tenure.before.estate.extensions.length)

def extend (tenure : Tenure) (more : List Deed) : Tenure :=
  { tenure with deeds := tenure.deeds ++ more }

def step (tenure : Tenure) (deed : Deed) : Tenure :=
  tenure.extend [deed]

/-- What is collected of the extension. -/
def collect {α : Type} (tenure : Tenure) (yield : Estate → Extension → Deed → List α) : List α :=
  Estate.follow yield (tenure.before.step (.activate tenure.helper tenure.settings)).estate
    (some tenure.before.estate.extensions.length) tenure.deeds

/-- The services that it handed out, as often as it did. -/
def served (tenure : Tenure) : List Nat :=
  tenure.collect Estate.servedBy

/-- The services that it handed out when it was disposed already. -/
def belated (tenure : Tenure) : List Nat :=
  tenure.collect Estate.belatedBy

/-- The items that were registered with it. -/
def enrolled (tenure : Tenure) : List String :=
  tenure.collect Estate.enrolledBy

/-- The items that were disposed by it. -/
def relieved (tenure : Tenure) : List String :=
  tenure.collect Estate.relievedBy

theorem course_extend (tenure : Tenure) (more : List Deed) :
    (tenure.extend more).course = tenure.course.extend more := by
  simp only [course, extend, Course.extend, List.append_assoc]

theorem estate_eq (tenure : Tenure) :
    tenure.estate = tenure.deeds.foldl Estate.take
      (tenure.before.step (.activate tenure.helper tenure.settings)).estate := by
  simp only [estate, course, Course.extend, Course.estate, List.foldl_append]

@[simp]
theorem estate_step (tenure : Tenure) (deed : Deed) :
    (tenure.step deed).estate = tenure.estate.take deed := by
  rw [estate_eq, estate_eq]
  simp only [step, extend, List.foldl_append, List.foldl_cons, List.foldl_nil]

theorem place?_step (tenure : Tenure) (deed : Deed) :
    (tenure.step deed).place? = tenure.place?.bind deed.moved := by
  simp only [place?, step, extend, List.foldl_append, List.foldl_cons, List.foldl_nil]

theorem collect_step {α : Type} (tenure : Tenure) (yield : Estate → Extension → Deed → List α)
    (deed : Deed) :
    (tenure.step deed).collect yield =
      tenure.collect yield ++ tenure.estate.yields yield tenure.place? deed := by
  refine (Estate.follow_append yield _ _ tenure.deeds [deed]).trans ?_
  rw [Estate.follow, Estate.follow, List.append_nil, estate_eq tenure]
  rfl

/-- What holds at the activation and is kept by every deed holds at every time. -/
theorem induction {motive : Tenure → Prop}
    (start : ∀ before helper settings activated,
      motive ⟨before, helper, settings, activated, []⟩)
    (step : ∀ tenure deed, motive tenure → motive (tenure.step deed)) (tenure : Tenure) :
    motive tenure := by
  rcases tenure with ⟨before, helper, settings, activated, deeds⟩
  induction deeds using List.reverseRecOn with
  | nil => exact start before helper settings activated
  | append_singleton earlier last inductionHypothesis =>
      exact step ⟨before, helper, settings, activated, earlier⟩ last inductionHypothesis

/-- What is known of an extension that is there. -/
structure Keeps (tenure : Tenure) (x : Extension) : Prop where
  emptied : x.Emptied
  /-- Items are disposed or still registered. -/
  items : tenure.enrolled.Perm (tenure.relieved ++ x.pending)
  /-- Services are disposed or still kept. -/
  services : ∀ service ∈ tenure.served,
    tenure.estate.terminals.phase? service = some .disposed ∨ service ∈ x.factory.kept
  belated : x.isDisposed = true → ∀ service ∈ x.factory.kept, service ∈ tenure.belated

theorem disposed_step (tenure : Tenure) (deed : Deed) {service : Nat}
    (disposed : tenure.estate.terminals.phase? service = some .disposed) :
    (tenure.step deed).estate.terminals.phase? service = some .disposed := by
  have later := tenure.course.disposed_extend disposed [deed]
  rwa [← course_extend] at later

/-- What is kept by one deed is kept by all of them. -/
theorem Keeps.step {tenure : Tenure} {x x' : Extension} {deed : Deed} {place : Nat}
    (keeps : tenure.Keeps x) (there : tenure.place? = some place)
    (carries : tenure.estate.Carries place x deed x') : (tenure.step deed).Keeps x' := by
  constructor
  · exact carries.emptied
  · rw [Tenure.enrolled, Tenure.relieved, collect_step, collect_step, there]
    have first := keeps.items.append_right
      (tenure.estate.yields Estate.enrolledBy (some place) deed)
    have second := carries.items.append_left tenure.relieved
    rw [List.append_assoc] at first
    rw [List.append_assoc]
    exact first.trans second
  · intro service member
    rw [Tenure.served, collect_step, there] at member
    rw [estate_step]
    rcases List.mem_append.mp member with earlier | now
    · rcases keeps.services service earlier with disposed | kept
      · have later := tenure.disposed_step deed disposed
        rw [estate_step] at later
        exact Or.inl later
      · exact carries.kept service kept
    · exact Or.inr (carries.served service now)
  · intro disposed service member
    rw [Tenure.belated, collect_step, there]
    rcases carries.belated disposed service member with ⟨disposed, earlier⟩ | now
    · exact List.mem_append_left _ (keeps.belated disposed service earlier)
    · exact List.mem_append_right _ now

/-- As long as an extension is there, its items are disposed or registered, and its services are
disposed or kept. -/
theorem keeps (tenure : Tenure) : ∀ place, tenure.place? = some place →
    ∃ x, tenure.estate.extensions[place]? = some x ∧ tenure.Keeps x := by
  induction tenure using Tenure.induction with
  | start before helper settings activated =>
      intro place there
      cases there
      rcases activated with ⟨⟨x, w⟩, ok⟩
      have registry := Extension.registry_of_activate ok
      refine ⟨x, ?_, ?_, ?_, ?_, ?_⟩
      · have extensions : (before.estate.take (.activate helper settings)).extensions =
            before.estate.extensions ++ [x] := by
          rw [Estate.take, Estate.activate, ok]
        rw [estate_eq, List.foldl_nil, Course.estate_step]
        exact (congrArg (·[before.estate.extensions.length]?) extensions).trans
          List.getElem?_concat_length
      · intro disposed
        rw [Extension.isDisposed, registry] at disposed
        cases disposed
      · rw [Extension.pending, registry]
        exact List.Perm.refl _
      · exact fun service member => absurd member List.not_mem_nil
      · intro disposed
        rw [Extension.isDisposed, registry] at disposed
        cases disposed
  | step tenure deed inductionHypothesis =>
      intro place' there'
      rw [place?_step] at there'
      rcases Option.bind_eq_some_iff.mp there' with ⟨place, there, moved⟩
      rcases inductionHypothesis place there with ⟨x, found, keeps⟩
      have fares := tenure.estate.take_fares found deed
      rcases fares.carries found tenure.course.sound keeps.emptied tenure.course.inOrder moved with
        ⟨x', found', carries⟩
      rw [estate_step]
      exact ⟨x', found', keeps.step there carries⟩

/-- Whether a service is disposed for good: whatever happens later, it stays disposed, and each of
its terminals was closed or is disposed once. -/
def Gone (tenure : Tenure) (service : Nat) : Prop :=
  ∀ more, (tenure.extend more).estate.terminals.phase? service = some .disposed ∧
    ∀ terminal, (tenure.extend more).estate.terminals.Handed service terminal →
      (tenure.extend more).course.Closed terminal ∨
        (tenure.extend more).estate.terminals.disposals terminal = 1

theorem gone_of_disposed (tenure : Tenure) {service : Nat}
    (disposed : tenure.estate.terminals.phase? service = some .disposed) :
    tenure.Gone service := by
  intro more
  have later := tenure.course.disposed_extend disposed more
  rw [← course_extend] at later
  exact ⟨later, fun terminal => (Course.inOrder _).released later⟩

/-- An extension that is dropped leaves no item undisposed that was ever registered with it, and no
service undisposed that it handed out before it was disposed.  The same goes for services that it
handed out later, unless its factory keeps them still: these are left as they are. -/
theorem extensions_leave_what_came_late (tenure : Tenure) {place : Nat}
    (there : tenure.place? = some place) :
    ∃ x, tenure.estate.extensions[place]? = some x ∧
      tenure.enrolled.Perm (tenure.step (.drop place)).relieved ∧
      ∀ service ∈ tenure.served,
        (tenure.step (.drop place)).Gone service ∨
          x.isDisposed = true ∧ service ∈ tenure.belated ∧ service ∈ x.factory.kept ∧
            (tenure.step (.drop place)).estate.terminals.phase? service =
              tenure.estate.terminals.phase? service := by
  rcases tenure.keeps place there with ⟨x, found, keeps⟩
  have dropped : (tenure.step (.drop place)).estate.workspace = x.drop tenure.estate.workspace := by
    rw [estate_step, Estate.take, Estate.drop, found]
  refine ⟨x, found, ?_, ?_⟩
  · have now : tenure.estate.yields Estate.relievedBy (some place) (.drop place) =
        x.pending.reverse := by
      rw [Estate.yields_of_there _ found rfl, Estate.relievedBy, ← estate_step, dropped,
        Extension.drop_relieved keeps.emptied, List.drop_left]
    rw [Tenure.relieved, collect_step, there, now]
    exact keeps.items.trans ((List.reverse_perm _).symm.append_left _)
  · intro service member
    rcases keeps.services service member with disposed | kept
    · exact Or.inl (gone_of_disposed _ (tenure.disposed_step _ disposed))
    · cases standing : x.isDisposed with
      | false =>
          apply Or.inl
          apply gone_of_disposed
          rcases Extension.drop_of_standing (tenure.course.sound.getElem found) standing
            tenure.estate.workspace with ⟨_, _, emptied⟩
          show (tenure.step (.drop place)).estate.workspace.terminals.phase? service = _
          rw [dropped, emptied]
          apply Terminal.Factory.disposed_of_disposeAll tenure.course.inOrder
          · exact tenure.course.sound.present found
          · exact kept
      | true =>
          refine Or.inr ⟨rfl, keeps.belated standing service kept, kept, ?_⟩
          show (tenure.step (.drop place)).estate.workspace.terminals.phase? service = _
          rw [dropped, Extension.drop_of_disposed standing]
          exact (x.factory.abandon_sessions tenure.estate.workspace.terminals).phase? service

/-- An extension that hands out a service, is disposed, and hands out another one, which is used; an
item is registered before and one after it is disposed. -/
def prolonged : Tenure where
  before := { deeds := [] }
  helper := some (.fixed (some "/bin/bash"))
  settings := {}
  activated := ⟨_, rfl⟩
  deeds :=
    [.register 0 "early", .get (.extension 0) none none, .dispose 0, .register 0 "late",
      .get (.extension 0) none none, .terminals (.call 1 (.show true)), .terminals (.poll 0)]

/-- The first service goes with the extension, and so do both items. -/
theorem prolonged_leaves_one :
    prolonged.place? = some 0 ∧
      (prolonged.step (.drop 0)).relieved.Perm ["early", "late"] ∧
      (prolonged.step (.drop 0)).estate.terminals.phase? 0 = some .disposed := by
  have there : prolonged.place? = some 0 := by decide +kernel
  rcases extensions_leave_what_came_late prolonged there with ⟨x, found, items, services⟩
  have enrolled : prolonged.enrolled = ["early", "late"] := by decide +kernel
  refine ⟨there, enrolled ▸ items.symm, ?_⟩
  rcases services 0 (by decide +kernel) with left | ⟨_, late, _⟩
  · exact (left []).1
  · have absent : 0 ∉ prolonged.belated := by decide +kernel
    exact absurd late absent

/-- The second service is not disposed when the extension is dropped: it keeps its terminal, which
nobody closed or disposed. -/
theorem late_services_outlive_extensions :
    1 ∈ prolonged.served ∧
      (prolonged.step (.drop 0)).estate.extensions = [] ∧
      (prolonged.step (.drop 0)).estate.terminals.phase? 1 = some (.ready ⟨0, .bash⟩) ∧
      (prolonged.step (.drop 0)).estate.terminals.uses 0 = [.shown true, .shown true] := by
  decide +kernel

end Tenure

end Workbench
