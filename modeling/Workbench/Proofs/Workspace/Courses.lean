import Workbench.Proofs.Factory.Cache
import Workbench.Proofs.Workspace.Accounts

namespace Workbench

/-!
# Terminals along a course

Whatever extensions and factories do to terminals is calm: a number of actions, none of which
reports a terminal closed.  So along a course the terminals are in order at any time
(`Course.inOrder`), as if they were all there is, and services that are disposed stay so.
-/

open Terminal (Moment)

namespace Terminal

namespace World

/-- Giving up a reference leaves the service as it is. -/
theorem release_sessions (w : World) (service : Nat) : SameSessions w (w.release service) := by
  let released := w.modifyService service fun s => { s with owners := s.owners - 1 }
  have first : SameSessions w released := .ofModify w service fun _ => rfl
  exact first.trans (sweep_sessions released service)

end World

namespace Factory

variable {factory : Factory} {w : World} {closed : Nat → Prop}

theorem abandon_calm (factory : Factory) (w : World) : World.Calm w (factory.abandon w) := by
  have each (entries : List (Key × Nat)) {w' : World} (calm : World.Calm w w') :
      World.Calm w (entries.foldl (fun w entry => w.release entry.2) w') := by
    induction entries generalizing w' with
    | nil => exact calm
    | cons entry rest inductionHypothesis =>
        exact inductionHypothesis (calm.act (.release entry.2) nofun)
  exact each factory.cache .refl

/-- A factory that is given up leaves its services as they are. -/
theorem abandon_sessions (factory : Factory) (w : World) :
    World.SameSessions w (factory.abandon w) := by
  have each (entries : List (Key × Nat)) {w' : World} (same : World.SameSessions w w') :
      World.SameSessions w (entries.foldl (fun w entry => w.release entry.2) w') := by
    induction entries generalizing w' with
    | nil => exact same
    | cons entry rest inductionHypothesis =>
        exact inductionHypothesis (same.trans (w'.release_sessions entry.2))
  exact each factory.cache (.refl w)

/-- Whatever a factory hands out, it keeps, and it keeps nothing else that is new. -/
theorem kept_of_gets {title : Option String} {resource : Option Url} {service : Nat}
    {factory' : Factory} {w' : World}
    (gets : Gets factory w title resource (.ok (service, factory', w'))) :
    service ∈ factory'.kept ∧ (∀ other ∈ factory.kept, other ∈ factory'.kept) ∧
      ∀ other ∈ factory'.kept, other ∈ factory.kept ∨ other = service := by
  cases gets with
  | kept found =>
      rcases List.lookup_eq_some_iff.mp found with ⟨before, after, cache, _⟩
      refine ⟨?_, fun other member => member, fun other member => Or.inl member⟩
      rw [kept, cache]
      simp
  | made absent room line =>
      have cache : kept { factory with
          cache := factory.cache ++ [(factory.key title resource, w.services.length)] } =
            factory.kept ++ [w.services.length] := List.map_append
      rw [cache]
      refine ⟨List.mem_append_right _ List.mem_cons_self, ?_, ?_⟩
      · exact fun other member => List.mem_append_left _ member
      · intro other member
        exact (List.mem_append.mp member).imp_right List.mem_singleton.mp

/-- A factory that is emptied has all its services disposed. -/
theorem disposed_of_disposeAll (order : World.InOrder closed w)
    (present : ∀ service ∈ factory.kept, service < w.services.length) :
    ∀ service ∈ factory.kept, (factory.disposeAll w).2.phase? service = some .disposed := by
  intro service member
  rcases List.mem_map.mp member with ⟨entry, among, rfl⟩
  apply World.disposed_of_dispose_each factory.cache (order.alike (.write w _))
  · intro other kept
    have there := present other.2 (List.mem_map_of_mem kept)
    refine ⟨(w.services[other.2].title, w.services[other.2].resource), ?_⟩
    show ((w.services[other.2]?).map Service.session).map _ = _
    rw [List.getElem?_eq_getElem there]
    rfl
  · exact among

end Factory

end Terminal

namespace Extension

variable {x : Extension}

/-- Disposing an extension does to terminals what its factory does, or nothing. -/
theorem Furnished.dispose_calm (furnished : x.Furnished) (w : Workspace) :
    Terminal.World.Calm w.terminals (x.dispose w).2.terminals := by
  cases standing : x.isDisposed with
  | true =>
      rw [dispose_of_disposed standing]
      exact .refl
  | false =>
      rcases dispose_of_standing furnished standing w with ⟨_, _, disposed⟩
      rw [disposed]
      exact x.factory.disposeAll_calm w.terminals

theorem Furnished.drop_calm (furnished : x.Furnished) (w : Workspace) :
    Terminal.World.Calm w.terminals (x.drop w).terminals := by
  cases standing : x.isDisposed with
  | true =>
      rw [drop_of_disposed standing]
      exact x.factory.abandon_calm w.terminals
  | false =>
      rcases drop_of_standing furnished standing w with ⟨_, _, dropped⟩
      rw [dropped]
      exact x.factory.disposeAll_calm w.terminals

end Extension

namespace Estate

variable {e : Estate} {place : Nat} {x : Extension}

/-- What happens to the terminals by a deed, if it is not something that factories do. -/
def moment? (e : Estate) : Deed → Option Moment
  | .terminals action =>
    if ∀ service, action.subject? = some service → service ∈ e.handles then
      some ⟨e.terminals, action⟩
    else none
  | _ => none

/-- The moments of deeds, one after the other. -/
def history (e : Estate) : List Deed → List Moment
  | [] => []
  | deed :: rest => (e.moment? deed).toList ++ (e.take deed).history rest

theorem history_append (e : Estate) (first second : List Deed) :
    e.history (first ++ second) = e.history first ++ (first.foldl take e).history second := by
  induction first generalizing e with
  | nil => rfl
  | cons deed rest inductionHypothesis =>
      simp only [List.cons_append, history, List.foldl_cons, inductionHypothesis,
        List.append_assoc]

/-- What happens to the terminals is an action. -/
theorem performs_of_moment {deed : Deed} {m : Moment} (turn : e.moment? deed = some m) :
    ∃ action, deed = .terminals action ∧ m = ⟨e.terminals, action⟩ ∧
      (e.take deed).terminals = e.terminals.perform action := by
  cases deed with
  | terminals action =>
      unfold moment? at turn
      dsimp only at turn
      split at turn
      · rename_i permitted
        refine ⟨action, rfl, (Option.some.inj turn).symm, ?_⟩
        rw [take, perform, if_pos permitted]
        rfl
      · cases turn
  | _ => cases turn

/-- What factories and extensions do by themselves is calm. -/
theorem take_calm (sound : e.Sound) {deed : Deed} (own : e.moment? deed = none) :
    Terminal.World.Calm e.terminals (e.take deed).terminals := by
  cases deed with
  | terminals action =>
      unfold moment? at own
      dsimp only at own
      split at own
      · cases own
      · rename_i forbidden
        rw [take, perform, if_neg forbidden]
        exact .refl
  | lint action =>
      rw [take, act]
      split <;> exact .refl
  | runtime | addScheduler | addFactory => exact .refl
  | dropFactory place =>
      rw [take, dropFactory]
      split
      · rename_i factory there
        exact factory.abandon_calm e.terminals
      · exact .refl
  | get keeper title resource =>
      rw [take, Estate.get]
      split
      · rename_i factory found
        have gets := factory.get_gets e.terminals title resource
        split
        · rename_i service factory' w got
          rw [got] at gets
          cases gets with
          | kept =>
              exact Terminal.World.Calm.refl.act (.retain service) (fun _ same => by cases same)
          | made absent room line =>
              exact ((Terminal.World.Calm.refl.write line).act (.addService _ _ _)
                (fun _ same => by cases same)).act (.retain _) (fun _ same => by cases same)
        · exact .refl
      · exact .refl
  | create keeper title resource =>
      rw [take, create]
      split
      · rename_i factory found
        exact factory.create_calm e.terminals title resource
      · exact .refl
  | disposeServices keeper =>
      rw [take, disposeServices]
      split
      · rename_i factory found
        exact factory.disposeAll_calm e.terminals
      · exact .refl
  | activate helper settings =>
      have activates := Extension.activate_activates e.workspace helper settings
      rw [take, Estate.activate]
      generalize Extension.activate e.workspace helper settings = result at activates
      cases activates with
      | invalid | noRuntime => exact .refl
      | activated _ _ _ _ _ terminals =>
          show Terminal.World.Calm _ (Workspace.terminals _)
          rw [terminals]
          exact .refl
  | register place name =>
      rw [take, withExtension]
      split
      · rename_i x there
        rcases x.register_eq e.workspace name with ⟨registry, disposals, registered, _⟩
        rw [registered]
        exact .refl
      · exact .refl
  | dispose place =>
      rw [take, withExtension]
      split
      · rename_i x there
        exact (sound.getElem there).dispose_calm e.workspace
      · exact .refl
  | drop place =>
      rw [take, Estate.drop]
      split
      · rename_i x there
        exact (sound.getElem there).drop_calm e.workspace
      · exact .refl

end Estate

namespace Course

variable {course : Course}

/-- Everything that happened to the terminals and was not done by factories. -/
def past (course : Course) : List Moment :=
  Estate.history
    { workspace :=
        { terminals := { env := course.env }, lint := { hasRuntime := course.hasRuntime } } }
    course.deeds

def extend (course : Course) (more : List Deed) : Course :=
  { course with deeds := course.deeds ++ more }

theorem extend_nil (course : Course) : course.extend [] = course := by
  simp only [extend, List.append_nil]

theorem extend_cons (course : Course) (deed : Deed) (rest : List Deed) :
    course.extend (deed :: rest) = (course.step deed).extend rest := by
  simp only [extend, step, List.append_assoc, List.singleton_append]

theorem past_step (course : Course) (deed : Deed) :
    (course.step deed).past = course.past ++ (course.estate.moment? deed).toList := by
  refine (Estate.history_append _ course.deeds [deed]).trans ?_
  rw [Estate.history, Estate.history, List.append_nil]
  rfl

/-- Whether a terminal was closed while it was held, and its service heard of it. -/
def Closed (course : Course) (terminal : Nat) : Prop :=
  ∃ m ∈ course.past, ∃ service, m.HearsClosed service terminal

/-- At every time the world of terminals is in order. -/
theorem inOrder (course : Course) : course.estate.terminals.InOrder course.Closed := by
  induction course using Course.induction with
  | start env hasRuntime =>
      have unclosed : (⟨env, hasRuntime, []⟩ : Course).Closed = (⟨env, []⟩ : Terminal.Run).Closed :=
        rfl
      rw [unclosed]
      exact ⟨Terminal.Run.sound ⟨env, []⟩, Terminal.Run.ledger ⟨env, []⟩,
        Terminal.Run.registered ⟨env, []⟩⟩
  | step course deed inductionHypothesis =>
      cases own : course.estate.moment? deed with
      | none =>
          have same : (course.step deed).Closed = course.Closed := by
            funext terminal
            rw [Closed, Closed, past_step, own, Option.toList_none, List.append_nil]
          rw [same, estate_step]
          exact inductionHypothesis.calm (Estate.take_calm course.sound own)
      | some m =>
          rcases Estate.performs_of_moment own with ⟨action, rfl, rfl, performed⟩
          have closed : (course.step (.terminals action)).Closed = fun terminal =>
              course.Closed terminal ∨ ∃ service,
                Moment.HearsClosed ⟨course.estate.terminals, action⟩ service terminal := by
            funext terminal
            simp only [Closed, past_step, own, Option.toList_some, List.mem_append,
              List.mem_singleton, or_and_right, exists_or, exists_eq_left]
          rw [closed, estate_step, performed]
          exact inductionHypothesis.perform action

/-- Nothing brings a disposed service back. -/
theorem disposed_extend (course : Course) {service : Nat}
    (disposed : course.estate.terminals.phase? service = some .disposed) (more : List Deed) :
    (course.extend more).estate.terminals.phase? service = some .disposed := by
  induction more generalizing course with
  | nil => rwa [extend_nil]
  | cons deed rest inductionHypothesis =>
      rw [extend_cons]
      apply inductionHypothesis
      rw [estate_step]
      cases own : course.estate.moment? deed with
      | none => exact (Estate.take_calm course.sound own).disposed course.inOrder disposed
      | some m =>
          rcases Estate.performs_of_moment own with ⟨action, rfl, _, performed⟩
          rw [performed]
          exact course.inOrder.disposed action disposed

end Course

end Workbench
