import Workbench.Proofs.Terminal.Perform

namespace Workbench
namespace Terminal

/-!
# What happens to the terminals of the host

Between two waits of a call a service can receive a terminal, for a creation that had none, and it
can give up the one that it holds, which is disposed then.  Apart from that the terminals are used,
but neither handed out nor disposed.  `Treats` says this of one change, and an action of one service
is a number of such changes.
-/

/-- The terminal that the host handed out for a creation, with what it was told. -/
def Creation.order? (creation : Creation) : Option (Nat × Options) :=
  creation.terminal.map fun terminal => (terminal, creation.options)

namespace World

variable {w w' : World} {service generation : Nat}

/-- What the host handed out for a creation of a service, with what it was told. -/
def order? (w : World) (service generation : Nat) : Option (Nat × Options) :=
  (w.creation? service generation).bind Creation.order?

/-- What the host was told about a terminal. -/
def options? (w : World) (terminal : Nat) : Option Options :=
  (w.host.terminals[terminal]?).map Record.options

/-- The terminals in which environments were prepared, in order. -/
def activated (w : World) : List Nat :=
  w.activator.activations.map Activation.terminal

theorem terminal?_eq_some_iff {terminal : Nat} :
    w.terminal? service generation = some terminal ↔
      ∃ options, w.order? service generation = some (terminal, options) := by
  have unfolded : w.terminal? service generation =
      (w.creation? service generation).bind Creation.terminal := by
    rw [terminal?, creation?, Option.bind_assoc]
    rfl
  rw [unfolded, order?]
  cases w.creation? service generation with
  | none => simp
  | some creation => cases given : creation.terminal <;> simp [Creation.order?, given]

theorem SameSessions.order? (same : SameSessions w w') (service generation : Nat) :
    w'.order? service generation = w.order? service generation := by
  rw [World.order?, World.order?, same.creation?]

/-! ## Effects and the record of the host -/

section Effects

variable {terminal other : Nat} {uses : List Use} {options : Options}
  {activation : Option Activation}

theorem next_use
    (terminals : w'.host.terminals = (Effect.use terminal uses).terminals w.host.terminals) :
    w'.host.next = w.host.next := by
  rw [Host.next, Host.next, terminals, Effect.terminals, List.length_modify]

theorem options?_use
    (terminals : w'.host.terminals = (Effect.use terminal uses).terminals w.host.terminals)
    (other : Nat) : w'.options? other = w.options? other := by
  rw [options?, options?, terminals, Effect.terminals, List.getElem?_modify]
  cases w.host.terminals[other]? with
  | none => rfl
  | some record => by_cases here : terminal = other <;> simp [here]

theorem uses_use_of_ne
    (terminals : w'.host.terminals = (Effect.use terminal uses).terminals w.host.terminals)
    (different : other ≠ terminal) : w'.uses other = w.uses other := by
  rw [World.uses, World.uses, terminals, Effect.terminals, List.getElem?_modify]
  simp [different.symm]

theorem uses_use_self
    (terminals : w'.host.terminals = (Effect.use terminal uses).terminals w.host.terminals)
    (inside : terminal < w.host.next) : w'.uses terminal = w.uses terminal ++ uses := by
  have present := List.getElem?_eq_getElem inside
  rw [World.uses, World.uses, terminals, Effect.terminals, List.getElem?_modify, present]
  simp

/-- Uses other than disposal do not count as such, wherever they happen. -/
theorem disposals_use
    (terminals : w'.host.terminals = (Effect.use terminal uses).terminals w.host.terminals)
    (kept : Use.disposed ∉ uses) (other : Nat) : w'.disposals other = w.disposals other := by
  rw [disposals_eq_count, disposals_eq_count]
  by_cases here : other = terminal
  · subst here
    by_cases inside : other < w.host.next
    · rw [uses_use_self terminals inside, List.count_append, List.count_eq_zero_of_not_mem kept,
        Nat.add_zero]
    · have absent : w.host.terminals[other]? = none := List.getElem?_eq_none (by
        rw [Host.next] at inside
        omega)
      rw [World.uses, World.uses, terminals, Effect.terminals, List.getElem?_modify, absent]
      rfl
  · rw [uses_use_of_ne terminals here]

/-- Disposal counts once, in a terminal that there is. -/
theorem disposals_dispose
    (terminals : w'.host.terminals =
      (Effect.use terminal [.disposed]).terminals w.host.terminals) :
    (terminal < w.host.next → w'.disposals terminal = w.disposals terminal + 1) ∧
      ∀ other, other ≠ terminal → w'.disposals other = w.disposals other := by
  constructor
  · intro inside
    rw [disposals_eq_count, disposals_eq_count, uses_use_self terminals inside, List.count_append]
    rfl
  · intro other different
    rw [disposals_eq_count, disposals_eq_count, uses_use_of_ne terminals different]

theorem next_arrival
    (terminals : w'.host.terminals =
      (Effect.arrival options activation).terminals w.host.terminals) :
    w'.host.next = w.host.next + 1 := by
  rw [Host.next, Host.next, terminals, Effect.terminals, List.length_append, List.length_singleton]

theorem record_arrival_of_lt
    (terminals : w'.host.terminals =
      (Effect.arrival options activation).terminals w.host.terminals)
    (before : other < w.host.next) : w'.host.terminals[other]? = w.host.terminals[other]? := by
  rw [terminals, Effect.terminals, List.getElem?_append_left before]

theorem record_arrival_self
    (terminals : w'.host.terminals =
      (Effect.arrival options activation).terminals w.host.terminals) :
    w'.host.terminals[w.host.next]? =
      some { options, uses := if activation.isSome then [] else [.disposed] } := by
  rw [terminals, Effect.terminals, Host.next, List.getElem?_concat_length]

/-- Terminals that there are already stay as they are when one arrives. -/
theorem kept_arrival
    (terminals : w'.host.terminals =
      (Effect.arrival options activation).terminals w.host.terminals)
    (before : other < w.host.next) :
    w'.options? other = w.options? other ∧ w'.disposals other = w.disposals other := by
  rw [options?, options?, disposals, disposals, record_arrival_of_lt terminals before]
  exact ⟨rfl, rfl⟩

/-- A terminal that arrives is disposed at once if no environment is to be prepared in it. -/
theorem new_arrival
    (terminals : w'.host.terminals =
      (Effect.arrival options activation).terminals w.host.terminals) :
    w'.options? w.host.next = some options ∧
      w'.disposals w.host.next = if activation.isSome then 0 else 1 := by
  rw [options?, disposals, record_arrival_self terminals]
  cases activation with
  | none => exact ⟨rfl, rfl⟩
  | some activation => exact ⟨rfl, rfl⟩

end Effects

/-! ## One change -/

/-- The same terminals were handed out and activated. -/
structure SameTerminals (w w' : World) : Prop where
  orders : ∀ service generation, w'.order? service generation = w.order? service generation
  next : w'.host.next = w.host.next
  options : ∀ terminal, w'.options? terminal = w.options? terminal
  activated : w'.activated = w.activated

/-- A service receives a terminal for a creation that had none, and holds it or disposes it at
once. -/
structure Receipt (service generation : Nat) (options : Options) (w w' : World) : Prop where
  unanswered : w.order? service generation = none
  handed : w'.order? service generation = some (w.host.next, options)
  orders : ∀ other number, ¬ (other = service ∧ number = generation) →
    w'.order? other number = w.order? other number
  next : w'.host.next = w.host.next + 1
  told : w'.options? w.host.next = some options
  options : ∀ terminal, terminal < w.host.next → w'.options? terminal = w.options? terminal
  others : ∀ other, other ≠ service → w'.held? other = w.held? other
  fate : w.held? service = none ∧ w'.held? service = some w.host.next ∧
      w'.disposals w.host.next = 0 ∨
    w'.held? service = w.held? service ∧ w'.disposals w.host.next = 1
  disposals : ∀ terminal, terminal < w.host.next → w'.disposals terminal = w.disposals terminal
  activated : w'.activated = w.activated ∨ w'.activated = w.activated ++ [w.host.next]

/-- What one change of a service means for the terminals. -/
inductive Treats (service : Nat) (w w' : World) : Prop
  | keeps (same : SameTerminals w w') (held : ∀ other, w'.held? other = w.held? other)
      (disposals : ∀ terminal, w'.disposals terminal = w.disposals terminal)
  | releases {terminal : Nat} (same : SameTerminals w w')
      (held : w.held? service = some terminal) (released : w'.held? service = none)
      (others : ∀ other, other ≠ service → w'.held? other = w.held? other)
      (disposed : terminal < w.host.next → w'.disposals terminal = w.disposals terminal + 1)
      (disposals : ∀ other, other ≠ terminal → w'.disposals other = w.disposals other)
  | receives {generation : Nat} {options : Options}
      (receipt : Receipt service generation options w w')

/-- A number of changes of one service, which leave all services sound. -/
abbrev Changes (service : Nat) : World → World → Prop :=
  Relation.ReflTransGen fun w w' => Treats service w w' ∧ w'.Sound

/-- What no session and no terminal shows but by its uses. -/
theorem Treats.ofUse {terminal : Nat} {uses : List Use} (sessions : SameSessions w w')
    (terminals : w'.host.terminals = (Effect.use terminal uses).terminals w.host.terminals)
    (activations : w'.activator.activations = w.activator.activations)
    (kept : Use.disposed ∉ uses) (service : Nat) : Treats service w w' :=
  .keeps ⟨sessions.order?, next_use terminals, options?_use terminals,
    congrArg (List.map Activation.terminal) activations⟩ sessions.held?
    (disposals_use terminals kept)

theorem SameTerminals.of_eq
    (orders : ∀ service generation, w'.order? service generation = w.order? service generation)
    (terminals : w'.host.terminals = w.host.terminals)
    (activations : w'.activator.activations = w.activator.activations) : SameTerminals w w' where
  orders := orders
  next := by rw [Host.next, Host.next, terminals]
  options := fun terminal => by rw [options?, options?, terminals]
  activated := congrArg (List.map Activation.terminal) activations

theorem disposals_of_eq (terminals : w'.host.terminals = w.host.terminals) (terminal : Nat) :
    w'.disposals terminal = w.disposals terminal := by
  rw [disposals, disposals, terminals]

theorem Treats.ofSessions (sessions : SameSessions w w')
    (terminals : w'.host.terminals = w.host.terminals)
    (activations : w'.activator.activations = w.activator.activations) (service : Nat) :
    Treats service w w' :=
  .keeps (.of_eq sessions.order? terminals activations) sessions.held? (disposals_of_eq terminals)

theorem Treats.ofQuiet (quiet : Quiet w w') (service : Nat) : Treats service w w' :=
  .ofSessions quiet.sessions quiet.terminals quiet.activations service

theorem Treats.ofEnds {call : Nat} {state : CallState} {effect : Effect}
    (ends : Ends call state effect w w')
    (kept : effect = .nothing ∨ ∃ terminal uses, effect = .use terminal uses ∧ Use.disposed ∉ uses)
    (service : Nat) : Treats service w w' := by
  rcases kept with rfl | ⟨terminal, uses, rfl, kept⟩
  · exact .ofSessions ends.sessions ends.terminals ends.activations service
  · exact .ofUse ends.sessions ends.terminals ends.activations kept service

theorem Treats.ofAnswers {call : Nat} {c : Call} {outcome : Outcome}
    (answers : Answers call c outcome w w') (service : Nat) : Treats service w w' := by
  refine .ofEnds answers ?_ service
  cases outcome with
  | error error => exact Or.inl rfl
  | ok active =>
      refine Or.inr ⟨active.terminal, c.request.uses active.shell, rfl, ?_⟩
      cases c.request <;> simp [Request.uses]

/-- Nothing is handed out for other creations than the one that is revised. -/
theorem order?_of_replaces {s s' : Service} {creation creation' : Creation}
    (replaces : Replaces w w' service s s')
    (revision : Service.Revision s s' generation creation creation') (other number : Nat)
    (different : ¬ (other = service ∧ number = generation)) :
    w'.order? other number = w.order? other number := by
  rw [order?, order?]
  by_cases here : other = service
  · subst here
    rw [creation?_eq replaces.before, creation?_eq replaces.after,
      revision.others number fun same => different ⟨rfl, same⟩]
  · rw [creation?, creation?, replaces.others other here]

theorem order?_revised {s s' : Service} {creation creation' : Creation}
    (replaces : Replaces w w' service s s')
    (revision : Service.Revision s s' generation creation creation') :
    w.order? service generation = creation.order? ∧
    w'.order? service generation = creation'.order? := by
  rw [order?, order?, creation?_eq replaces.before, creation?_eq replaces.after, revision.old,
    revision.new]
  exact ⟨rfl, rfl⟩

/-- A revision of a creation to which nothing is handed out. -/
theorem SameTerminals.ofRevision {s s' : Service} {creation creation' : Creation}
    (replaces : Replaces w w' service s s')
    (revision : Service.Revision s s' generation creation creation')
    (same : creation'.terminal = creation.terminal) (next : w'.host.next = w.host.next)
    (options : ∀ terminal, w'.options? terminal = w.options? terminal)
    (activated : w'.activated = w.activated) : SameTerminals w w' where
  orders := fun other number => by
    by_cases here : other = service ∧ number = generation
    · rcases here with ⟨rfl, rfl⟩
      rcases order?_revised replaces revision with ⟨before, after⟩
      rw [before, after, Creation.order?, Creation.order?, same, revision.options]
    · exact order?_of_replaces replaces revision other number here
  next := next
  options := options
  activated := activated

theorem held?_of_replaces {s s' : Service} (replaces : Replaces w w' service s s')
    (same : s'.phase.held? = s.phase.held?) (other : Nat) : w'.held? other = w.held? other := by
  by_cases here : other = service
  · subst here
    rw [held?_eq replaces.before, held?_eq replaces.after, same]
  · rw [held?, held?, replaces.others other here]

theorem held?_others {s s' : Service} (replaces : Replaces w w' service s s') (other : Nat)
    (different : other ≠ service) : w'.held? other = w.held? other := by
  rw [held?, held?, replaces.others other different]

/-! ## Creations -/

/-- The end of a creation that nobody waits for, or to which nothing was handed out, changes
nothing of what is held. -/
theorem held?_settle_error {phase : Phase} (error : Error)
    (free : phase.isCurrent generation = true → phase = .creating generation none) :
    (phase.settle generation (.error error)).held? = phase.held? := by
  cases current : phase.isCurrent generation with
  | false => rw [Phase.settle_of_not_current current]
  | true =>
      rw [Phase.settle_of_current current, free current]
      rfl

/-- The terminal in use is the one that was held for its creation. -/
theorem held?_settle_ok {phase : Phase} {active : Active}
    (held : phase.isCurrent generation = true →
      phase = .creating generation (some active.terminal)) :
    (phase.settle generation (.ok active)).held? = phase.held? := by
  cases current : phase.isCurrent generation with
  | false => rw [Phase.settle_of_not_current current]
  | true =>
      rw [Phase.settle_of_current current, held current]
      rfl

/-- A stretch in which no terminal is used or handed out is no change at all. -/
theorem Treats.ofRevision {s s' : Service} {creation creation' : Creation}
    (replaces : Replaces w w' service s s')
    (revision : Service.Revision s s' generation creation creation')
    (same : creation'.terminal = creation.terminal) (held : s'.phase.held? = s.phase.held?)
    (terminals : w'.host.terminals = w.host.terminals) (activated : w'.activated = w.activated) :
    Treats service w w' := by
  refine .keeps (.ofRevision replaces revision same ?_ ?_ activated)
    (held?_of_replaces replaces held) (disposals_of_eq terminals)
  · rw [Host.next, Host.next, terminals]
  · intro terminal
    rw [options?, options?, terminals]

/-- A creation to which nothing was handed out receives what arrives. -/
theorem Receipt.ofArrival {s s' : Service} {creation creation' : Creation}
    {activation : Option Activation} (replaces : Replaces w w' service s s')
    (revision : Service.Revision s s' generation creation creation')
    (unanswered : creation.terminal = none) (handed : creation'.terminal = some w.host.next)
    (terminals : w'.host.terminals =
      (Effect.arrival creation'.options activation).terminals w.host.terminals)
    (fate : w.held? service = none ∧ w'.held? service = some w.host.next ∧ activation.isSome ∨
      w'.held? service = w.held? service ∧ activation = none)
    (activated : w'.activated = w.activated ∨ w'.activated = w.activated ++ [w.host.next]) :
    Receipt service generation creation'.options w w' where
  unanswered := by rw [(order?_revised replaces revision).1, Creation.order?, unanswered,
    Option.map_none]
  handed := by rw [(order?_revised replaces revision).2, Creation.order?, handed, Option.map_some]
  orders := order?_of_replaces replaces revision
  next := next_arrival terminals
  told := (new_arrival terminals).1
  options := fun _ earlier => (kept_arrival terminals earlier).1
  others := held?_others replaces
  fate := by
    have disposals := (new_arrival terminals).2
    rcases fate with ⟨free, holding, opened⟩ | ⟨same, rfl⟩
    · rw [if_pos opened] at disposals
      exact Or.inl ⟨free, holding, disposals⟩
    · exact Or.inr ⟨same, disposals⟩
  disposals := fun _ earlier => (kept_arrival terminals earlier).2
  activated := activated

/-- One stretch of a creation is one change. -/
theorem Advances.treats (sound : w.Sound) (advances : Advances service generation w w') :
    Treats service w w' := by
  rcases advances with ⟨s, s', creation, creation', effect, replaces, revision, stretch, affects⟩
  have fits := (sound.each replaces.before).fits revision.old
  have record := affects.terminals
  have begun := congrArg (List.map Activation.terminal) affects.activations
  have held := held?_eq replaces.before
  have held' := held?_eq replaces.after
  generalize phase' : s'.phase = after at stretch held'
  -- Only a creation that still waits for the host can receive a terminal, and only one that is
  -- waited for can have one released.
  cases stretch with
  | refused hosting error =>
      refine .ofRevision replaces revision rfl ?_ record begun
      rw [phase']
      refine held?_settle_error error fun current => ?_
      rw [← fits.unanswered hosting]
      exact (fits.ofCurrent current).1
  | lost hosting stale =>
      refine .receives (.ofArrival replaces revision (fits.unanswered hosting) rfl record
        (Or.inr ⟨?_, rfl⟩) (Or.inl begun))
      rw [held, held', Phase.settle_of_not_current (Phase.record?_eq_none_iff.mp stale)]
  | handed hosting recorded due =>
      rcases Phase.record?_eq_some_iff.mp recorded with ⟨current, rfl⟩
      rw [(fits.ofCurrent current).1, fits.unanswered hosting] at held
      refine .receives (.ofArrival replaces revision (fits.unanswered hosting) rfl record
        (Or.inl ⟨held, held', rfl⟩) (Or.inr ?_))
      rw [activated, begun, Effect.activations, List.map_append]
      rfl
  | prepared activating =>
      refine .keeps
        (.ofRevision replaces revision rfl (next_use record) (options?_use record) begun)
        (held?_of_replaces replaces ?_) (disposals_use record (by simp))
      rw [phase']
      refine held?_settle_ok fun current => ?_
      rw [← fits.handed activating]
      exact (fits.ofCurrent current).1
  | @failed terminal due activating released free error =>
      rcases Phase.release?_eq_some_iff.mp free with ⟨⟨other, creating⟩, rfl⟩
      have current := Phase.isCurrent_iff.mpr ⟨_, creating⟩
      rw [(fits.ofCurrent current).1, fits.handed activating] at held
      rw [Phase.settle_of_current (Phase.isCurrent_iff.mpr ⟨none, rfl⟩)] at held'
      rcases disposals_dispose record with ⟨once, others⟩
      exact .releases
        (.ofRevision replaces revision rfl (next_use record) (options?_use record) begun)
        held held' (held?_others replaces) once others
  | failedLate activating stale error =>
      refine .ofRevision replaces revision rfl ?_ record begun
      rw [phase']
      cases current : s.phase.isCurrent generation with
      | false => rw [Phase.settle_of_not_current current]
      | true =>
          have creating := (fits.ofCurrent current).1
          rw [fits.handed activating] at creating
          exact absurd creating (Phase.release?_eq_none_iff.mp stale _)

end World
end Terminal
end Workbench
