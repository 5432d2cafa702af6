import Workbench.Proofs.Terminal.LateUses

namespace Workbench
namespace Terminal

/-!
# Creations go on as they were begun

A creation belongs to no call.  Whoever attends it in its turn takes on what there is of it: the
options, the shell and the focus preference with which it was begun, and the terminal that the host
handed out for it, if it did.  Only the first of them begins anything, and what the creation does
to its terminal later on is done with the focus preference of that call.
-/

namespace Creation

/-- What became of a creation has what the creation was begun with, and its terminal. -/
structure Keeps (creation creation' : Creation) : Prop where
  options : creation'.options = creation.options
  shell : creation'.shell = creation.shell
  focus : creation'.preserveFocus = creation.preserveFocus
  terminal : ∀ {terminal : Nat}, creation.terminal = some terminal →
    creation'.terminal = some terminal

namespace Keeps

theorem refl (creation : Creation) : creation.Keeps creation := ⟨rfl, rfl, rfl, id⟩

theorem trans {creation creation' creation'' : Creation} (first : creation.Keeps creation')
    (second : creation'.Keeps creation'') : creation.Keeps creation'' :=
  ⟨second.options.trans first.options, second.shell.trans first.shell,
    second.focus.trans first.focus, fun given => second.terminal (first.terminal given)⟩

end Keeps

/-- What a creation does to its terminal in one turn: nothing, or it shows the terminal because the
environment is prepared, or it disposes the terminal because nothing comes of it. -/
def Does (creation : Creation) (own : List Use) : Prop :=
  own = [] ∨ own = [.shown creation.preserveFocus] ∨ own = [.disposed]

end Creation

namespace World

variable {w w' w'' : World} {service generation : Nat} {creation creation' creation'' : Creation}

/-- What the host and the activator do for a creation that goes on: nothing, or the host hands out
the one terminal, in which the environment may be prepared from then on. -/
inductive Supplies (creation creation' : Creation) (w w' : World) : Prop
  | nothing (next : w'.host.next = w.host.next)
      (activations : w'.activator.activations = w.activator.activations)
  | terminal (unanswered : creation.terminal = none)
      (handed : creation'.terminal = some w.host.next) (next : w'.host.next = w.host.next + 1)
      (activations : w'.activator.activations = w.activator.activations ∨
        ∃ resource, w'.activator.activations = w.activator.activations ++
          [⟨w.host.next, resource, creation.preserveFocus⟩])

/-- A creation goes on, and only what it needs is done meanwhile. -/
structure Carries (service generation : Nat) (creation creation' : Creation) (w w' : World) :
    Prop where
  before : w.creation? service generation = some creation
  after : w'.creation? service generation = some creation'
  keeps : creation.Keeps creation'
  supplies : Supplies creation creation' w w'
  uses : ∀ terminal, creation'.terminal = some terminal →
    ∃ own, creation.Does own ∧ w'.uses terminal = w.uses terminal ++ own

theorem Carries.refl (there : w.creation? service generation = some creation) :
    Carries service generation creation creation w w :=
  ⟨there, there, .refl creation, .nothing rfl rfl, fun _ _ => ⟨[], Or.inl rfl, by simp⟩⟩

/-- A terminal that there is not yet has no uses. -/
theorem uses_of_next_le {terminal : Nat} (beyond : w.host.next ≤ terminal) :
    w.uses terminal = [] := by
  rw [World.uses, List.getElem?_eq_none beyond]
  rfl

/-- A terminal is used as the effect says, if there is such a terminal. -/
theorem uses_use {terminal : Nat} {uses : List Use}
    (record : w'.host.terminals = (Effect.use terminal uses).terminals w.host.terminals) :
    w'.uses terminal = w.uses terminal ++ uses ∨ w'.uses terminal = w.uses terminal := by
  by_cases inside : terminal < w.host.next
  · exact Or.inl (uses_use_self record inside)
  · have beyond := Nat.le_of_not_lt inside
    rw [uses_of_next_le beyond, uses_of_next_le (by rwa [next_use record])]
    exact Or.inr rfl

/-- One stretch of a creation goes on with it.  It is the last one, or it leads to the terminal and
does not use it yet. -/
theorem Advances.carries (advances : Advances service generation w w') (sound : w.Sound) :
    ∃ creation creation', Carries service generation creation creation' w w' ∧
      ((∃ outcome, w'.outcome? service generation = some outcome) ∨
        creation'.terminal = some w.host.next ∧ w'.host.next = w.host.next + 1 ∧
          w'.uses w.host.next = []) := by
  rcases advances with ⟨s, s', creation, creation', effect, replaces, revision, stretch, affects⟩
  have fits := (sound.each replaces.before).fits revision.old
  have before := (creation?_eq replaces.before generation).trans revision.old
  have after := (creation?_eq replaces.after generation).trans revision.new
  have finished {outcome : Outcome} (stage : creation'.stage = .settled outcome) :
      ∃ outcome, w'.outcome? service generation = some outcome :=
    ⟨outcome, outcome?_eq_some_iff.mpr ⟨creation', after, stage⟩⟩
  have record := affects.terminals
  have begun := affects.activations
  have absent : w.uses w.host.next = [] := uses_of_next_le (Nat.le_refl _)
  have keeps (terminal : ∀ {terminal : Nat}, creation.terminal = some terminal →
      creation'.terminal = some terminal) : creation.Keeps creation' :=
    ⟨revision.options, revision.shell, revision.focus, terminal⟩
  have unused (same : w'.host.terminals = w.host.terminals) (terminal : Nat) :
      ∃ own, creation.Does own ∧ w'.uses terminal = w.uses terminal ++ own :=
    ⟨[], Or.inl rfl, by rw [uses_of_eq same, List.append_nil]⟩
  have used {terminal : Nat} {own : List Use} (does : creation.Does own)
      (record : w'.host.terminals = (Effect.use terminal own).terminals w.host.terminals) :
      ∃ own, creation.Does own ∧ w'.uses terminal = w.uses terminal ++ own := by
    rcases uses_use record with uses | same
    · exact ⟨own, does, uses⟩
    · exact ⟨[], Or.inl rfl, by rw [same, List.append_nil]⟩
  refine ⟨creation, creation', ?_⟩
  generalize s'.phase = phase' at stretch
  cases stretch with
  | refused | failedLate =>
      exact ⟨⟨before, after, keeps id, .nothing (congrArg List.length record) begun,
        fun terminal _ => unused record terminal⟩, Or.inl (finished rfl)⟩
  | lost hosting stale =>
      have unanswered := fits.unanswered hosting
      refine ⟨⟨before, after, keeps (by simp [unanswered]),
        .terminal unanswered rfl (next_arrival record) (Or.inl begun), fun terminal given => ?_⟩,
        Or.inl (finished rfl)⟩
      cases given
      refine ⟨[.disposed], Or.inr (Or.inr rfl), ?_⟩
      rw [absent, World.uses, record_arrival_self record]
      rfl
  | handed hosting recorded due =>
      have unanswered := fits.unanswered hosting
      have untouched : w'.uses w.host.next = [] := by
        rw [World.uses, record_arrival_self record]
        rfl
      refine ⟨⟨before, after, keeps (by simp [unanswered]),
        .terminal unanswered rfl (next_arrival record) (Or.inr ⟨_, begun⟩),
        fun terminal given => ?_⟩, Or.inr ⟨rfl, next_arrival record, untouched⟩⟩
      cases given
      exact ⟨[], Or.inl rfl, by rw [absent, untouched]; rfl⟩
  | prepared activating =>
      refine ⟨⟨before, after, keeps id, .nothing (next_use record) begun, fun terminal given => ?_⟩,
        Or.inl (finished rfl)⟩
      cases (fits.handed activating).symm.trans given
      exact used (Or.inr (Or.inl rfl)) record
  | failed activating =>
      refine ⟨⟨before, after, keeps id, .nothing (next_use record) begun, fun terminal given => ?_⟩,
        Or.inl (finished rfl)⟩
      cases (fits.handed activating).symm.trans given
      exact used (Or.inr (Or.inr rfl)) record

/-- All stretches of a turn go on with the same creation. -/
theorem Progress.carries (progress : Progress service generation w w') (sound : w.Sound)
    (there : w.creation? service generation = some creation) :
    ∃ creation', Carries service generation creation creation' w w' := by
  induction progress using Relation.ReflTransGen.head_induction_on generalizing creation with
  | refl => exact ⟨creation, .refl there⟩
  | head advances rest inductionHypothesis =>
      rcases advances.carries sound with ⟨_, middle, carries, finished | ⟨handed, next, untouched⟩⟩
      all_goals cases there.symm.trans carries.before
      · rcases finished with ⟨outcome, settled⟩
        rw [Progress.eq_of_settled rest settled]
        exact ⟨middle, carries⟩
      · rcases inductionHypothesis (advances.sound sound) carries.after with ⟨last, more⟩
        -- The host has handed the terminal out, so that it does not do so again.
        have given := more.keeps.terminal handed
        refine ⟨last, carries.before, more.after, carries.keeps.trans more.keeps, ?_, ?_⟩
        · cases more.supplies with
          | terminal unanswered =>
              rw [handed] at unanswered
              cases unanswered
          | nothing next' activations' =>
              cases carries.supplies with
              | nothing same => omega
              | terminal unanswered _ _ activations =>
                  exact .terminal unanswered given (next'.trans next)
                    (by rwa [← activations'] at activations)
        · intro terminal same
          cases given.symm.trans same
          rcases more.uses _ given with ⟨own, does, uses⟩
          refine ⟨own, ?_, ?_⟩
          · rwa [Creation.Does, carries.keeps.focus] at does
          · rw [uses, untouched, uses_of_next_le (Nat.le_refl _)]

/-- A creation that there is not does not go on. -/
theorem Progress.eq_of_absent (progress : Progress service generation w w')
    (absent : w.creation? service generation = none) : w' = w := by
  rcases Relation.ReflTransGen.cases_head progress with same | ⟨_, advances, _⟩
  · exact same.symm
  · rcases advances with ⟨s, s', creation, creation', effect, replaces, revision, _⟩
    rw [creation?_eq replaces.before, revision.old] at absent
    cases absent

/-! ## Turns -/

/-- A call attends a creation that there is already. -/
structure Continues (call : Nat) (c : Call) (generation : Nat) (creation : Creation)
    (w w' : World) : Prop where
  /-- No creation is begun. -/
  count : w'.generation c.service = w.generation c.service
  requests : w'.host.requests = w.host.requests
  /-- The call waits for this creation, or it returns what this creation ended with. -/
  told : ∃ state, w'.calls[call]? = some { c with state } ∧
    w'.Told { c with state } c.service generation
  /-- The creation goes on, and the call uses the terminal when it is ready. -/
  goes : ∃ creation', w'.creation? c.service generation = some creation' ∧
    creation.Keeps creation' ∧ Supplies creation creation' w w' ∧
    ∀ terminal, creation'.terminal = some terminal → ∃ own told, creation.Does own ∧
      w'.uses terminal = w.uses terminal ++ own ++ told ∧
      (told = [] ∨ ∃ active, w'.outcome? c.service generation = some (.ok active) ∧
        active.terminal = terminal ∧ told = c.request.uses active.shell)

variable {call : Nat} {c : Call} {w₁ w₂ : World}

/-- A call arrives at a creation that there is, or it begins the creation with its own focus
preference. -/
theorem Arrives.continues_or_begins (arrives : Arrives call c generation w w') (sound : w.Sound) :
    SameSessions w w' ∧ w'.host = w.host ∧ w'.activator = w.activator ∨
    (c.state = .fresh ∧ w.phase? c.service = some .idle) ∧
      w.creation? c.service generation = none ∧
      ∃ creation, w'.creation? c.service generation = some creation ∧
        creation.preserveFocus = c.request.preserveFocus := by
  cases arrives with
  | again => exact Or.inl ⟨.refl w, rfl, rfl⟩
  | joined _ _ sits => exact Or.inl ⟨sits.sessions, sits.host, sits.activator⟩
  | @first begun _ s creation fresh same begins sits focus =>
      subst same
      refine Or.inr ⟨⟨fresh, by rw [phase?_eq begins.replaces.before, begins.idle]⟩,
        begins.absent sound, creation, ?_, focus⟩
      rw [sits.sessions.creation?, begins.creation? sound, if_pos rfl]

/-- What a call does that attends a creation which has gone on: it uses the terminal if it is told
that there is one. -/
theorem Attended.tells (attended : Attended call c generation w w') (sound : w.Sound)
    (there : w.creation? c.service generation = some creation) :
    w'.host.next = w.host.next ∧ w'.activator.activations = w.activator.activations ∧
      ∀ terminal, creation.terminal = some terminal → ∃ told,
        w'.uses terminal = w.uses terminal ++ told ∧
        (told = [] ∨ ∃ active, w'.outcome? c.service generation = some (.ok active) ∧
          active.terminal = terminal ∧ told = c.request.uses active.shell) := by
  cases attended with
  | pending => exact ⟨rfl, rfl, fun _ _ => ⟨[], by simp, Or.inl rfl⟩⟩
  | @answered _ outcome settled answers =>
      have record := answers.terminals
      cases outcome with
      | error error =>
          refine ⟨congrArg List.length record, answers.activations, fun terminal _ => ?_⟩
          exact ⟨[], by rw [uses_of_eq record, List.append_nil], Or.inl rfl⟩
      | ok active =>
          refine ⟨next_use record, answers.activations, fun terminal given => ?_⟩
          have own := (completed_of_ok sound settled).2
          have handed : w.terminal? c.service generation = some terminal := by
            rcases Option.bind_eq_some_iff.mp there with ⟨s, found, member⟩
            rw [terminal?_eq found, Service.terminal?, member, Option.bind_some, given]
          cases own.symm.trans handed
          rcases uses_use record with uses | unused
          · refine ⟨_, uses, Or.inr ⟨active, ?_, rfl, rfl⟩⟩
            rw [answers.sessions.outcome?, settled]
          · exact ⟨[], by rw [unused, List.append_nil], Or.inl rfl⟩

theorem Attends.continues (attends : Attends call c generation w w₁ w₂ w') (sound : w.Sound)
    (there : w.creation? c.service generation = some creation) :
    Continues call c generation creation w w' := by
  rcases attends.arrives.continues_or_begins sound with ⟨same, host, activator⟩ | ⟨_, absent, _⟩
  · have there₁ : w₁.creation? c.service generation = some creation := by
      rw [same.creation?, there]
    have sound₂ := (Progress.changes attends.progress (attends.sound₁ sound)).1
    have confined := attends.progress.confined
    rcases attends.sessions with ⟨same', requests⟩
    rcases attends.progress.carries (attends.sound₁ sound) there₁ with ⟨creation', carries⟩
    -- The answer to the call is the last thing that happens.
    rcases attends.attended.tells sound₂ carries.after with ⟨next, activations, told⟩
    refine ⟨?_, ?_, attends.told, creation', ?_, carries.keeps, ?_, fun terminal given => ?_⟩
    · rw [same'.generation, confined.counts, same.generation]
    · rw [requests, confined.requests, host]
    · rw [same'.creation?, carries.after]
    · cases carries.supplies with
      | nothing next₂ activations₂ =>
          exact .nothing (by rw [next, next₂, host]) (by rw [activations, activations₂, activator])
      | terminal unanswered handed next₂ activations₂ =>
          rw [host] at handed next₂ activations₂
          rw [activator, ← activations] at activations₂
          exact .terminal unanswered handed (next.trans next₂) activations₂
    · rcases carries.uses terminal given with ⟨own, does, uses⟩
      rcases told terminal given with ⟨told, uses', why⟩
      refine ⟨own, told, does, ?_, why⟩
      rw [uses', uses, World.uses, host, ← World.uses]
  · rw [absent] at there
    cases there

/-- If there was no creation before the turn of a call that attends it, the call found its service
without a terminal, and the creation has the focus preference of this call. -/
theorem Attends.begins (attends : Attends call c generation w w₁ w₂ w') (sound : w.Sound)
    (absent : w.creation? c.service generation = none)
    (there : w'.creation? c.service generation = some creation) :
    (c.state = .fresh ∧ w.phase? c.service = some .idle) ∧
      creation.preserveFocus = c.request.preserveFocus := by
  rw [attends.sessions.1.creation?] at there
  rcases attends.arrives.continues_or_begins sound with
    ⟨same, _⟩ | ⟨idle, _, begun, begins, focus⟩
  · rw [← same.creation?] at absent
    rw [Progress.eq_of_absent attends.progress absent, absent] at there
    cases there
  · rcases attends.progress.carries (attends.sound₁ sound) begins with ⟨last, carries⟩
    cases carries.after.symm.trans there
    exact ⟨idle, carries.keeps.focus.trans focus⟩

end World

namespace Moment

variable {m : Moment} {service generation : Nat}

/-- A call continues a creation that there is. -/
theorem AttendedBy.continues {call : Nat} {c : Call} {creation : Creation}
    (attended : m.AttendedBy call c service generation) (lawful : m.Lawful)
    (there : m.before.creation? service generation = some creation) :
    World.Continues call c generation creation m.before m.after := by
  rcases attended.attends lawful with ⟨w₁, w₂, attends⟩
  rw [← attended.about] at there
  exact attends.continues lawful.before there

/-- A call begins a creation of its service. -/
structure Begins (m : Moment) (call : Nat) (c : Call) (service generation : Nat) : Prop
    extends m.AttendedBy call c service generation where
  finds : m.finds? = some service

/-- A creation is there already, and what it was begun with stays, or some call begins it. -/
theorem Lawful.creation?_cases (lawful : m.Lawful) {creation' : Creation}
    (there : m.after.creation? service generation = some creation') :
    (∃ creation, m.before.creation? service generation = some creation ∧
      creation.Keeps creation') ∨
    ∃ call c, m.Begins call c service generation ∧
      creation'.preserveFocus = c.request.preserveFocus := by
  rcases lawful.happens.affair.attends_or_keeps with
    ⟨call, c, number, w₁, w₂, turn, attends⟩ | keeps
  · by_cases here : service = c.service ∧ generation = number
    · rcases here with ⟨rfl, rfl⟩
      cases present : m.before.creation? c.service generation with
      | some creation =>
          rcases (attends.continues lawful.before present).goes with ⟨last, after, keeps, _⟩
          cases after.symm.trans there
          exact Or.inl ⟨creation, rfl, keeps⟩
      | none =>
          rcases attends.begins lawful.before present there with ⟨⟨fresh, idle⟩, focus⟩
          refine Or.inr ⟨call, c,
            { turn := turn
              found := attends.found
              wanted := attends.wanted
              about := rfl
              awaits := attends.awaits
              finds := World.findsIdle?_eq_some_iff.mpr
                ⟨call, c, turn, attends.found, fresh, attends.wanted, rfl, idle⟩ }, focus⟩
    · rw [(attends.spares lawful.before).creation? here] at there
      exact Or.inl ⟨creation', there, .refl creation'⟩
  · rw [keeps] at there
    exact Or.inl ⟨creation', there, .refl creation'⟩

end Moment

namespace Run

/-- Every creation was begun by some call, whose focus preference it has. -/
theorem exists_begins (run : Run) {service generation : Nat} {creation : Creation}
    (there : run.world.creation? service generation = some creation) :
    ∃ m ∈ run.past, ∃ call c, m.Begins call c service generation ∧
      creation.preserveFocus = c.request.preserveFocus := by
  induction run using Run.induction generalizing creation with
  | start env => cases there
  | step run action inductionHypothesis =>
      have lawful := run.lawful action
      rw [world_step] at there
      rw [past_step]
      rcases lawful.creation?_cases there with ⟨earlier, before, keeps⟩ | begins
      · rcases inductionHypothesis before with ⟨m, member, call, c, begins, focus⟩
        exact ⟨m, List.mem_append_left _ member, call, c, begins, keeps.focus.trans focus⟩
      · exact ⟨_, List.mem_append_right _ (List.mem_singleton_self _), begins⟩

end Run

end Terminal
end Workbench
