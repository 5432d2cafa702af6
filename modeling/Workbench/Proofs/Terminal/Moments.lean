import Workbench.Proofs.Terminal.Ownership
import Workbench.Proofs.Terminal.Settling

namespace Workbench
namespace Terminal

/-!
# Moments in the life of a creation

A creation begins when a call that has its first turn finds its service without a terminal, and it
ends in the turn of a call that attends it.  All that an action does to creations, it does to the
one that a call attends.
-/

namespace World

variable {w w' : World} {service generation : Nat}

/-- The service that a call finds without a terminal when it has its first turn. -/
def findsIdle? (w : World) : Action → Option Nat
  | .poll call =>
    match w.calls[call]? with
    | some c =>
      if c.state = .fresh ∧ c.cancelled = false ∧ w.phase? c.service = some .idle then
        some c.service
      else none
    | none => none
  | _ => none

theorem findsIdle?_eq_some_iff {action : Action} :
    w.findsIdle? action = some service ↔
      ∃ (call : Nat) (c : Call), action = .poll call ∧ w.calls[call]? = some c ∧
        c.state = .fresh ∧ c.cancelled = false ∧ c.service = service ∧
          w.phase? service = some .idle := by
  constructor
  · intro finds
    cases action with
    | poll call =>
        cases found : w.calls[call]? with
        | none => simp [findsIdle?, found] at finds
        | some c =>
            simp only [findsIdle?, found, Option.ite_none_right_eq_some, Option.some.injEq] at finds
            rcases finds with ⟨⟨fresh, wanted, idle⟩, rfl⟩
            exact ⟨call, c, rfl, found, fresh, wanted, rfl, idle⟩
    | _ => cases finds
  · rintro ⟨call, c, rfl, found, fresh, wanted, rfl, idle⟩
    simp only [findsIdle?, found, fresh, wanted, idle, and_self, if_true]

/-- A service waits for a creation, or begins to do so with an action. -/
def AwaitsAt (w : World) (action : Action) (service generation : Nat) : Prop :=
  w.Current service generation ∨
    w.findsIdle? action = some service ∧ generation = w.generation service + 1

/-! ## Arriving at a creation -/

section Arriving

variable {call : Nat} {c : Call}

/-- A call arrives at a creation that there is, or it begins one. -/
theorem Arrives.cases (arrives : Arrives call c generation w w') (found : w.calls[call]? = some c)
    (wanted : c.cancelled = false) :
    (SameSessions w w' ∧ w'.host.requests = w.host.requests ∧
      w.findsIdle? (.poll call) = none) ∨
    ∃ (begun : World) (s : Service) (creation : Creation),
      w.findsIdle? (.poll call) = some c.service ∧ generation = s.generation + 1 ∧
        Begins c.service w begun s creation ∧ Sits call generation begun w' := by
  cases arrives with
  | again waiting =>
      refine Or.inl ⟨.refl w, rfl, Option.eq_none_iff_forall_ne_some.mpr fun service finds => ?_⟩
      rcases findsIdle?_eq_some_iff.mp finds with ⟨_, other, same, found', fresh, _⟩
      cases same
      rw [found] at found'
      cases found'
      rw [waiting] at fresh
      cases fresh
  | joined fresh creating sits =>
      refine Or.inl ⟨sits.sessions, by rw [sits.host],
        Option.eq_none_iff_forall_ne_some.mpr fun service finds => ?_⟩
      rcases findsIdle?_eq_some_iff.mp finds with ⟨_, other, same, found', _, _, rfl, idle⟩
      cases same
      rw [found] at found'
      cases found'
      rw [creating] at idle
      cases idle
  | @first begun _ s creation fresh same begins sits =>
      refine Or.inr ⟨begun, s, creation, ?_, same, begins, sits⟩
      refine findsIdle?_eq_some_iff.mpr ⟨call, c, rfl, found, fresh, wanted, rfl, ?_⟩
      rw [phase?_eq begins.replaces.before, begins.idle]

/-- The creation that begins is a new one. -/
theorem Begins.absent {s : Service} {creation : Creation}
    (begins : Begins service w w' s creation) (sound : w.Sound) :
    w.creation? service (s.generation + 1) = none := by
  rw [creation?_eq begins.replaces.before]
  cases member : s.creation? (s.generation + 1) with
  | none => rfl
  | some creation =>
      have le := Service.creation?_le member
      rw [(sound.each begins.replaces.before).counted] at le
      omega

theorem Begins.creation? {s : Service} {creation : Creation}
    (begins : Begins service w w' s creation) (sound : w.Sound) (number : Nat) :
    w'.creation? service number =
      if number = s.generation + 1 then some creation else w.creation? service number := by
  rw [creation?_eq begins.replaces.after, creation?_eq begins.replaces.before,
    Service.creation?_begun (sound.each begins.replaces.before).counted]

theorem Begins.spares {s : Service} {creation : Creation}
    (begins : Begins service w w' s creation) (sound : w.Sound) :
    Spares service (s.generation + 1) w w' where
  others := begins.replaces.others
  numbers := fun number different => by rw [begins.creation? sound, if_neg different]

theorem Begins.current {s : Service} {creation : Creation}
    (begins : Begins service w w' s creation) : w'.Current service (s.generation + 1) :=
  ⟨none, phase?_eq begins.replaces.after⟩

theorem Begins.counts {s : Service} {creation : Creation}
    (begins : Begins service w w' s creation) :
    w.generation service = s.generation ∧ w'.generation service = s.generation + 1 :=
  ⟨generation_eq begins.replaces.before, generation_eq begins.replaces.after⟩

theorem SameSessions.current (same : SameSessions w w') (service generation : Nat) :
    w'.Current service generation ↔ w.Current service generation := by
  rw [World.Current, World.Current, same.phase?]

theorem Arrives.spares (arrives : Arrives call c generation w w')
    (found : w.calls[call]? = some c) (wanted : c.cancelled = false) (sound : w.Sound) :
    Spares c.service generation w w' := by
  rcases arrives.cases found wanted with
    ⟨same, _, _⟩ | ⟨begun, s, creation, _, rfl, begins, sits⟩
  · exact .ofSame same
  · exact (begins.spares sound).trans (.ofSame sits.sessions)

/-- The creation at which a call arrives is waited for if it was before or begins now. -/
theorem Arrives.current_iff (arrives : Arrives call c generation w w')
    (found : w.calls[call]? = some c) (wanted : c.cancelled = false) :
    w'.Current c.service generation ↔ w.AwaitsAt (.poll call) c.service generation := by
  rcases arrives.cases found wanted with
    ⟨same, _, none⟩ | ⟨begun, s, creation, finds, rfl, begins, sits⟩
  · rw [same.current, AwaitsAt, none]
    simp
  · refine ⟨fun _ => Or.inr ⟨finds, by rw [begins.counts.1]⟩, fun _ => ?_⟩
    rw [sits.sessions.current]
    exact begins.current

/-- A creation that is over was there before a call arrives at it. -/
theorem Arrives.outcome? (arrives : Arrives call c generation w w')
    (found : w.calls[call]? = some c) (wanted : c.cancelled = false) (sound : w.Sound) :
    w'.outcome? c.service generation = w.outcome? c.service generation := by
  rcases arrives.cases found wanted with
    ⟨same, _, _⟩ | ⟨begun, s, creation, _, rfl, begins, sits⟩
  · exact same.outcome? c.service generation
  · rw [sits.sessions.outcome?, begins.current.unsettled (begins.sound sound)]
    refine (outcome?_eq_none_iff.mpr fun found member => ?_).symm
    rw [begins.absent sound] at member
    cases member

end Arriving

/-! ## The turn of a call that attends a creation -/

/-- A call attends a creation in its turn: it arrives there, takes it as far as it can go, and is
answered if it is over then. -/
structure Attends (call : Nat) (c : Call) (generation : Nat) (w w₁ w₂ w' : World) : Prop where
  found : w.calls[call]? = some c
  wanted : c.cancelled = false
  awaits : w.awaited? c = some generation
  arrives : Arrives call c generation w w₁
  progress : Progress c.service generation w₁ w₂
  attended : Attended call c generation w₂ w'

namespace Attends

variable {call : Nat} {c : Call} {w₁ w₂ : World}

theorem sound₁ (attends : Attends call c generation w w₁ w₂ w') (sound : w.Sound) : w₁.Sound :=
  (attends.arrives.changes sound).1

/-- The answer to the call shows in no session. -/
theorem sessions (attends : Attends call c generation w w₁ w₂ w') :
    SameSessions w₂ w' ∧ w'.host.requests = w₂.host.requests := by
  cases attends.attended with
  | pending unsettled => exact ⟨.refl _, rfl⟩
  | answered settled answers => exact ⟨answers.sessions, answers.requests⟩

theorem spares (attends : Attends call c generation w w₁ w₂ w') (sound : w.Sound) :
    Spares c.service generation w w' :=
  ((attends.arrives.spares attends.found attends.wanted sound).trans
    attends.progress.confined.toSpares).trans (.ofSame attends.sessions.1)

/-- A creation that is over stays as it is. -/
theorem eq_of_settled (attends : Attends call c generation w w₁ w₂ w') (sound : w.Sound)
    {outcome : Outcome} (settled : w.outcome? c.service generation = some outcome) :
    SameSessions w w' := by
  have settled₁ : w₁.outcome? c.service generation = some outcome := by
    rw [attends.arrives.outcome? attends.found attends.wanted sound, settled]
  have stays := attends.progress.eq_of_settled settled₁
  rcases attends.arrives.cases attends.found attends.wanted with
    ⟨same, _, _⟩ | ⟨begun, s, creation, _, rfl, begins, sits⟩
  · rw [← stays] at same
    exact same.trans attends.sessions.1
  · rw [sits.sessions.outcome?, begins.current.unsettled (begins.sound sound)] at settled₁
    cases settled₁

/-- A creation that its service waits for is waited for or over after the turn. -/
theorem current (attends : Attends call c generation w w₁ w₂ w') (sound : w.Sound)
    (current : w.AwaitsAt (.poll call) c.service generation) :
    Comes c.service generation w' := by
  have waiting := (attends.arrives.current_iff attends.found attends.wanted).mpr current
  have same := attends.sessions.1
  cases attends.progress.current (attends.sound₁ sound) waiting with
  | waiting current => exact .waiting ((same.current _ _).mpr current)
  | failed settled idle incomplete =>
      refine .failed ((same.outcome? _ _).trans settled) ((same.phase? _).trans idle) ?_
      rintro ⟨creation, member, complete⟩
      rw [same.creation?] at member
      exact incomplete ⟨creation, member, complete⟩
  | usable settled ready =>
      exact .usable ((same.outcome? _ _).trans settled) ((same.phase? _).trans ready)

/-- A creation that its service does not wait for changes nothing of the session, and if it goes on,
it ends with an error. -/
theorem stale (attends : Attends call c generation w w₁ w₂ w')
    (stale : ¬ w.AwaitsAt (.poll call) c.service generation) :
    w.findsIdle? (.poll call) = none ∧ w'.phase? c.service = w.phase? c.service ∧
      w'.generation c.service = w.generation c.service ∧
      (w'.outcome? c.service generation = w.outcome? c.service generation ∨
        ∃ error, w'.outcome? c.service generation = some (.error error)) := by
  rw [← attends.arrives.current_iff attends.found attends.wanted] at stale
  have same := attends.sessions.1
  rcases attends.arrives.cases attends.found attends.wanted with
    ⟨same₁, _, none⟩ | ⟨begun, s, creation, _, rfl, begins, sits⟩
  · rcases attends.progress.stale stale with ⟨phase, unchanged⟩
    refine ⟨none, ?_, ?_, ?_⟩
    · rw [same.phase?, phase, same₁.phase?]
    · rw [same.generation, attends.progress.confined.counts, same₁.generation]
    · rw [same.outcome?]
      rcases unchanged with unchanged | failed
      · rw [unchanged, same₁.outcome?]
        exact Or.inl rfl
      · exact Or.inr failed
  · rw [sits.sessions.current] at stale
    exact absurd begins.current stale

end Attends

/-! ## All actions -/

/-- Neither phases nor creations change but in the turn of a call that attends a creation, when a
service is made or disposed, or when it hears that its terminal was closed. -/
inductive Affair (w : World) (action : Action) (w' : World) : Prop
  | attends {call : Nat} {c : Call} {generation : Nat} {w₁ w₂ : World} (turn : action = .poll call)
      (attends : Attends call c generation w w₁ w₂ w')
  | same (noneIdle : w.findsIdle? action = none) (same : SameSessions w w')
      (requests : w'.host.requests = w.host.requests)
  | added {service : Nat} {title : String} {resource : Option Url} {helper : Helper}
      (noneIdle : w.findsIdle? action = none) (adds : Adds title resource helper service w w')
  | disposed {service : Nat} {s : Service} (noneIdle : w.findsIdle? action = none)
      (disposes : Disposes service w w' s)
  | heard {service terminal : Nat} {s : Service} (noneIdle : w.findsIdle? action = none)
      (hearsClosed : Moment.HearsClosed ⟨w, action⟩ service terminal)
      (hears : Hears service w w' s)

theorem Happens.affair {action : Action} (happens : Happens w action w') : Affair w action w' := by
  cases happens with
  | added adds => exact .added rfl adds
  | disposed disposes => exact .disposed rfl disposes
  | heard listening held hears => exact .heard rfl ⟨rfl, listening, held⟩ hears
  | unheard => exact .same rfl (.refl w) rfl
  | quiet noTurn _ quiet =>
      refine .same ?_ quiet.sessions quiet.requests
      cases action with
      | poll call => exact absurd rfl (noTurn call)
      | _ => rfl
  | @polled call _ polled =>
      -- Whoever finds its service without a terminal begins a creation.
      have elsewhere {c : Call} (found : w.calls[call]? = some c)
          (busy : c.state = .fresh → c.cancelled = false → w.phase? c.service ≠ some .idle) :
          w.findsIdle? (.poll call) = none := by
        refine Option.eq_none_iff_forall_ne_some.mpr fun service finds => ?_
        rcases findsIdle?_eq_some_iff.mp finds with ⟨_, _, same, found', fresh, wanted, rfl, idle⟩
        cases same
        rw [found] at found'
        cases found'
        exact busy fresh wanted idle
      cases polled with
      | nothing pointless =>
          refine .same ?_ (.refl w) rfl
          cases found : w.calls[call]? with
          | none => simp only [findsIdle?, found]
          | some c =>
              refine elsewhere found fun fresh _ idle => ?_
              rcases pointless c found with settled | ⟨_, absent⟩
              · rw [fresh] at settled
                cases settled
              · rw [phase?, absent] at idle
                cases idle
      | abandoned found running cancelled ends =>
          refine .same (elsewhere found fun _ wanted => ?_) ends.sessions ends.requests
          rw [cancelled] at wanted
          cases wanted
      | served found fresh wanted ready answers =>
          refine .same (elsewhere found fun _ _ => ?_) answers.sessions answers.requests
          intro idle
          rw [ready] at idle
          cases idle
      | refused found fresh wanted disposed answers =>
          refine .same (elsewhere found fun _ _ => ?_) answers.sessions answers.requests
          intro idle
          rw [disposed] at idle
          cases idle
      | attended found wanted awaits arrives progress attended =>
          exact .attends rfl ⟨found, wanted, awaits, arrives, progress, attended⟩

/-- Creations change only in the turn of a call that attends one of them. -/
theorem Affair.attends_or_keeps {action : Action} (affair : Affair w action w') :
    (∃ (call : Nat) (c : Call) (number : Nat) (w₁ w₂ : World), action = .poll call ∧
      Attends call c number w w₁ w₂ w') ∨
    ∀ service generation, w'.creation? service generation = w.creation? service generation := by
  have ofPhase {other : Nat} {s : Service} {phase : Phase}
      (replaces : Replaces w w' other s { s with phase }) (service generation : Nat) :
      w'.creation? service generation = w.creation? service generation := by
    by_cases here : service = other
    · subst here
      rw [creation?_eq replaces.before, creation?_eq replaces.after, Service.creation?_withPhase]
    · rw [World.creation?, World.creation?, replaces.others service here]
  cases affair with
  | @attends call c number w₁ w₂ turn attends =>
      exact Or.inl ⟨call, c, number, w₁, w₂, turn, attends⟩
  | same _ same => exact Or.inr same.creation?
  | @added made _ _ _ _ adds =>
      refine Or.inr fun service generation => ?_
      by_cases here : service = made
      · subst here
        rw [World.creation?, World.creation?, adds.present, adds.absent]
        cases generation <;> rfl
      · rw [World.creation?, World.creation?, adds.others service here]
  | disposed _ disposes => exact Or.inr (ofPhase disposes.replaces)
  | heard _ _ hears =>
      rcases hears.replaces with ⟨_, _, replaces⟩
      exact Or.inr (ofPhase replaces)

/-- A creation that is over stays as it is. -/
theorem Affair.creation?_of_settled {action : Action} (affair : Affair w action w')
    (sound : w.Sound) {outcome : Outcome} (settled : w.outcome? service generation = some outcome) :
    w'.creation? service generation = w.creation? service generation := by
  rcases affair.attends_or_keeps with ⟨call, c, number, w₁, w₂, _, attends⟩ | keeps
  · by_cases here : service = c.service ∧ generation = number
    · rcases here with ⟨rfl, rfl⟩
      exact (attends.eq_of_settled sound settled).creation? _ _
    · exact (attends.spares sound).creation? here
  · exact keeps service generation

/-- The outcome of a creation does not change. -/
theorem Affair.outcome? {action : Action} (affair : Affair w action w') (sound : w.Sound)
    {outcome : Outcome} (settled : w.outcome? service generation = some outcome) :
    w'.outcome? service generation = some outcome := by
  rcases outcome?_eq_some_iff.mp settled with ⟨creation, member, stage⟩
  refine outcome?_eq_some_iff.mpr ⟨creation, ?_, stage⟩
  rw [affair.creation?_of_settled sound settled, member]

/-- Whoever ends a creation attends it. -/
theorem Affair.attends_of_settles {action : Action} (affair : Affair w action w') (sound : w.Sound)
    {outcome : Outcome} (unsettled : w.outcome? service generation = none)
    (settled : w'.outcome? service generation = some outcome) :
    ∃ (call : Nat) (c : Call) (w₁ w₂ : World), action = .poll call ∧ c.service = service ∧
      Attends call c generation w w₁ w₂ w' := by
  rcases affair.attends_or_keeps with ⟨call, c, number, w₁, w₂, turn, attends⟩ | keeps
  · by_cases here : service = c.service ∧ generation = number
    · rcases here with ⟨rfl, rfl⟩
      exact ⟨call, c, w₁, w₂, turn, rfl, attends⟩
    · rw [(attends.spares sound).outcome? here, unsettled] at settled
      cases settled
  · rcases outcome?_eq_some_iff.mp settled with ⟨creation, member, stage⟩
    rw [keeps] at member
    rw [outcome?_eq_some_iff.mpr ⟨creation, member, stage⟩] at unsettled
    cases unsettled

/-! ## Calls -/

/-- What the turn of a call makes of the call. -/
inductive Verdict (call : Nat) (c : Call) (w w' : World) : CallState → Prop
  /-- The call is over, or its service does not exist. -/
  | unchanged
      (pointless : c.state.isOver = true ∨ c.state = .fresh ∧ w.session? c.service = none)
      (same : w' = w) : Verdict call c w w' c.state
  /-- It is ended from outside. -/
  | aborted (running : c.state.isOver = false) (ends : Ends call .aborted .nothing w w') :
      Verdict call c w w' .aborted
  /-- It is served by the terminal in use. -/
  | served {active : Active} (fresh : c.state = .fresh)
      (ready : w.phase? c.service = some (.ready active))
      (answers : Answers call c (.ok active) w w') : Verdict call c w w' (.finished (.ok ()))
  /-- It is refused by a disposed service. -/
  | refused (fresh : c.state = .fresh) (disposed : w.phase? c.service = some .disposed)
      (answers : Answers call c (.error .terminalDisposed) w w') :
      Verdict call c w w' (.finished (.error .terminalDisposed))
  /-- It goes on waiting for a creation. -/
  | waiting {generation place : Nat} {w₁ w₂ : World}
      (attends : Attends call c generation w w₁ w₂ w')
      (unsettled : w'.outcome? c.service generation = none) :
      Verdict call c w w' (.waiting generation place)
  /-- It is answered with the outcome of a creation. -/
  | answered {generation : Nat} {w₁ w₂ : World} {outcome : Outcome}
      (attends : Attends call c generation w w₁ w₂ w')
      (settled : w'.outcome? c.service generation = some outcome)
      (answers : Answers call c outcome w₂ w') :
      Verdict call c w w' (.finished outcome.result)

theorem Ends.call {call : Nat} {state : CallState} {effect : Effect}
    (ends : Ends call state effect w w') {c : Call} (found : w.calls[call]? = some c) :
    w'.calls[call]? = some { c with state } := by
  rw [ends.calls, List.getElem?_modify, found]
  simp

theorem Ends.others {call : Nat} {state : CallState} {effect : Effect}
    (ends : Ends call state effect w w') {other : Nat} (different : other ≠ call) :
    w'.calls[other]? = w.calls[other]? := by
  rw [ends.calls, List.getElem?_modify]
  simp [different.symm]

/-- A call that arrives at a creation waits for it. -/
theorem Arrives.call {call : Nat} {c : Call} (arrives : Arrives call c generation w w')
    (found : w.calls[call]? = some c) :
    (∃ place, w'.calls[call]? = some { c with state := .waiting generation place }) ∧
      ∀ other, other ≠ call → w'.calls[other]? = w.calls[other]? := by
  have seated {v : World} (calls : v.calls = w.calls) (sits : Sits call generation v w') :
      (∃ place, w'.calls[call]? = some { c with state := .waiting generation place }) ∧
        ∀ other, other ≠ call → w'.calls[other]? = w.calls[other]? := by
    rcases sits.calls with ⟨place, modified⟩
    refine ⟨⟨place, ?_⟩, fun other different => ?_⟩
    · rw [modified, calls, List.getElem?_modify, found]
      simp
    · rw [modified, calls, List.getElem?_modify]
      simp [different.symm]
  cases arrives with
  | @again place waiting =>
      refine ⟨⟨place, ?_⟩, fun _ _ => rfl⟩
      rw [found, ← waiting]
  | joined fresh creating sits => exact seated rfl sits
  | first fresh same begins sits => exact seated begins.calls sits

/-- A call that attends a creation is not over. -/
theorem Attends.running {call : Nat} {c : Call} {w₁ w₂ : World}
    (attends : Attends call c generation w w₁ w₂ w') : c.state.isOver = false := by
  have awaits := attends.awaits
  cases state : c.state with
  | fresh | waiting => rfl
  | finished | aborted => simp [awaited?, state] at awaits

/-- A call that is not to be ended attends the creation that it waits for. -/
theorem Polled.attends {call : Nat} (polled : Polled call w w') {c : Call}
    (found : w.calls[call]? = some c) (wanted : c.cancelled = false)
    (awaits : w.awaited? c = some generation) :
    ∃ w₁ w₂, Attends call c generation w w₁ w₂ w' := by
  cases polled with
  | nothing pointless =>
      rcases pointless c found with settled | ⟨fresh, absent⟩
      · cases state : c.state with
        | fresh | waiting => rw [state] at settled; cases settled
        | finished | aborted => simp [awaited?, state] at awaits
      · simp [awaited?, fresh, phase?, absent] at awaits
  | abandoned found' _ cancelled =>
      rw [found] at found'
      cases found'
      rw [cancelled] at wanted
      cases wanted
  | served found' fresh _ ready =>
      rw [found] at found'
      cases found'
      simp [awaited?, fresh, ready] at awaits
  | refused found' fresh _ disposed =>
      rw [found] at found'
      cases found'
      simp [awaited?, fresh, disposed] at awaits
  | @attended w₁ w₂ _ _ _ found' wanted' awaits' arrives progress attended =>
      rw [found] at found'
      cases found'
      rw [awaits] at awaits'
      cases awaits'
      exact ⟨w₁, w₂, found, wanted, awaits, arrives, progress, attended⟩

/-- There is no turn of a call that there is not. -/
theorem Polled.nothing_of_absent {call : Nat} (polled : Polled call w w')
    (absent : w.calls[call]? = none) : w' = w := by
  cases polled with
  | nothing => rfl
  | abandoned found | served found | refused found | attended found =>
      rw [absent] at found
      cases found

/-- The turn of a call does with the call what its verdict says, and nothing with any other. -/
theorem Polled.verdict {call : Nat} (polled : Polled call w w') {c : Call}
    (found : w.calls[call]? = some c) :
    (∃ state, w'.calls[call]? = some { c with state } ∧ Verdict call c w w' state) ∧
      ∀ other, other ≠ call → w'.calls[other]? = w.calls[other]? := by
  cases polled with
  | nothing pointless =>
      exact ⟨⟨c.state, found, .unchanged (pointless c found) rfl⟩, fun _ _ => rfl⟩
  | abandoned found' running cancelled ends =>
      rw [found] at found'
      cases found'
      exact ⟨⟨_, ends.call found, .aborted running ends⟩, fun _ => ends.others⟩
  | served found' fresh wanted ready answers =>
      rw [found] at found'
      cases found'
      exact ⟨⟨_, answers.call found, .served fresh ready answers⟩, fun _ => answers.others⟩
  | refused found' fresh wanted disposed answers =>
      rw [found] at found'
      cases found'
      exact ⟨⟨_, answers.call found, .refused fresh disposed answers⟩, fun _ => answers.others⟩
  | @attended w₁ w₂ _ _ generation found' wanted awaits arrives progress attended =>
      rw [found] at found'
      cases found'
      have attends : Attends call c generation w w₁ w₂ w' :=
        ⟨found, wanted, awaits, arrives, progress, attended⟩
      rcases arrives.call found with ⟨⟨place, waiting⟩, others⟩
      rw [← progress.confined.calls] at waiting
      have others₂ : ∀ other, other ≠ call → w₂.calls[other]? = w.calls[other]? := by
        intro other different
        rw [progress.confined.calls, others other different]
      cases attended with
      | pending unsettled => exact ⟨⟨_, waiting, .waiting attends unsettled⟩, others₂⟩
      | answered settled answers =>
          have ended := answers.call waiting
          refine ⟨⟨_, ended, .answered attends ?_ answers⟩, ?_⟩
          · rw [answers.sessions.outcome?, settled]
          · intro other different
            rw [answers.others different, others₂ other different]

theorem Polled.others {call : Nat} (polled : Polled call w w') (other : Nat)
    (different : other ≠ call) : w'.calls[other]? = w.calls[other]? := by
  cases found : w.calls[call]? with
  | none => rw [polled.nothing_of_absent found]
  | some c => exact (polled.verdict found).2 other different

/-- A call is what it was, or it just had its turn. -/
theorem Happens.kept {action : Action} (happens : Happens w action w') {call : Nat} {c : Call}
    (found : w.calls[call]? = some c) :
    ∃ c', w'.calls[call]? = some c' ∧ c'.service = c.service ∧ c'.request = c.request ∧
      (c'.state = c.state ∨ action = .poll call ∧ Verdict call c w w' c'.state) := by
  have same (keeps : KeepsCalls w w') :
      ∃ c', w'.calls[call]? = some c' ∧ c'.service = c.service ∧ c'.request = c.request ∧
        (c'.state = c.state ∨ action = .poll call ∧ Verdict call c w w' c'.state) := by
    rcases keeps.kept found with ⟨c', found', service, request, state⟩
    exact ⟨c', found', service, request, Or.inl state⟩
  cases happens with
  | added adds => exact same (.of_eq adds.calls)
  | disposed disposes => exact same (.of_eq disposes.calls)
  | heard _ _ hears => exact same hears.calls
  | unheard => exact same (.of_eq rfl)
  | quiet _ _ quiet => exact same quiet.calls
  | @polled polledCall _ polled =>
      by_cases here : call = polledCall
      · subst here
        rcases polled.verdict found with ⟨⟨state, after, verdict⟩, _⟩
        exact ⟨_, after, rfl, rfl, Or.inr ⟨rfl, verdict⟩⟩
      · refine ⟨c, ?_, rfl, rfl, Or.inl rfl⟩
        rw [polled.others call here, found]

/-- A call that was not there before had no turn yet. -/
theorem Happens.new {action : Action} (happens : Happens w action w') {call : Nat} {c' : Call}
    (found' : w'.calls[call]? = some c') (absent : w.calls[call]? = none) : c'.state = .fresh := by
  cases happens with
  | added adds => exact (KeepsCalls.of_eq adds.calls).new found' absent
  | disposed disposes => exact (KeepsCalls.of_eq disposes.calls).new found' absent
  | heard _ _ hears => exact hears.calls.new found' absent
  | unheard => exact (KeepsCalls.of_eq rfl).new found' absent
  | quiet _ _ quiet => exact quiet.calls.new found' absent
  | @polled polledCall _ polled =>
      by_cases here : call = polledCall
      · subst here
        rw [polled.nothing_of_absent absent, absent] at found'
        cases found'
      · rw [polled.others call here, absent] at found'
        cases found'

/-- Every call was there before or is new. -/
theorem Happens.call {action : Action} (happens : Happens w action w') {call : Nat} {c' : Call}
    (found' : w'.calls[call]? = some c') :
    (w.calls[call]? = none ∧ c'.state = .fresh) ∨
    ∃ c, w.calls[call]? = some c ∧ c'.service = c.service ∧ c'.request = c.request ∧
      (c'.state = c.state ∨ action = .poll call ∧ Verdict call c w w' c'.state) := by
  cases found : w.calls[call]? with
  | none => exact Or.inl ⟨rfl, happens.new found' found⟩
  | some c =>
      rcases happens.kept found with ⟨_, found'', kept⟩
      rw [found'] at found''
      cases found''
      exact Or.inr ⟨c, rfl, kept⟩

/-- A call that is over stays as it is. -/
theorem Happens.calls_of_over {action : Action} (happens : Happens w action w') {call : Nat}
    {c : Call} (found : w.calls[call]? = some c) (settled : c.state.isOver = true) :
    ∃ c', w'.calls[call]? = some c' ∧ c'.service = c.service ∧ c'.request = c.request ∧
      c'.state = c.state := by
  rcases happens.kept found with ⟨c', found', service, request, same | ⟨_, verdict⟩⟩
  · exact ⟨c', found', service, request, same⟩
  · refine ⟨c', found', service, request, ?_⟩
    generalize c'.state = state at verdict
    cases verdict with
    | unchanged => rfl
    | aborted running =>
        rw [settled] at running
        cases running
    | served fresh | refused fresh =>
        rw [fresh] at settled
        cases settled
    | waiting attends | answered attends =>
        rw [attends.running] at settled
        cases settled

end World

/-! ## What can be said of a moment -/

namespace Moment

/-- The service that a call finds without a terminal. -/
def finds? (m : Moment) : Option Nat :=
  m.before.findsIdle? m.action

/-- Whether a service waits for a creation, perhaps since this moment. -/
def Awaits (m : Moment) (service generation : Nat) : Prop :=
  m.before.AwaitsAt m.action service generation

def Settles (m : Moment) (service generation : Nat) (outcome : Outcome) : Prop :=
  m.before.outcome? service generation = none ∧
    m.after.outcome? service generation = some outcome

/-- A creation fails that its service waits for. -/
def Fails (m : Moment) (service generation : Nat) : Prop :=
  m.Awaits service generation ∧ ∃ error, m.Settles service generation (.error error)

/-- A service hears that the terminal of a creation was closed, which it holds. -/
def Loses (m : Moment) (service generation : Nat) : Prop :=
  ∃ terminal, m.before.terminal? service generation = some terminal ∧
    m.HearsClosed service terminal

variable {m : Moment} {service generation : Nat}

theorem Awaits.unsettled (awaits : m.Awaits service generation) (sound : m.before.Sound) :
    m.before.outcome? service generation = none := by
  rcases awaits with current | ⟨finds, rfl⟩
  · exact current.unsettled sound
  · rcases World.findsIdle?_eq_some_iff.mp finds with ⟨_, _, _, _, _, _, _, idle⟩
    rcases World.exists_session_of_phase idle with ⟨s, found, _⟩
    refine World.outcome?_eq_none_iff.mpr fun creation member => ?_
    rw [World.generation_eq found, World.creation?_eq found] at member
    have le := Service.creation?_le member
    rw [(sound.each found).counted] at le
    omega

end Moment

namespace World

/-- The creation that a service waits for is the latest one. -/
theorem Attends.generation {w w' : World} {call number : Nat} {c : Call} {w₁ w₂ : World}
    (attends : Attends call c number w w₁ w₂ w') (sound : w.Sound)
    (awaits : w.AwaitsAt (.poll call) c.service number) : w'.generation c.service = number := by
  have current := (attends.arrives.current_iff attends.found attends.wanted).mpr awaits
  rw [attends.sessions.1.generation, attends.progress.confined.counts]
  exact (current.latest (attends.sound₁ sound)).1.symm

end World
end Terminal
end Workbench
