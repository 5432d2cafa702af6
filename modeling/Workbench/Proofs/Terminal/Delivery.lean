import Mathlib.Data.List.Infix
import Mathlib.Data.List.Nodup
import Workbench.Proofs.Terminal.Moments

namespace Workbench
namespace Terminal

/-!
# What is sent is sent once

Creations, disposals and closed terminals leave alone what was sent to terminals.  Only a call that
is answered without an error sends something, and then the one text that it asks for, to a terminal
that the host handed out to its service.
-/

/-- What a request sends to a terminal that runs a kind of shell. -/
def Request.text? (shell : Shell.Kind) : Request → Option (String × Bool)
  | .show _ => none
  | .sendText text => some (text, false)
  | .sendCommand command arguments => some (Shell.commandLine shell command arguments, true)

/-- Whether a request sends something. -/
def Request.sends : Request → Bool
  | .show _ => false
  | _ => true

theorem Request.isSome_text? (request : Request) (shell : Shell.Kind) :
    (request.text? shell).isSome = request.sends := by
  cases request <;> rfl

/-- A text is sent right after its terminal was shown. -/
theorem Request.uses_of_text? {request : Request} {shell : Shell.Kind} {text : String × Bool}
    (sent : request.text? shell = some text) :
    request.uses shell = [.shown true, .sent text.1 text.2] := by
  cases request with
  | «show» preserveFocus => cases sent
  | sendText | sendCommand =>
      cases sent
      rfl

namespace World

variable {w w' : World} {service : Nat}

def sentText? : Use → Option (String × Bool)
  | .sent text newLine => some (text, newLine)
  | _ => none

theorem sent_eq_filterMap (w : World) (terminal : Nat) :
    w.sent terminal = (w.uses terminal).filterMap sentText? := by
  rw [sent, uses]
  cases w.host.terminals[terminal]? with
  | none => rfl
  | some record =>
      rw [Option.map_some, Option.map_some, Option.getD_some, Option.getD_some, Record.sent]
      apply List.filterMap_congr
      intro use _
      cases use <;> rfl

theorem filterMap_uses (request : Request) (shell : Shell.Kind) :
    (request.uses shell).filterMap sentText? = (request.text? shell).toList := by
  cases request <;> rfl

/-! ## What sends nothing -/

theorem sent_of_eq (terminals : w'.host.terminals = w.host.terminals) (terminal : Nat) :
    w'.sent terminal = w.sent terminal := by
  rw [sent, sent, terminals]

theorem sent_use {used : Nat} {uses : List Use}
    (terminals : w'.host.terminals = (Effect.use used uses).terminals w.host.terminals)
    (silent : uses.filterMap sentText? = []) (terminal : Nat) :
    w'.sent terminal = w.sent terminal := by
  rw [sent_eq_filterMap, sent_eq_filterMap]
  by_cases here : terminal = used
  · subst here
    by_cases inside : terminal < w.host.next
    · rw [uses_use_self terminals inside, List.filterMap_append, silent, List.append_nil]
    · have absent : w.host.terminals[terminal]? = none :=
        List.getElem?_eq_none (Nat.le_of_not_lt inside)
      rw [World.uses, World.uses, terminals, Effect.terminals, List.getElem?_modify, absent]
      rfl
  · rw [uses_use_of_ne terminals here]

theorem sent_arrival {options : Options} {activation : Option Activation}
    (terminals : w'.host.terminals =
      (Effect.arrival options activation).terminals w.host.terminals) (terminal : Nat) :
    w'.sent terminal = w.sent terminal := by
  rw [sent, sent]
  rcases Nat.lt_trichotomy terminal w.host.next with earlier | rfl | later
  · rw [record_arrival_of_lt terminals earlier]
  · have absent : w.host.terminals[w.host.next]? = none := List.getElem?_eq_none (Nat.le_refl _)
    rw [record_arrival_self terminals, absent]
    cases activation <;> rfl
  · have absent : w.host.terminals[terminal]? = none :=
      List.getElem?_eq_none (Nat.le_of_lt later)
    have absent' : w'.host.terminals[terminal]? = none := by
      refine List.getElem?_eq_none ?_
      have next := next_arrival terminals
      rw [Host.next] at next
      omega
    rw [absent, absent']

theorem Advances.sent {generation : Nat} (advances : Advances service generation w w')
    (terminal : Nat) : w'.sent terminal = w.sent terminal := by
  rcases advances with ⟨s, s', creation, creation', effect, replaces, revision, stretch, affects⟩
  have record := affects.terminals
  cases effect with
  | nothing => exact sent_of_eq record terminal
  | arrival options activation => exact sent_arrival record terminal
  | use used uses =>
      refine sent_use record ?_ terminal
      generalize s'.phase = phase' at stretch
      cases stretch <;> rfl

theorem Progress.sent {generation : Nat} (progress : Progress service generation w w')
    (terminal : Nat) : w'.sent terminal = w.sent terminal := by
  induction progress with
  | refl => rfl
  | tail _ advances inductionHypothesis =>
      rw [advances.sent, inductionHypothesis]

/-- Until a call is answered, its turn sends nothing. -/
theorem Attends.sent {call generation : Nat} {c : Call} {w₁ w₂ : World}
    (attends : Attends call c generation w w₁ w₂ w') (terminal : Nat) :
    w₂.sent terminal = w.sent terminal := by
  rw [Progress.sent attends.progress terminal]
  cases attends.arrives with
  | again => rfl
  | joined _ _ sits => exact sent_of_eq (by rw [sits.host]) terminal
  | first _ _ begins sits =>
      rw [← sent_of_eq begins.terminals terminal]
      exact sent_of_eq (by rw [sits.host]) terminal

/-! ## What is done with a terminal is not undone -/

theorem uses_of_eq (terminals : w'.host.terminals = w.host.terminals) (terminal : Nat) :
    w'.uses terminal = w.uses terminal := by
  rw [World.uses, World.uses, terminals]

theorem uses_grow {effect : Effect}
    (terminals : w'.host.terminals = effect.terminals w.host.terminals) (terminal : Nat) :
    w.uses terminal <+: w'.uses terminal := by
  by_cases inside : terminal < w.host.next
  · cases effect with
    | nothing => rw [uses_of_eq terminals terminal]
    | use used uses =>
        by_cases here : terminal = used
        · subst here
          rw [uses_use_self terminals inside]
          exact List.prefix_append _ _
        · rw [uses_use_of_ne terminals here]
    | arrival options activation =>
        rw [World.uses, World.uses, record_arrival_of_lt terminals inside]
  · have absent : w.host.terminals[terminal]? = none :=
      List.getElem?_eq_none (Nat.le_of_not_lt inside)
    rw [World.uses, absent]
    exact List.nil_prefix

theorem Progress.uses_grow {generation : Nat} (progress : Progress service generation w w')
    (terminal : Nat) : w.uses terminal <+: w'.uses terminal := by
  induction progress with
  | refl => exact List.prefix_rfl
  | tail _ advances inductionHypothesis =>
      rcases advances with ⟨_, _, _, _, effect, _, _, _, affects⟩
      exact inductionHypothesis.trans (World.uses_grow affects.terminals terminal)

theorem Attends.uses_grow {call generation : Nat} {c : Call} {w₁ w₂ : World}
    (attends : Attends call c generation w w₁ w₂ w') (terminal : Nat) :
    w.uses terminal <+: w₂.uses terminal := by
  refine List.IsPrefix.trans ?_ (Progress.uses_grow attends.progress terminal)
  cases attends.arrives with
  | again => exact List.prefix_rfl
  | joined _ _ sits =>
      rw [uses_of_eq (congrArg Host.terminals sits.host) terminal]
  | first _ _ begins sits =>
      have same := (congrArg Host.terminals sits.host).trans begins.terminals
      rw [uses_of_eq same terminal]

/-! ## Answers -/

/-- What the terminal of a creation that ended well is. -/
theorem Ledger.order?_of_ok {closed : Nat → Prop} (ledger : Ledger closed w) (sound : w.Sound)
    {generation : Nat} {active : Active}
    (settled : w.outcome? service generation = some (.ok active)) :
    ∃ options, w.order? service generation = some (active.terminal, options) ∧
      active.shell = Shell.identify? options.shellPath ∧ active.terminal < w.host.next := by
  rcases outcome?_eq_some_iff.mp settled with ⟨creation, member, stage⟩
  rcases Option.bind_eq_some_iff.mp member with ⟨s, found, present⟩
  have healthy := sound.each found
  have handed := (completed_of_ok sound settled).2
  rcases (healthy.fits present).usable stage with ⟨terminal, _, shell⟩
  refine ⟨creation.options, ?_, ?_, ledger.within handed⟩
  · rw [order?, member, Option.bind_some, Creation.order?, terminal, Option.map_some]
  · rw [shell, healthy.told present]

/-- A call that returns without an error in its turn was answered by the terminal of a creation of
its service.  Before that its turn sent nothing. -/
structure Serves (call : Nat) (c : Call) (w w' : World) (v : World) (generation : Nat)
    (active : Active) : Prop where
  found : w.calls[call]? = some c
  running : c.state.isOver = false
  after : w'.calls[call]? = some { c with state := .finished (.ok ()) }
  others : ∀ other, other ≠ call → w'.calls[other]? = w.calls[other]?
  settled : w'.outcome? c.service generation = some (.ok active)
  silent : ∀ terminal, v.sent terminal = w.sent terminal
  earlier : ∀ terminal, w.uses terminal <+: v.uses terminal
  answers : Answers call c (.ok active) v w'

/-- Nothing is sent, and no call returns without an error. -/
structure Silent (w w' : World) : Prop where
  sent : ∀ terminal, w'.sent terminal = w.sent terminal
  calls : ∀ (call : Nat) (c' : Call), w'.calls[call]? = some c' →
    c'.state = .finished (.ok ()) → ∃ c, w.calls[call]? = some c ∧
      c.service = c'.service ∧ c.request = c'.request ∧ c.state = .finished (.ok ())

theorem Answers.silent {call : Nat} {c : Call} {error : Error}
    (answers : Answers call c (.error error) w w') (terminal : Nat) :
    w'.sent terminal = w.sent terminal :=
  sent_of_eq answers.terminals terminal

theorem KeepsCalls.silent (keeps : KeepsCalls w w')
    (sent : ∀ terminal, w'.sent terminal = w.sent terminal) : Silent w w' := by
  refine ⟨sent, fun call c' found' fine => ?_⟩
  cases found : w.calls[call]? with
  | none =>
      have fresh := keeps.new found' found
      rw [fine] at fresh
      cases fresh
  | some c =>
      rcases keeps.kept found with ⟨_, found'', service, request, state⟩
      rw [found'] at found''
      cases found''
      exact ⟨c, rfl, service.symm, request.symm, state.symm.trans fine⟩

/-- A turn that leaves its call with an error, or waiting, is silent. -/
theorem Polled.silent {call : Nat} (polled : Polled call w w') {c : Call} {state : CallState}
    (found : w.calls[call]? = some c) (after : w'.calls[call]? = some { c with state })
    (unfine : state ≠ .finished (.ok ()))
    (sent : ∀ terminal, w'.sent terminal = w.sent terminal) : Silent w w' := by
  refine ⟨sent, fun other c' found' fine => ?_⟩
  by_cases here : other = call
  · subst here
    rw [after] at found'
    cases found'
    exact absurd fine unfine
  · rw [(polled.verdict found).2 other here] at found'
    exact ⟨c', found', rfl, rfl, fine⟩

/-- The turn of a call sends nothing, or the call returns without an error. -/
theorem Polled.serves {call : Nat} (polled : Polled call w w') (sound : w.Sound) {c : Call}
    (found : w.calls[call]? = some c) :
    Silent w w' ∨ ∃ (v : World) (generation : Nat) (active : Active),
      Serves call c w w' v generation active := by
  rcases polled.verdict found with ⟨⟨state, after, verdict⟩, others⟩
  have failed := polled.silent found after
  cases verdict with
  | unchanged _ same =>
      subst same
      exact Or.inl (KeepsCalls.silent (.of_eq rfl) fun _ => rfl)
  | aborted _ ends =>
      refine Or.inl (failed ?_ (sent_of_eq ends.terminals))
      intro fine
      cases fine
  | refused _ _ answers =>
      refine Or.inl (failed ?_ (Answers.silent answers))
      intro fine
      cases fine
  | @served active fresh ready answers =>
      refine Or.inr ⟨w, w.generation c.service, active,
        { found
          running := by rw [fresh]; rfl
          after
          others
          settled := by rw [answers.sessions.outcome?, outcome?_of_ready sound ready]
          silent := fun _ => rfl
          earlier := fun _ => List.prefix_rfl
          answers }⟩
  | @waiting generation _ w₁ w₂ attends unsettled =>
      refine Or.inl (failed ?_ fun terminal => ?_)
      · intro fine
        cases fine
      · rw [← attends.sent terminal]
        cases attends.attended with
        | pending => rfl
        | answered settled answers =>
            rw [answers.sessions.outcome?, settled] at unsettled
            cases unsettled
  | @answered generation w₁ w₂ outcome attends settled answers =>
      cases outcome with
      | error error =>
          refine Or.inl (failed ?_ fun terminal => ?_)
          · intro fine
            cases fine
          · rw [Answers.silent answers, attends.sent]
      | ok active =>
          exact Or.inr ⟨w₂, generation, active, found, attends.running, after, others, settled,
            attends.sent, attends.uses_grow, answers⟩

/-- An action sends nothing, or it is the turn of a call that returns without an error. -/
theorem Happens.serves {action : Action} (happens : Happens w action w') (sound : w.Sound) :
    Silent w w' ∨ ∃ (call : Nat) (c : Call) (v : World) (generation : Nat) (active : Active),
      action = .poll call ∧ Serves call c w w' v generation active := by
  cases happens with
  | added adds => exact Or.inl (KeepsCalls.silent (.of_eq adds.calls) (sent_of_eq adds.terminals))
  | @disposed _ s _ disposes =>
      refine Or.inl (KeepsCalls.silent (.of_eq disposes.calls) fun terminal => ?_)
      have record := disposes.terminals
      cases held : s.phase.held? with
      | none =>
          rw [held] at record
          exact sent_of_eq record terminal
      | some _ =>
          rw [held] at record
          exact sent_use record rfl terminal
  | heard _ _ hears => exact Or.inl (hears.calls.silent (sent_of_eq hears.terminals))
  | unheard => exact Or.inl (KeepsCalls.silent (.of_eq rfl) fun _ => rfl)
  | quiet _ _ quiet => exact Or.inl (quiet.calls.silent (sent_of_eq quiet.terminals))
  | @polled call _ polled =>
      cases found : w.calls[call]? with
      | none =>
          rw [polled.nothing_of_absent found]
          exact Or.inl (KeepsCalls.silent (.of_eq rfl) fun _ => rfl)
      | some c =>
          rcases polled.serves sound found with silent | ⟨v, generation, active, serves⟩
          · exact Or.inl silent
          · exact Or.inr ⟨call, c, v, generation, active, rfl, serves⟩

/-- What a call that is served adds to what was sent. -/
theorem Serves.sent {call generation : Nat} {c : Call} {v : World} {active : Active}
    (serves : Serves call c w w' v generation active) (inside : active.terminal < w'.host.next)
    (terminal : Nat) :
    w'.sent terminal = w.sent terminal ++
      if terminal = active.terminal then (c.request.text? active.shell).toList else [] := by
  have record : w'.host.terminals =
      (Effect.use active.terminal (c.request.uses active.shell)).terminals v.host.terminals :=
    serves.answers.terminals
  rw [next_use record] at inside
  rw [← serves.silent terminal, sent_eq_filterMap, sent_eq_filterMap]
  by_cases here : terminal = active.terminal
  · rw [if_pos here, here, uses_use_self record inside, List.filterMap_append, filterMap_uses]
  · rw [if_neg here, uses_use_of_ne record here, List.append_nil]

end World

/-! ## Deliveries of a run -/

/-- A text that a call sent to a terminal. -/
structure Delivery where
  call : Nat
  terminal : Nat
  text : String × Bool
  deriving DecidableEq, Repr

namespace Run

/-- A call returned without an error, and in its last turn showed a terminal of its service and sent
it the text, formatted for the shell that the host was told to run in that terminal. -/
def Delivers (run : Run) (d : Delivery) : Prop :=
  ∃ c : Call, run.world.calls[d.call]? = some c ∧ c.state = .finished (.ok ()) ∧
    run.world.Handed c.service d.terminal ∧
    (∃ options, run.world.options? d.terminal = some options ∧
      c.request.text? (Shell.identify? options.shellPath) = some d.text) ∧
    ∃ m ∈ run.past, m.action = .poll d.call ∧ ∃ earlier,
      m.before.uses d.terminal <+: earlier ∧
        earlier.filterMap World.sentText? = m.before.sent d.terminal ∧
          m.after.uses d.terminal = earlier ++ [.shown true, .sent d.text.1 d.text.2]

/-- The deliveries of a run in order: one for every call that asks to send something and returned
without an error, and nothing else was sent. -/
structure Deliveries (run : Run) (deliveries : List Delivery) : Prop where
  once : (deliveries.map Delivery.call).Nodup
  calls : ∀ call, call ∈ deliveries.map Delivery.call ↔
    ∃ c, run.world.calls[call]? = some c ∧ c.request.sends = true ∧ c.state = .finished (.ok ())
  each : ∀ d ∈ deliveries, run.Delivers d
  sent : ∀ terminal, run.world.sent terminal =
    (deliveries.filter (·.terminal == terminal)).map Delivery.text

theorem Delivers.step {run : Run} {d : Delivery} (delivers : run.Delivers d) (action : Action) :
    (run.step action).Delivers d := by
  rcases delivers with
    ⟨c, found, fine, ⟨generation, handed⟩, ⟨options, told, text⟩, m, member, turn⟩
  have happens := run.happens action
  rw [← world_step] at happens
  have settled : c.state.isOver = true := by rw [fine]; rfl
  rcases happens.calls_of_over found settled with ⟨c', found', service, request, state⟩
  rcases World.terminal?_eq_some_iff.mp handed with ⟨options', order⟩
  have same : options' = options := by
    rw [run.ledger.told order] at told
    exact Option.some.inj told
  subst same
  refine ⟨c', found', state.trans fine, ⟨generation, ?_⟩, ⟨options', ?_, ?_⟩, m, ?_, turn⟩
  · rw [service]
    exact terminal?_step handed action
  · exact (run.step action).ledger.told (order?_step order action)
  · rw [request]
    exact text
  · rw [past_step]
    exact List.mem_append_left _ member

/-- A call that had returned without an error before has its delivery. -/
theorem Deliveries.mem_of_calls {run : Run} {deliveries : List Delivery}
    (before : run.Deliveries deliveries) {call : Nat} {c' : Call}
    (sends : c'.request.sends = true)
    (earlier : ∃ c, run.world.calls[call]? = some c ∧ c.service = c'.service ∧
      c.request = c'.request ∧ c.state = .finished (.ok ())) :
    call ∈ deliveries.map Delivery.call := by
  rcases earlier with ⟨c, found, _, request, state⟩
  exact (before.calls call).mpr ⟨c, found, by rw [request, sends], state⟩

theorem Deliveries.calls_kept {run : Run} {deliveries : List Delivery}
    (before : run.Deliveries deliveries) (action : Action) {call : Nat}
    (member : call ∈ deliveries.map Delivery.call) :
    ∃ c, (run.step action).world.calls[call]? = some c ∧ c.request.sends = true ∧
      c.state = .finished (.ok ()) := by
  rcases (before.calls call).mp member with ⟨c, found, sends, fine⟩
  have happens := run.happens action
  rw [← world_step] at happens
  have settled : c.state.isOver = true := by rw [fine]; rfl
  rcases happens.calls_of_over found settled with ⟨c', found', _, request, state⟩
  exact ⟨c', found', by rw [request, sends], state.trans fine⟩

/-- An action in which no call returns that asks to send something adds no delivery. -/
theorem Deliveries.skip {run : Run} {deliveries : List Delivery}
    (before : run.Deliveries deliveries) {action : Action}
    (calls : ∀ (call : Nat) (c' : Call), (run.step action).world.calls[call]? = some c' →
      c'.request.sends = true → c'.state = .finished (.ok ()) →
        ∃ c, run.world.calls[call]? = some c ∧ c.service = c'.service ∧
          c.request = c'.request ∧ c.state = .finished (.ok ()))
    (sent : ∀ terminal, (run.step action).world.sent terminal = run.world.sent terminal) :
    (run.step action).Deliveries deliveries where
  once := before.once
  calls := fun call => by
    refine ⟨before.calls_kept action, ?_⟩
    rintro ⟨c', found', sends, fine⟩
    exact before.mem_of_calls sends (calls call c' found' sends fine)
  each := fun d member => (before.each d member).step action
  sent := fun terminal => by rw [sent, before.sent]

/-- A call that is served and asks to send something makes a delivery. -/
theorem delivers_of_serves {run : Run} {action : Action} {call generation : Nat} {c : Call}
    {v : World} {active : Active} (turn : action = .poll call)
    (serves : World.Serves call c run.world (run.step action).world v generation active)
    {text : String × Bool} (sends : c.request.text? active.shell = some text) :
    (run.step action).Delivers ⟨call, active.terminal, text⟩ := by
  have ledger := (run.step action).ledger
  rcases ledger.order?_of_ok (run.step action).sound serves.settled with
    ⟨options, order, shell, inside⟩
  have record : (run.step action).world.host.terminals =
      (Effect.use active.terminal (c.request.uses active.shell)).terminals v.host.terminals :=
    serves.answers.terminals
  rw [World.next_use record] at inside
  have used := World.uses_use_self record inside
  rw [Request.uses_of_text? sends, world_step] at used
  rw [shell] at sends
  refine ⟨_, serves.after, rfl, ⟨generation, World.terminal?_eq_some_iff.mpr ⟨options, order⟩⟩,
    ⟨options, ledger.told order, sends⟩, ⟨run.world, action⟩, ?_, turn, v.uses active.terminal,
    serves.earlier active.terminal, ?_, used⟩
  · rw [past_step]
    exact List.mem_append_right _ (List.mem_singleton_self _)
  · rw [← World.sent_eq_filterMap]
    exact serves.silent active.terminal

/-- A call that is served and asks to send something adds its delivery. -/
theorem Deliveries.concat {run : Run} {deliveries : List Delivery}
    (before : run.Deliveries deliveries) {action : Action} {call generation : Nat} {c : Call}
    {v : World} {active : Active} (turn : action = .poll call)
    (serves : World.Serves call c run.world (run.step action).world v generation active)
    {text : String × Bool} (sends : c.request.text? active.shell = some text) :
    (run.step action).Deliveries (deliveries ++ [⟨call, active.terminal, text⟩]) where
  once := by
    rw [List.map_append, List.nodup_append]
    refine ⟨before.once, List.nodup_singleton _, fun earlier member last same => ?_⟩
    rw [List.map_singleton, List.mem_singleton] at same
    rintro rfl
    rw [same] at member
    -- A call that has its delivery is over, so that it is not served again.
    rcases (before.calls call).mp member with ⟨c', found', _, fine⟩
    rw [serves.found] at found'
    cases found'
    have running := serves.running
    rw [fine] at running
    cases running
  calls := fun other => by
    rw [List.map_append, List.mem_append, List.map_singleton, List.mem_singleton]
    constructor
    · rintro (member | rfl)
      · exact before.calls_kept action member
      · refine ⟨_, serves.after, ?_, rfl⟩
        rw [← c.request.isSome_text? active.shell, sends]
        rfl
    · rintro ⟨c', found', sends', fine⟩
      by_cases here : other = call
      · exact Or.inr here
      · refine Or.inl (before.mem_of_calls sends' ⟨c', ?_, rfl, rfl, fine⟩)
        rw [← serves.others other here, found']
  each := fun d member => by
    rcases List.mem_append.mp member with earlier | last
    · exact (before.each d earlier).step action
    · rw [List.mem_singleton] at last
      subst last
      exact delivers_of_serves turn serves sends
  sent := fun terminal => by
    rcases (run.step action).ledger.order?_of_ok (run.step action).sound serves.settled with
      ⟨_, _, _, inside⟩
    rw [serves.sent inside, sends, before.sent, List.filter_append, List.map_append]
    by_cases here : terminal = active.terminal
    · simp [here]
    · simp [here, Ne.symm here]

theorem exists_deliveries (run : Run) : ∃ deliveries, run.Deliveries deliveries := by
  induction run using Run.induction with
  | start env =>
      refine ⟨[], List.nodup_nil, fun call => ⟨?_, ?_⟩, ?_, fun terminal => rfl⟩
      · intro member
        cases member
      · rintro ⟨c, found, _⟩
        cases found
      · intro d member
        cases member
  | step run action inductionHypothesis =>
      rcases inductionHypothesis with ⟨deliveries, before⟩
      have happens := run.happens action
      rw [← world_step] at happens
      rcases happens.serves run.sound with silent |
        ⟨call, c, v, generation, active, turn, serves⟩
      · refine ⟨deliveries, before.skip ?_ silent.sent⟩
        intro call c' found' _ fine
        exact silent.calls call c' found' fine
      · cases text : c.request.text? active.shell with
        | some text => exact ⟨_, before.concat turn serves text⟩
        | none =>
            have quiet : c.request.sends = false := by
              rw [← c.request.isSome_text? active.shell, text]
              rfl
            refine ⟨deliveries, before.skip ?_ fun terminal => ?_⟩
            · intro other c' found' sends fine
              have different : other ≠ call := by
                rintro rfl
                rw [serves.after] at found'
                cases found'
                rw [quiet] at sends
                cases sends
              rw [serves.others other different] at found'
              exact ⟨c', found', rfl, rfl, fine⟩
            · rcases (run.step action).ledger.order?_of_ok (run.step action).sound
                serves.settled with ⟨_, _, _, inside⟩
              rw [serves.sent inside, text, Option.toList_none, ite_self, List.append_nil]

/-- In every run there is one delivery for every call that asks to send something and returned
without an error.  Such a call sends its text once, to one terminal that the host handed out to its
service, formatted for the shell of that terminal, right after showing it.  All texts that were sent
to terminals are deliveries, in order, and a terminal's texts change in the turn of such a call
only. -/
theorem texts_are_delivered_once (run : Run) :
    (∃ deliveries, run.Deliveries deliveries) ∧
    ∀ m ∈ run.past, ∀ terminal, m.after.sent terminal ≠ m.before.sent terminal →
      ∃ (call : Nat) (c : Call), m.action = .poll call ∧ m.before.calls[call]? = some c ∧
        c.state.isOver = false ∧ c.request.sends = true ∧
          m.after.calls[call]? = some { c with state := .finished (.ok ()) } := by
  refine ⟨run.exists_deliveries, fun m member terminal changed => ?_⟩
  rcases exists_of_mem_past member with ⟨earlier, _, moment, _⟩
  have happens := earlier.happens m.action
  rw [moment] at changed ⊢
  rcases happens.serves earlier.sound with silent | ⟨call, c, v, generation, active, turn, serves⟩
  · exact absurd (silent.sent terminal) changed
  · refine ⟨call, c, turn, serves.found, serves.running, ?_, serves.after⟩
    have ledger := (earlier.step m.action).ledger
    have sound := (earlier.step m.action).sound
    rw [world_step] at ledger sound
    rcases ledger.order?_of_ok sound serves.settled with ⟨_, _, _, inside⟩
    rw [← c.request.isSome_text? active.shell]
    cases text : c.request.text? active.shell with
    | some text' => rfl
    | none =>
        refine absurd ?_ changed
        have sent := serves.sent inside terminal
        rw [text, Option.toList_none, ite_self, List.append_nil] at sent
        exact sent

end Run

end Terminal
end Workbench
