import Workbench.Proofs.Terminal.Treatment

namespace Workbench
namespace Terminal

/-!
# The ledger of terminals

Every terminal of the host was handed out for exactly one creation, and it is held, or it was closed
while it was held, or it was disposed once.  The ledger is kept by every change of a service, and a
service that hears of its closed terminal moves this terminal from one page to another.  Nothing is
handed out or disposed by an action that concerns no service (`actor?`).
-/

namespace World

/-- The service that an action concerns: that of the call which has its turn, or the one that is
disposed. -/
def actor? (w : World) : Action → Option Nat
  | .poll call => (w.calls[call]?).map Call.service
  | .dispose service => some service
  | _ => none

variable {w w' w'' : World} {service : Nat}

/-! ## Changes of one service -/

/-- A creation that begins concerns no terminal. -/
theorem Begins.treats {s : Service} {creation : Creation}
    (begins : Begins service w w' s creation) (sound : w.Sound) : Treats service w w' := by
  have replaces := begins.replaces
  refine .keeps (.of_eq ?_ begins.terminals (by rw [begins.activator]))
    (held?_of_replaces replaces ?_) (disposals_of_eq begins.terminals)
  · intro other number
    rw [order?, order?]
    by_cases here : other = service
    · subst here
      rw [creation?_eq replaces.before, creation?_eq replaces.after,
        Service.creation?_begun (sound.each replaces.before).counted]
      by_cases latest : number = s.generation + 1
      · have absent : s.creation? number = none := by
          cases found : s.creation? number with
          | none => rfl
          | some creation =>
              have le := Service.creation?_le found
              rw [(sound.each replaces.before).counted] at le
              omega
        rw [if_pos latest, absent]
        simp [Creation.order?, begins.unanswered]
      · rw [if_neg latest]
    · rw [creation?, creation?, replaces.others other here]
  · rw [begins.idle]
    rfl

theorem Progress.changes {generation : Nat} (progress : Progress service generation w w')
    (sound : w.Sound) : w'.Sound ∧ Changes service w w' := by
  induction progress with
  | refl => exact ⟨sound, .refl⟩
  | tail _ advances inductionHypothesis =>
      rcases inductionHypothesis with ⟨before, changes⟩
      have after := advances.sound before
      exact ⟨after, changes.tail ⟨advances.treats before, after⟩⟩

theorem Sits.treats {call generation : Nat} (sits : Sits call generation w w') (service : Nat) :
    Treats service w w' :=
  .ofSessions sits.sessions (congrArg Host.terminals sits.host)
    (congrArg Activator.activations sits.activator) service

theorem Arrives.changes {call generation : Nat} {c : Call}
    (arrives : Arrives call c generation w w') (sound : w.Sound) :
    w'.Sound ∧ Changes c.service w w' := by
  cases arrives with
  | again waiting => exact ⟨sound, .refl⟩
  | joined fresh creating sits =>
      have seated := sound.same sits.sessions
      exact ⟨seated, .single ⟨sits.treats _, seated⟩⟩
  | first fresh same begins sits =>
      have begun := begins.sound sound
      have seated := begun.same sits.sessions
      exact ⟨seated, (Relation.ReflTransGen.single ⟨begins.treats sound, begun⟩).tail
        ⟨sits.treats _, seated⟩⟩

theorem Attended.changes {call generation : Nat} {c : Call}
    (attended : Attended call c generation w w') (sound : w.Sound) :
    w'.Sound ∧ Changes c.service w w' := by
  cases attended with
  | pending unsettled => exact ⟨sound, .refl⟩
  | answered settled answers =>
      have after := sound.same answers.sessions
      exact ⟨after, .single ⟨.ofAnswers answers _, after⟩⟩

theorem Polled.changes {call : Nat} (polled : Polled call w w') (sound : w.Sound) :
    w'.Sound ∧ (w' = w ∨ ∃ c, w.calls[call]? = some c ∧ Changes c.service w w') := by
  cases polled with
  | nothing => exact ⟨sound, Or.inl rfl⟩
  | abandoned found running cancelled ends =>
      have after := sound.same ends.sessions
      exact ⟨after, Or.inr ⟨_, found, .single ⟨.ofEnds ends (Or.inl rfl) _, after⟩⟩⟩
  | served found fresh wanted ready answers =>
      have after := sound.same answers.sessions
      exact ⟨after, Or.inr ⟨_, found, .single ⟨.ofAnswers answers _, after⟩⟩⟩
  | refused found fresh wanted disposed answers =>
      have after := sound.same answers.sessions
      exact ⟨after, Or.inr ⟨_, found, .single ⟨.ofAnswers answers _, after⟩⟩⟩
  | attended found wanted awaits arrives progress attended =>
      rcases arrives.changes sound with ⟨sound₁, changes₁⟩
      rcases Progress.changes progress sound₁ with ⟨sound₂, changes₂⟩
      rcases attended.changes sound₂ with ⟨sound₃, changes₃⟩
      exact ⟨sound₃, Or.inr ⟨_, found, (changes₁.trans changes₂).trans changes₃⟩⟩

theorem Adds.sound {title : String} {resource : Option Url} {helper : Helper}
    (adds : Adds title resource helper service w w') (sound : w.Sound) : w'.Sound where
  each := fun {other _} found => by
    by_cases here : other = service
    · subst here
      rw [adds.present] at found
      cases found
      exact .ofNew title resource helper
    · rw [adds.others other here] at found
      exact sound.each found

theorem Adds.treats {title : String} {resource : Option Url} {helper : Helper} {made : Nat}
    (adds : Adds title resource helper made w w') (service : Nat) : Treats service w w' := by
  refine .keeps (.of_eq ?_ adds.terminals adds.activations) ?_ (disposals_of_eq adds.terminals)
  · intro other number
    rw [order?, order?, creation?, creation?]
    by_cases here : other = made
    · subst here
      rw [adds.present, adds.absent]
      cases number <;> rfl
    · rw [adds.others other here]
  · intro other
    rw [held?, held?]
    by_cases here : other = made
    · subst here
      rw [adds.present, adds.absent]
      rfl
    · rw [adds.others other here]

/-- What is handed out does not depend on the phase. -/
theorem order?_of_phase {s : Service} {phase : Phase}
    (replaces : Replaces w w' service s { s with phase }) (other number : Nat) :
    w'.order? other number = w.order? other number := by
  rw [order?, order?]
  by_cases here : other = service
  · subst here
    rw [creation?_eq replaces.before, creation?_eq replaces.after, Service.creation?_withPhase]
  · rw [creation?, creation?, replaces.others other here]

theorem Disposes.treats {s : Service} (disposes : Disposes service w w' s) :
    Treats service w w' := by
  have replaces := disposes.replaces
  have record := disposes.terminals
  have begun := congrArg (List.map Activation.terminal) disposes.activations
  cases held : s.phase.held? with
  | none =>
      rw [held] at record
      refine .keeps (.of_eq (order?_of_phase replaces) record disposes.activations)
        (held?_of_replaces replaces ?_) (disposals_of_eq record)
      rw [held]
      rfl
  | some terminal =>
      rw [held] at record
      rcases disposals_dispose record with ⟨once, others⟩
      exact .releases ⟨order?_of_phase replaces, next_use record, options?_use record, begun⟩
        ((held?_eq replaces.before).trans held) (held?_eq replaces.after) (held?_others replaces)
        once others

theorem Happens.sound {action : Action} (happens : Happens w action w') (sound : w.Sound) :
    w'.Sound := by
  cases happens with
  | polled polled => exact (polled.changes sound).1
  | added adds => exact adds.sound sound
  | disposed disposes =>
      exact sound.replace disposes.replaces (sound.each disposes.replaces.before).disposed
  | heard listening held hears =>
      rcases hears.replaces with ⟨phase, rfl | rfl, replaces⟩
      · exact sound.replace replaces
          ((sound.each replaces.before).closed ((held?_eq replaces.before).symm.trans held))
      · exact sound.replace replaces (sound.each replaces.before).disposed
  | unheard => exact sound
  | quiet _ _ quiet => exact sound.same quiet.sessions

/-- An action of which no service hears a terminal closed is a number of changes of the service that
it concerns. -/
theorem Happens.changes {action : Action} (happens : Happens w action w') (sound : w.Sound)
    (unheard : ∀ terminal, action = .close terminal →
      ∀ service ∈ w.host.closeListeners, w.held? service ≠ some terminal)
    (actor : ∀ other, w.actor? action = some other → other = service) :
    Changes service w w' := by
  have after := happens.sound sound
  cases happens with
  | polled polled =>
      rcases (polled.changes sound).2 with rfl | ⟨c, found, changes⟩
      · exact .refl
      · have concerned : c.service = service := actor _ (by rw [actor?, found, Option.map_some])
        rwa [concerned] at changes
  | added adds => exact .single ⟨adds.treats service, after⟩
  | disposed disposes =>
      have concerned := actor _ rfl
      rw [← concerned]
      exact .single ⟨disposes.treats, after⟩
  | heard listening held hears => exact absurd held (unheard _ rfl _ listening)
  | unheard => exact .refl
  | quiet _ _ quiet => exact .single ⟨.ofQuiet quiet service, after⟩

/-! ## What is handed out stays handed out -/

theorem terminal?_same (same : SameTerminals w w') (service generation : Nat) :
    w'.terminal? service generation = w.terminal? service generation := by
  apply Option.ext
  intro terminal
  rw [terminal?_eq_some_iff, terminal?_eq_some_iff]
  simp only [same.orders]

theorem Treats.order? (treats : Treats service w w') {other generation : Nat}
    {order : Nat × Options} (handed : w.order? other generation = some order) :
    w'.order? other generation = some order := by
  cases treats with
  | keeps same | releases same => rw [same.orders, handed]
  | receives receipt =>
      rw [receipt.orders other generation, handed]
      rintro ⟨rfl, rfl⟩
      rw [receipt.unanswered] at handed
      cases handed

theorem Changes.order? (changes : Changes service w w') {other generation : Nat}
    {order : Nat × Options} (handed : w.order? other generation = some order) :
    w'.order? other generation = some order := by
  induction changes with
  | refl => exact handed
  | tail _ change inductionHypothesis => exact change.1.order? inductionHypothesis

theorem Treats.terminal? (treats : Treats service w w') {other generation terminal : Nat}
    (handed : w.terminal? other generation = some terminal) :
    w'.terminal? other generation = some terminal := by
  rcases terminal?_eq_some_iff.mp handed with ⟨options, order⟩
  exact terminal?_eq_some_iff.mpr ⟨options, treats.order? order⟩

theorem disposals_of_le {terminal : Nat} (beyond : w.host.next ≤ terminal) :
    w.disposals terminal = 0 := by
  have absent : w.host.terminals[terminal]? = none := List.getElem?_eq_none beyond
  rw [disposals, absent]
  rfl

/-- A service disposes no terminals but its own. -/
theorem Treats.disposals (treats : Treats service w w') (sound : w.Sound) (terminal : Nat) :
    w'.disposals terminal = w.disposals terminal ∨
      ∃ generation, w'.terminal? service generation = some terminal := by
  cases treats with
  | keeps same held disposals => exact Or.inl (disposals terminal)
  | @releases released same held _ _ _ disposals =>
      by_cases here : terminal = released
      · subst here
        refine Or.inr ⟨w.generation service, ?_⟩
        rw [terminal?_same same]
        exact sound.held held
      · exact Or.inl (disposals terminal here)
  | @receives generation options receipt =>
      rcases Nat.lt_trichotomy terminal w.host.next with earlier | rfl | later
      · exact Or.inl (receipt.disposals terminal earlier)
      · exact Or.inr ⟨generation, terminal?_eq_some_iff.mpr ⟨options, receipt.handed⟩⟩
      · have next := receipt.next
        refine Or.inl ?_
        rw [disposals_of_le (Nat.le_of_lt later), disposals_of_le (by omega)]

theorem Changes.disposals (changes : Changes service w w') (sound : w.Sound) (terminal : Nat) :
    w'.Sound ∧ (w'.disposals terminal = w.disposals terminal ∨
      ∃ generation, w'.terminal? service generation = some terminal) := by
  induction changes with
  | refl => exact ⟨sound, Or.inl rfl⟩
  | tail _ change inductionHypothesis =>
      rcases inductionHypothesis with ⟨before, kept⟩
      refine ⟨change.2, ?_⟩
      rcases change.1.disposals before terminal with same | owned
      · rcases kept with unchanged | ⟨generation, handed⟩
        · exact Or.inl (same.trans unchanged)
        · exact Or.inr ⟨generation, change.1.terminal? handed⟩
      · exact Or.inr owned

theorem Hears.order? {s : Service} (hears : Hears service w w' s) (other generation : Nat) :
    w'.order? other generation = w.order? other generation := by
  rcases hears.replaces with ⟨phase, _, replaces⟩
  exact order?_of_phase replaces other generation

/-! ## The ledger -/

/-- A terminal is held, or it was closed while it was held, or it was disposed once. -/
def Accounted (held closed : Prop) (disposals : Nat) : Prop :=
  held ∧ ¬ closed ∧ disposals = 0 ∨ ¬ held ∧ closed ∧ disposals = 0 ∨
    ¬ held ∧ ¬ closed ∧ disposals = 1

/-- The ledger of all terminals, given those that were closed while they were held. -/
structure Ledger (closed : Nat → Prop) (w : World) : Prop where
  /-- The host was told of a terminal what the creation says. -/
  told : ∀ {service generation terminal options},
    w.order? service generation = some (terminal, options) → w.options? terminal = some options
  /-- A terminal is handed out once. -/
  distinct : ∀ {service generation other number terminal},
    w.terminal? service generation = some terminal → w.terminal? other number = some terminal →
      service = other ∧ generation = number
  /-- Every terminal is handed out. -/
  covered : ∀ {terminal}, terminal < w.host.next →
    ∃ service generation, w.terminal? service generation = some terminal
  /-- There is one activation in a terminal at most. -/
  activatedOnce : w.activated.Nodup
  /-- Activations happen in terminals that there are. -/
  activatedWithin : ∀ terminal ∈ w.activated, terminal < w.host.next
  /-- Every terminal has its page. -/
  accounted : ∀ {service generation terminal},
    w.terminal? service generation = some terminal →
      Accounted (w.held? service = some terminal) (closed terminal) (w.disposals terminal)
  /-- Only terminals that there are can be closed. -/
  closedWithin : ∀ {terminal}, closed terminal → terminal < w.host.next

namespace Ledger

variable {closed : Nat → Prop}

theorem within (ledger : Ledger closed w) {generation terminal : Nat}
    (handed : w.terminal? service generation = some terminal) : terminal < w.host.next := by
  rcases terminal?_eq_some_iff.mp handed with ⟨options, order⟩
  rcases Option.map_eq_some_iff.mp (ledger.told order) with ⟨record, present, _⟩
  exact (List.getElem?_eq_some_iff.mp present).1

/-- A terminal is held by one service at most. -/
theorem holder (ledger : Ledger closed w) (sound : w.Sound) {other terminal : Nat}
    (held : w.held? service = some terminal) (held' : w.held? other = some terminal) :
    service = other :=
  (ledger.distinct (sound.held held) (sound.held held')).1

/-- No terminal is disposed twice or as well as closed. -/
theorem disposals_le_one (ledger : Ledger closed w) (terminal : Nat) :
    w.disposals terminal ≤ 1 ∧ (closed terminal → w.disposals terminal = 0) := by
  by_cases inside : terminal < w.host.next
  · rcases ledger.covered inside with ⟨service, generation, handed⟩
    rcases ledger.accounted handed with ⟨_, _, none⟩ | ⟨_, _, none⟩ | ⟨_, opened, once⟩
    · exact ⟨by omega, fun _ => none⟩
    · exact ⟨by omega, fun _ => none⟩
    · exact ⟨by omega, fun shut => absurd shut opened⟩
  · have none := disposals_of_le (Nat.le_of_not_lt inside)
    exact ⟨by omega, fun _ => none⟩

/-- If the same terminals were handed out and activated, only the pages matter. -/
theorem same (ledger : Ledger closed w) (same : SameTerminals w w') {closed' : Nat → Prop}
    (accounted : ∀ {service generation terminal},
      w.terminal? service generation = some terminal →
        Accounted (w'.held? service = some terminal) (closed' terminal) (w'.disposals terminal))
    (closedWithin : ∀ {terminal}, closed' terminal → terminal < w.host.next) :
    Ledger closed' w' where
  told := fun order => by
    rw [same.orders] at order
    rw [same.options]
    exact ledger.told order
  distinct := fun handed handed' => by
    rw [terminal?_same same] at handed handed'
    exact ledger.distinct handed handed'
  covered := fun inside => by
    rw [same.next] at inside
    simp only [terminal?_same same]
    exact ledger.covered inside
  activatedOnce := by
    rw [same.activated]
    exact ledger.activatedOnce
  activatedWithin := by
    rw [same.activated, same.next]
    exact ledger.activatedWithin
  accounted := fun handed => by
    rw [terminal?_same same] at handed
    exact accounted handed
  closedWithin := fun shut => by
    rw [same.next]
    exact closedWithin shut

/-- A service that gives up its terminal moves it to another page, and no other terminal. -/
theorem vacates (ledger : Ledger closed w) (sound : w.Sound) {closed' : Nat → Prop} {terminal : Nat}
    (same : SameTerminals w w') (holding : w.held? service = some terminal)
    (released : w'.held? service = none)
    (others : ∀ other, other ≠ service → w'.held? other = w.held? other)
    (page : ¬ closed terminal → w.disposals terminal = 0 →
      closed' terminal ∧ w'.disposals terminal = 0 ∨
        ¬ closed' terminal ∧ w'.disposals terminal = 1)
    (elsewhere : ∀ other, other ≠ terminal →
      (closed' other ↔ closed other) ∧ w'.disposals other = w.disposals other) :
    Ledger closed' w' := by
  have given := sound.held holding
  refine ledger.same same (fun {other number found} handed => ?_) (fun {found} shut => ?_)
  · have before := ledger.accounted handed
    by_cases here : found = terminal
    · subst here
      have owner := (ledger.distinct handed given).1
      subst owner
      have free : ¬ w'.held? other = some found := by
        intro held
        rw [released] at held
        cases held
      rcases before with ⟨_, opened, none⟩ | ⟨notHeld, _⟩ | ⟨notHeld, _⟩
      · exact Or.inr ((page opened none).imp (⟨free, ·⟩) (⟨free, ·⟩))
      · exact absurd holding notHeld
      · exact absurd holding notHeld
    · have held : w'.held? other = some found ↔ w.held? other = some found := by
        by_cases owner : other = service
        · subst owner
          rw [released, holding]
          simp [Ne.symm here]
        · rw [others other owner]
      rw [held, (elsewhere found here).1, (elsewhere found here).2]
      exact before
  · by_cases here : found = terminal
    · rw [here]
      exact ledger.within given
    · exact ledger.closedWithin ((elsewhere found here).1.mp shut)

/-- What is handed out after a receipt is what was received, or was handed out before. -/
theorem handed_cases (ledger : Ledger closed w) {generation : Nat} {options : Options}
    (receipt : Receipt service generation options w w') {other number found : Nat}
    (handed : w'.terminal? other number = some found) :
    other = service ∧ number = generation ∧ found = w.host.next ∨
      w.terminal? other number = some found ∧ found < w.host.next := by
  rcases terminal?_eq_some_iff.mp handed with ⟨told, order⟩
  by_cases here : other = service ∧ number = generation
  · rcases here with ⟨rfl, rfl⟩
    rw [receipt.handed] at order
    cases order
    exact Or.inl ⟨rfl, rfl, rfl⟩
  · rw [receipt.orders other number here] at order
    have earlier := terminal?_eq_some_iff.mpr ⟨told, order⟩
    exact Or.inr ⟨earlier, ledger.within earlier⟩

/-- A terminal that is received is held or was disposed, and nobody else's page changes. -/
theorem accounted_of_receipt (ledger : Ledger closed w) (sound : w.Sound) {generation : Nat}
    {options : Options} (receipt : Receipt service generation options w w')
    {other number found : Nat} (handed : w'.terminal? other number = some found) :
    Accounted (w'.held? other = some found) (closed found) (w'.disposals found) := by
  rcases ledger.handed_cases receipt handed with ⟨rfl, rfl, rfl⟩ | ⟨before, inside⟩
  · have opened : ¬ closed w.host.next := fun shut =>
      absurd (ledger.closedWithin shut) (Nat.lt_irrefl _)
    rcases receipt.fate with ⟨_, holding, none⟩ | ⟨same, once⟩
    · exact Or.inl ⟨holding, opened, none⟩
    · refine Or.inr (Or.inr ⟨fun held => ?_, opened, once⟩)
      rw [same] at held
      exact absurd (ledger.within (sound.held held)) (Nat.lt_irrefl _)
  · have held : w'.held? other = some found ↔ w.held? other = some found := by
      by_cases here : other = service
      · subst here
        rcases receipt.fate with ⟨free, holding, _⟩ | ⟨same, _⟩
        · have different : w.host.next ≠ found := by omega
          rw [free, holding]
          simp [different]
        · rw [same]
      · rw [receipt.others other here]
    rw [held, receipt.disposals found inside]
    exact ledger.accounted before

/-- There is one more terminal in the ledger after a receipt. -/
theorem receives (ledger : Ledger closed w) (sound : w.Sound) {generation : Nat}
    {options : Options} (receipt : Receipt service generation options w w') :
    Ledger closed w' where
  told := fun {other number found options'} order => by
    by_cases here : other = service ∧ number = generation
    · rcases here with ⟨rfl, rfl⟩
      rw [receipt.handed] at order
      cases order
      exact receipt.told
    · rw [receipt.orders other number here] at order
      have inside := ledger.within (terminal?_eq_some_iff.mpr ⟨_, order⟩)
      rw [receipt.options found inside]
      exact ledger.told order
  distinct := fun {other number other' number' found} handed handed' => by
    rcases ledger.handed_cases receipt handed with ⟨rfl, rfl, rfl⟩ | ⟨before, inside⟩
    · rcases ledger.handed_cases receipt handed' with ⟨rfl, rfl, _⟩ | ⟨_, inside'⟩
      · exact ⟨rfl, rfl⟩
      · exact absurd inside' (Nat.lt_irrefl _)
    · rcases ledger.handed_cases receipt handed' with ⟨_, _, rfl⟩ | ⟨before', _⟩
      · exact absurd inside (Nat.lt_irrefl _)
      · exact ledger.distinct before before'
  covered := fun {found} inside => by
    rw [receipt.next] at inside
    rcases Nat.lt_succ_iff_lt_or_eq.mp inside with earlier | rfl
    · rcases ledger.covered earlier with ⟨other, number, handed⟩
      exact ⟨other, number, (Treats.receives receipt).terminal? handed⟩
    · exact ⟨service, generation, terminal?_eq_some_iff.mpr ⟨options, receipt.handed⟩⟩
  activatedOnce := by
    rcases receipt.activated with unchanged | more
    · rw [unchanged]
      exact ledger.activatedOnce
    · rw [more, List.nodup_append]
      refine ⟨ledger.activatedOnce, by simp, fun earlier member other last => ?_⟩
      rw [List.mem_singleton] at last
      exact Nat.ne_of_lt (last ▸ ledger.activatedWithin earlier member)
  activatedWithin := by
    rw [receipt.next]
    intro found member
    rcases receipt.activated with unchanged | more
    · rw [unchanged] at member
      exact Nat.lt_succ_of_lt (ledger.activatedWithin found member)
    · rw [more, List.mem_append, List.mem_singleton] at member
      rcases member with earlier | rfl
      · exact Nat.lt_succ_of_lt (ledger.activatedWithin found earlier)
      · exact Nat.lt_succ_self _
  accounted := ledger.accounted_of_receipt sound receipt
  closedWithin := fun {found} shut => by
    rw [receipt.next]
    exact Nat.lt_succ_of_lt (ledger.closedWithin shut)

/-- The ledger is kept by every change. -/
theorem treats (ledger : Ledger closed w) (sound : w.Sound) (treats : Treats service w w') :
    Ledger closed w' := by
  cases treats with
  | keeps same held disposals =>
      refine ledger.same same (fun handed => ?_) ledger.closedWithin
      rw [held, disposals]
      exact ledger.accounted handed
  | releases same holding released others disposed disposals =>
      refine ledger.vacates sound same holding released others (fun opened none => ?_)
        fun other different => ⟨Iff.rfl, disposals other different⟩
      rw [disposed (ledger.within (sound.held holding)), none]
      exact Or.inr ⟨opened, rfl⟩
  | receives receipt => exact ledger.receives sound receipt

theorem changes (ledger : Ledger closed w) (sound : w.Sound) (changes : Changes service w w') :
    w'.Sound ∧ Ledger closed w' := by
  induction changes with
  | refl => exact ⟨sound, ledger⟩
  | tail _ change inductionHypothesis =>
      exact ⟨change.2, inductionHypothesis.2.treats inductionHypothesis.1 change.1⟩

/-- A service that hears that its terminal was closed puts it on another page. -/
theorem hears (ledger : Ledger closed w) (sound : w.Sound) {terminal : Nat} {s : Service}
    (holding : w.held? service = some terminal) (hears : Hears service w w' s) :
    Ledger (fun other => closed other ∨ other = terminal) w' := by
  rcases hears.replaces with ⟨phase, quiet, replaces⟩
  have released : w'.held? service = none := by
    rw [held?_eq replaces.after]
    rcases quiet with rfl | rfl <;> rfl
  have same : SameTerminals w w' :=
    .of_eq (order?_of_phase replaces) hears.terminals hears.activations
  refine ledger.vacates sound same holding released (held?_others replaces) (fun _ none => ?_)
    fun other different => ⟨?_, disposals_of_eq hears.terminals other⟩
  · exact Or.inl ⟨Or.inr rfl, (disposals_of_eq hears.terminals terminal).trans none⟩
  · simp [different]

end Ledger

end World
end Terminal
end Workbench
