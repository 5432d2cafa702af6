import Workbench.Proofs.Terminal.Everyday
import Workbench.Proofs.Terminal.Moments
import Workbench.Proofs.Text.Ends

namespace Workbench
namespace Terminal

/-!
# What terminals are made of

A terminal is asked for with the title of its service and with the shell that the service's helper
comes up with.  A service keeps both for good and no action touches the environment, so what the
host was told of a terminal can be read off the service at any later time, whatever terminals the
service had before and after.  The kind of shell that commands are written for is that of the very
path which the host was told, so the two agree wherever the path comes from.
-/

/-! ## Shells that helpers come up with -/

namespace Helper

/-- The paths that a helper comes up with which looks for one: that of the settings without the
white space around it, else that of the environment as it stands, else that of the platform.  What
is blank or no text does not count. -/
inductive Resolves (override : Option String) (platform : Platform) (env : Environment) :
    String → Prop where
  | override {path : String} (given : override = some path) (filled : Text.trimmed path ≠ "") :
      Resolves override platform env (Text.trimmed path)
  | setting {path : String} (unset : ∀ given ∈ override, Text.trimmed given = "")
      (text : Environment.text? (platform.shellSetting env) = some path)
      (filled : Text.trimmed path ≠ "") : Resolves override platform env path
  | fallback (unset : ∀ given ∈ override, Text.trimmed given = "")
      (useless : ∀ path ∈ Environment.text? (platform.shellSetting env), Text.trimmed path = "") :
      Resolves override platform env platform.fallbackShell

variable {override : Option String} {platform : Platform} {env : Environment}

theorem resolves_defaultShell (unset : ∀ given ∈ override, Text.trimmed given = "") :
    Resolves override platform env (platform.defaultShell env) := by
  unfold Platform.defaultShell
  split
  · rename_i path text
    split
    · rename_i blank
      refine .fallback unset fun other member => ?_
      cases text.symm.trans member
      exact Text.trimmed_eq_empty_iff.mpr blank
    · rename_i filled
      exact .setting unset text (mt Text.trimmed_eq_empty_iff.mp filled)
  · rename_i useless
    refine .fallback unset fun path member => ?_
    cases useless.symm.trans member

theorem resolves (override : Option String) (platform : Platform) (env : Environment) :
    Resolves override platform env ((override? override).getD (platform.defaultShell env)) := by
  cases override with
  | none => exact resolves_defaultShell nofun
  | some path =>
      simp only [override?, Option.map_some, String.isEmpty_iff]
      split
      · rename_i blank
        refine resolves_defaultShell fun given member => ?_
        cases member
        exact blank
      · rename_i filled
        exact .override rfl filled

theorem Resolves.not_blank {path : String} (resolves : Resolves override platform env path) :
    Text.allBlank path = false := by
  cases resolves with
  | override _ filled => exact Text.allBlank_trimmed filled
  | setting _ _ filled => exact Bool.eq_false_iff.mpr (mt Text.trimmed_eq_empty_iff.mpr filled)
  | fallback => cases platform <;> decide +kernel

theorem usablePath?_fixed (path : Option String) (env : Environment) :
    (fixed path).usablePath? env = path.filter fun path => Text.trimmed path ≠ "" := by
  have same : ∀ path, (!Text.allBlank path) = decide (Text.trimmed path ≠ "") := by
    intro path
    simp [Text.trimmed_eq_empty_iff]
  simp only [usablePath?, shellPath?, same]

/-- A helper that looks for a shell never leaves the choice to the host. -/
theorem exists_usablePath?_eq (override : Option String) (platform : Platform)
    (env : Environment) : ∃ path, (resolving override platform).usablePath? env = some path ∧
      Resolves override platform env path := by
  have chosen := resolves override platform env
  refine ⟨_, ?_, chosen⟩
  rw [usablePath?, shellPath?, Option.filter_some, chosen.not_blank]
  rfl

/-- White space around a path goes with the settings and stays with the environment. -/
example : (resolving (some " /bin/zsh ") .linux).usablePath? {} = some "/bin/zsh" ∧
    (resolving (some " ") .linux).usablePath? { shell := some " /bin/zsh".toUTF8.toList } =
      some " /bin/zsh" := by
  decide +kernel

end Helper

/-! ## The environment stays -/

namespace World

variable {w w' : World} {service : Nat}

def SameEnvironment (w w' : World) : Prop :=
  w'.env = w.env

namespace SameEnvironment

theorem sweep (w : World) (service : Nat) : SameEnvironment w (w.sweep service) := by
  unfold World.sweep
  split
  · split <;> rfl
  · rfl

theorem customary : Customary SameEnvironment where
  trans first second := second.trans first
  aside _ _ _ _ env := env
  changes _ _ _ _ := rfl
  calling _ _ _ env := env
  sweep := sweep

theorem dispose (w : World) (service : Nat) : SameEnvironment w (w.dispose service) := by
  unfold World.dispose
  split
  · rfl
  · dsimp only
    split <;> rfl

theorem notify (w : World) (listener : Nat) : SameEnvironment w (w.notify listener) := by
  unfold World.notify
  split
  · rfl
  · dsimp only
    split
    · rfl
    · exact (dispose _ _).trans rfl
    · exact (customary.addCall _ _ _).trans rfl

theorem hearClosed (w : World) (service terminal : Nat) :
    SameEnvironment w (w.hearClosed service terminal) := by
  unfold World.hearClosed
  split
  · rfl
  · split
    · exact List.foldlRecOn (motive := SameEnvironment w) _ _ rfl
        fun v same listener _ => (notify v listener).trans same
    · rfl

theorem perform (w : World) (action : Action) : SameEnvironment w (w.perform action) := by
  cases action with
  | release service => exact (sweep _ _).trans rfl
  | dispose service => exact dispose w service
  | call service request => exact customary.addCall w service request
  | poll call => exact customary.poll w call
  | abort call => exact customary.abort w call
  | close terminal =>
      exact List.foldlRecOn (motive := SameEnvironment w) _ _ rfl
        fun v same service _ => (hearClosed v service terminal).trans same
  | addService | retain | listen | unlisten | failCreation | failActivation | delay | pass
  | arrange => rfl

end SameEnvironment
end World

/-! ## Creations have the makings of their services -/

namespace Service

/-- What the host is told of a terminal for a service. -/
def options (s : Service) (env : Environment) : Options where
  name := s.title
  shellPath := s.helper.usablePath? env

/-- Every creation of a service was begun with the service's title and with its shell. -/
def Tailored (env : Environment) (s : Service) : Prop :=
  ∀ generation creation, s.creation? generation = some creation →
    creation.options = s.options env

namespace Tailored

variable {env : Environment} {s s' : Service} {creation creation' : Creation}

theorem ofNew (title : String) (resource : Option Url) (helper : Helper) :
    Tailored env { title, resource, helper } := by
  intro generation creation found
  cases generation <;> cases found

theorem withPhase (tailored : s.Tailored env) (phase : Phase) :
    Tailored env { s with phase } :=
  tailored

theorem revise (tailored : s.Tailored env) {generation : Nat}
    (revision : Revision s s' generation creation creation') : s'.Tailored env := by
  intro other found member
  rw [options, revision.title, revision.helper]
  by_cases here : other = generation
  · subst here
    cases revision.new.symm.trans member
    exact revision.options.trans (tailored other creation revision.old)
  · rw [revision.others other here] at member
    exact tailored other found member

theorem begun (tailored : s.Tailored env) (sound : s.Sound)
    (told : creation.options = s.options env) : (s.begun creation).Tailored env := by
  intro other found member
  rw [creation?_begun sound.counted] at member
  split at member
  · cases member
    exact told
  · exact tailored other found member

end Tailored
end Service

namespace World

variable {env : Environment} {w w' : World} {service generation : Nat} {s s' : Service}

structure Tailored (env : Environment) (w : World) : Prop where
  each : ∀ {service : Nat} {s : Service}, w.session? service = some s → s.Tailored env

namespace Tailored

theorem same (tailored : w.Tailored env) (same : SameSessions w w') : w'.Tailored env where
  each := fun {service _} found => tailored.each ((same service).symm.trans found)

theorem replace (tailored : w.Tailored env) (replaces : Replaces w w' service s s')
    (new : s'.Tailored env) : w'.Tailored env where
  each := fun {other _} found => by
    by_cases here : other = service
    · subst here
      cases replaces.after.symm.trans found
      exact new
    · rw [replaces.others other here] at found
      exact tailored.each found

theorem begins (tailored : w.Tailored w.env) (sound : w.Sound) {creation : Creation}
    (begins : Begins service w w' s creation) : w'.Tailored w.env :=
  have before := begins.replaces.before
  tailored.replace begins.replaces ((tailored.each before).begun (sound.each before) begins.options)

theorem arrives {call : Nat} {c : Call} (tailored : w.Tailored w.env) (sound : w.Sound)
    (arrives : Arrives call c generation w w') : w'.Tailored w.env := by
  cases arrives with
  | again => exact tailored
  | joined _ _ sits => exact tailored.same sits.sessions
  | first _ _ begins sits => exact (tailored.begins sound begins).same sits.sessions

theorem progress (tailored : w.Tailored env) (progress : Progress service generation w w') :
    w'.Tailored env := by
  induction progress with
  | refl => exact tailored
  | tail _ advances inductionHypothesis =>
      rcases advances with ⟨s, s', _, _, _, replaces, revision, _⟩
      exact inductionHypothesis.replace replaces
        ((inductionHypothesis.each replaces.before).revise revision)

theorem affair {action : Action} (tailored : w.Tailored w.env) (sound : w.Sound)
    (affair : Affair w action w') : w'.Tailored w.env := by
  cases affair with
  | attends _ attends =>
      exact ((tailored.arrives sound attends.arrives).progress attends.progress).same
        attends.sessions.1
  | same _ same => exact tailored.same same
  | @added made title resource helper _ adds =>
      constructor
      intro other t found
      by_cases here : other = made
      · subst here
        cases adds.present.symm.trans found
        exact .ofNew title resource helper
      · rw [adds.others other here] at found
        exact tailored.each found
  | disposed _ disposes =>
      exact tailored.replace disposes.replaces
        ((tailored.each disposes.replaces.before).withPhase .disposed)
  | heard _ _ hears =>
      rcases hears.replaces with ⟨phase, _, replaces⟩
      exact tailored.replace replaces ((tailored.each replaces.before).withPhase phase)

end Tailored
end World

namespace Run

variable (run : Run)

theorem env_world : run.world.env = run.env := by
  induction run using Run.induction with
  | start env => rfl
  | step run action inductionHypothesis =>
      rw [world_step]
      exact (World.SameEnvironment.perform run.world action).trans inductionHypothesis

theorem tailored : run.world.Tailored run.env := by
  induction run using Run.induction with
  | start env =>
      constructor
      intro service s found
      cases found
  | step run action inductionHypothesis =>
      rw [world_step]
      rw [← run.env_world] at inductionHypothesis
      have kept := inductionHypothesis.affair run.sound (run.happens action).affair
      rwa [run.env_world] at kept

/-- The host was told of a terminal what the service calls for, however long ago. -/
theorem options?_of_handed {service : Nat} {s : Service}
    (found : run.world.services[service]? = some s) {terminal : Nat}
    (handed : run.world.Handed service terminal) :
    run.world.options? terminal = some (s.options run.env) := by
  have session := World.session?_eq found
  rcases handed with ⟨generation, given⟩
  rcases World.terminal?_eq_some_iff.mp given with ⟨options, order⟩
  rcases Option.bind_eq_some_iff.mp order with ⟨creation, there, told⟩
  rcases Option.map_eq_some_iff.mp told with ⟨_, _, same⟩
  cases same
  rw [World.creation?_eq session] at there
  rw [run.ledger.told order]
  exact congrArg some (run.tailored.each session generation creation there)

/-- The terminal in use was handed out, and the kind of its shell is that of the path in what the
host was told. -/
theorem shell_of_ready {service : Nat} {s : Service}
    (found : run.world.services[service]? = some s) {active : Active}
    (ready : s.phase = .ready active) :
    run.world.Handed service active.terminal ∧
      active.shell = Shell.identify? (s.options run.env).shellPath := by
  have session := World.session?_eq found
  have sound := run.sound.each session
  rcases sound.ready ready with ⟨creation, there, settled⟩
  rcases (sound.fits there).usable settled with ⟨terminal, _, shell⟩
  have told := run.tailored.each session _ creation there
  refine ⟨⟨s.session.generation, ?_⟩, ?_⟩
  · rw [World.terminal?_eq session, Service.terminal?, there, Option.bind_some, terminal]
  · rw [shell, sound.told there, told]
    rfl

/-- Every terminal was created for a service, with its title and with a shell that its helper comes
up with in this environment.  The path of that shell is left out or it is not blank, and it is never
left out by a helper that looks for one.  While the terminal is in use, its service works with the
kind of shell that this very path stands for. -/
theorem terminals_run_the_shell_they_were_told :
    (∀ terminal < run.world.host.next, ∃ service, run.world.Handed service terminal) ∧
    ∀ service s, run.world.services[service]? = some s →
      (∀ active, s.phase = .ready active → run.world.Handed service active.terminal) ∧
      ∀ terminal, run.world.Handed service terminal → ∃ options,
        run.world.options? terminal = some options ∧ options.name = s.title ∧
        (∀ path ∈ options.shellPath, Text.trimmed path ≠ "") ∧
        (match s.helper with
          | .fixed path => options.shellPath = path.filter fun path => Text.trimmed path ≠ ""
          | .resolving override platform => ∃ path, options.shellPath = some path ∧
              Helper.Resolves override platform run.env path) ∧
        -- A shell that the host chooses is none in particular.
        ∀ active, s.phase = .ready active → active.terminal = terminal →
          s.shellKind? = some ((options.shellPath.map Shell.identify).getD .other) := by
  refine ⟨fun terminal inside => ?_, fun service s found =>
    ⟨fun active ready => (run.shell_of_ready found ready).1, fun terminal handed =>
      ⟨s.options run.env, run.options?_of_handed found handed, rfl, fun path told => ?_, ?_,
        fun active ready _ => ?_⟩⟩⟩
  · rcases run.ledger.covered inside with ⟨service, generation, handed⟩
    exact ⟨service, generation, handed⟩
  · have filled := Helper.usablePath?_not_blank told
    rw [← Bool.not_eq_true, ← Text.trimmed_eq_empty_iff] at filled
    exact filled
  · cases helper : s.helper with
    | fixed path =>
        rw [Service.options, helper]
        exact Helper.usablePath?_fixed path run.env
    | resolving override platform =>
        rcases Helper.exists_usablePath?_eq override platform run.env with ⟨path, told, resolves⟩
        refine ⟨path, ?_, resolves⟩
        rw [Service.options, helper, told]
  · have kind : s.shellKind? = some active.shell := by
      rw [Service.shellKind?, ready, Phase.active?, Option.map_some]
    rw [kind, (run.shell_of_ready found ready).2]
    cases (s.options run.env).shellPath <;> rfl

end Run

end Terminal
end Workbench
