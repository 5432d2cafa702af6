import Workbench.Proofs.Json.Layers
import Workbench.Proofs.Json.RoundTrip
import Workbench.Proofs.Text.Ends
import Workbench.Settings.Json

namespace Workbench

/-!
# Settings over their defaults

Data for settings may leave out sections and fields of sections.  What is read from it is what was
written, over the defaults of everything else, and each section stands over its own defaults: what
is left out of one says nothing about another.
-/

namespace Json

theorem legible_natural (n : UInt64) : Legible (natural n.toNat) := by
  have scale : twoTo 63 = 2 ^ 63 ∧ twoTo 64 = 2 ^ 64 := ⟨rfl, rfl⟩
  have bound := n.toNat_lt
  exact .integer ⟨by omega, by omega⟩

theorem legible_ofText? (text? : Option String) : Legible (ofText? text?) := by
  cases text? with
  | none => exact .null
  | some text => exact .string text

end Json

open Json (Excerpt Layered Legible pick pick_congr pick_cons pick_nil pick_other)

/-! ## Sections -/

namespace TerminalSettings

/-- The chosen fields of one section over the fields of another. -/
def overlay (upper : TerminalSettings) (chosen : List String) (lower : TerminalSettings) :
    TerminalSettings where
  title := pick chosen "title" upper.title lower.title
  shellPath := pick chosen "shell_path" upper.shellPath lower.shellPath
  maxTerminals := pick chosen "max_terminals" upper.maxTerminals lower.maxTerminals

theorem layered (upper : TerminalSettings) :
    Layered shape assign upper.toJson.Has upper.overlay where
  nil lower := by simp only [overlay, pick_nil]
  cons name chosen lower := by
    rw [overlay, mk.injEq]
    exact ⟨pick_cons .., pick_cons .., pick_cons ..⟩
  congr chosen others same lower := by
    rw [overlay, overlay, mk.injEq]
    refine ⟨pick_congr ?_ .., pick_congr ?_ .., pick_congr ?_ ..⟩
    all_goals exact same _ (by decide)
  assign name value written lower := by
    unfold assign
    split
    · obtain rfl : Json.string upper.title = value := Option.some.inj (written (by decide))
      rfl
    · obtain rfl : Json.ofText? upper.shellPath = value := Option.some.inj (written (by decide))
      rw [Json.toOption_ofText?]
      rfl
    · obtain rfl : Json.natural upper.maxTerminals.toNat = value :=
        Option.some.inj (written (by decide))
      rw [Json.toUInt64_natural]
      rfl
    · rename_i title shellPath maxTerminals
      rw [overlay, pick_other title, pick_other shellPath, pick_other maxTerminals]
      rfl

end TerminalSettings

namespace LintingSettings

/-- The chosen fields of one section over the fields of another. -/
def overlay (upper : LintingSettings) (chosen : List String) (lower : LintingSettings) :
    LintingSettings where
  languageId := pick chosen "language_id" upper.languageId lower.languageId
  configSection := pick chosen "config_section" upper.configSection lower.configSection
  startupDelay := pick chosen "startup_delay_ms" upper.startupDelay lower.startupDelay
  rescanDelay := pick chosen "config_rescan_delay_ms" upper.rescanDelay lower.rescanDelay
  runStartupPass := pick chosen "run_startup_pass" upper.runStartupPass lower.runStartupPass

theorem layered (upper : LintingSettings) :
    Layered shape assign upper.toJson.Has upper.overlay where
  nil lower := by simp only [overlay, pick_nil]
  cons name chosen lower := by
    rw [overlay, mk.injEq]
    exact ⟨pick_cons .., pick_cons .., pick_cons .., pick_cons .., pick_cons ..⟩
  congr chosen others same lower := by
    rw [overlay, overlay, mk.injEq]
    refine ⟨pick_congr ?_ .., pick_congr ?_ .., pick_congr ?_ .., pick_congr ?_ ..,
      pick_congr ?_ ..⟩
    all_goals exact same _ (by decide)
  assign name value written lower := by
    unfold assign
    split
    · obtain rfl : Json.string upper.languageId = value := Option.some.inj (written (by decide))
      rfl
    · obtain rfl : Json.string upper.configSection = value :=
        Option.some.inj (written (by decide))
      rfl
    · obtain rfl : Json.natural upper.startupDelay.toNat = value :=
        Option.some.inj (written (by decide))
      rw [Json.toUInt64_natural]
      rfl
    · obtain rfl : Json.natural upper.rescanDelay.toNat = value :=
        Option.some.inj (written (by decide))
      rw [Json.toUInt64_natural]
      rfl
    · obtain rfl : Json.bool upper.runStartupPass = value := Option.some.inj (written (by decide))
      rfl
    · rename_i languageId configSection startupDelay rescanDelay runStartupPass
      rw [overlay, pick_other languageId, pick_other configSection, pick_other startupDelay,
        pick_other rescanDelay, pick_other runStartupPass]
      rfl

end LintingSettings

namespace LoggingSettings

/-- The chosen fields of one section over the fields of another. -/
def overlay (upper : LoggingSettings) (chosen : List String) (lower : LoggingSettings) :
    LoggingSettings where
  level := pick chosen "level" upper.level lower.level

theorem layered (upper : LoggingSettings) :
    Layered shape assign upper.toJson.Has upper.overlay where
  nil lower := by simp only [overlay, pick_nil]
  cons name chosen lower := by
    rw [overlay, mk.injEq]
    exact pick_cons ..
  congr chosen others same lower := by
    rw [overlay, overlay, mk.injEq]
    exact pick_congr (same _ (by decide)) ..
  assign name value written lower := by
    unfold assign
    split
    · obtain rfl : Json.string upper.level = value := Option.some.inj (written (by decide))
      rfl
    · rename_i level
      rw [overlay, pick_other level]
      rfl

end LoggingSettings

/-! ## All of them -/

namespace Settings

/-- Which sections are written, and which fields of each of them. -/
structure Choice where
  sections : List String
  fields : String → List String

/-- What a section is written as: the chosen ones of its fields. -/
inductive Written (s : Settings) (fields : String → List String) : String → Json → Prop where
  | terminal {value : Json}
      (excerpt : Excerpt TerminalSettings.shape s.terminal.toJson.Has (fields "terminal") value) :
      Written s fields "terminal" value
  | linting {value : Json}
      (excerpt : Excerpt LintingSettings.shape s.linting.toJson.Has (fields "linting") value) :
      Written s fields "linting" value
  | logging {value : Json}
      (excerpt : Excerpt LoggingSettings.shape s.logging.toJson.Has (fields "logging") value) :
      Written s fields "logging" value

/-- The chosen sections over those of other settings.  The fields of a chosen section that are not
chosen themselves have their defaults. -/
def overlay (upper : Settings) (fields : String → List String) (chosen : List String)
    (lower : Settings) : Settings where
  terminal := pick chosen "terminal" (upper.terminal.overlay (fields "terminal") {}) lower.terminal
  linting := pick chosen "linting" (upper.linting.overlay (fields "linting") {}) lower.linting
  logging := pick chosen "logging" (upper.logging.overlay (fields "logging") {}) lower.logging

theorem layered (upper : Settings) (fields : String → List String) :
    Layered shape assign (upper.Written fields) (upper.overlay fields) where
  nil lower := by simp only [overlay, pick_nil]
  cons name chosen lower := by
    rw [overlay, mk.injEq]
    exact ⟨pick_cons .., pick_cons .., pick_cons ..⟩
  congr chosen others same lower := by
    rw [overlay, overlay, mk.injEq]
    refine ⟨pick_congr ?_ .., pick_congr ?_ .., pick_congr ?_ ..⟩
    all_goals exact same _ (by decide)
  assign name value written lower := by
    by_cases known : name ∈ shape.fields
    · cases written known with
      | terminal excerpt =>
          have read : TerminalSettings.ofJson value = .ok _ :=
            upper.terminal.layered.toDefaulted_eq excerpt {}
          rw [assign, read]
          rfl
      | linting excerpt =>
          have read : LintingSettings.ofJson value = .ok _ :=
            upper.linting.layered.toDefaulted_eq excerpt {}
          rw [assign, read]
          rfl
      | logging excerpt =>
          have read : LoggingSettings.ofJson value = .ok _ :=
            upper.logging.layered.toDefaulted_eq excerpt {}
          rw [assign, read]
          rfl
    · unfold assign
      split
      iterate 3 exact absurd (by decide) known
      rename_i terminal linting logging
      rw [overlay, pick_other terminal, pick_other linting, pick_other logging]
      rfl

/-- The chosen fields of settings over the defaults. -/
def chosen (s : Settings) (choice : Choice) : Settings :=
  s.overlay choice.fields choice.sections {}

/-- Whether data writes the chosen fields of settings and no others.  It may hold anything else
under names that are not theirs. -/
def Writes (s : Settings) (choice : Choice) (json : Json) : Prop :=
  Excerpt shape (s.Written choice.fields) choice.sections json

theorem ofJson_of_writes {s : Settings} {choice : Choice} {json : Json}
    (writes : s.Writes choice json) : ofJson json = .ok (s.chosen choice) :=
  (s.layered choice.fields).toDefaulted_eq writes {}

/-! ## Settings in full -/

/-- Every field of every section. -/
def Choice.all : Choice where
  sections := shape.fields
  fields _ := TerminalSettings.shape.fields ++ LintingSettings.shape.fields ++
    LoggingSettings.shape.fields

theorem writes_all (s : Settings) : s.Writes .all s.toJson := by
  have terminal : s.Written Choice.all.fields "terminal" s.terminal.toJson :=
    .terminal (.whole rfl (fun _ => Json.has_of_mem (by simp)) (by decide))
  have linting : s.Written Choice.all.fields "linting" s.linting.toJson :=
    .linting (.whole rfl (fun _ => Json.has_of_mem (by simp)) (by decide))
  have logging : s.Written Choice.all.fields "logging" s.logging.toJson :=
    .logging (.whole rfl (fun _ => Json.has_of_mem (by simp)) (by decide))
  exact .whole rfl (by simp [terminal, linting, logging]) (by decide)

theorem ofJson_toJson (s : Settings) : ofJson s.toJson = .ok s :=
  ofJson_of_writes s.writes_all

theorem legible_toJson (s : Settings) : Legible s.toJson := by
  have terminal : Legible s.terminal.toJson :=
    .object (by simp [Legible.string, Json.legible_natural, Json.legible_ofText?]) (by simp)
  have linting : Legible s.linting.toJson :=
    .object (by simp [Legible.string, Legible.bool, Json.legible_natural]) (by simp)
  have logging : Legible s.logging.toJson :=
    .object (by simp [Legible.string]) (by simp)
  exact .object (by simp [terminal, linting, logging]) (by simp)

/-! ## Conditions -/

/-- The conditions that settings have to meet. -/
structure Acceptable (s : Settings) : Prop where
  title : Text.trimmed s.terminal.title ≠ ""
  maxTerminals : s.terminal.maxTerminals ≠ 0
  languageId : Text.trimmed s.linting.languageId ≠ ""
  configSection : Text.trimmed s.linting.configSection ≠ ""
  level : ∃ level ∈ ["trace", "debug", "info", "warn", "error"],
    Text.sameAscii s.logging.level level = true

/-- A level is known exactly if it is one of the levels up to case. -/
theorem lowered_mem_levels_iff {level : String} :
    Text.lowered level ∈ LoggingSettings.levels ↔
      ∃ known ∈ LoggingSettings.levels, Text.sameAscii level known = true := by
  have low : ∀ known ∈ LoggingSettings.levels, Text.lowered known = known := by decide +kernel
  constructor
  · intro member
    refine ⟨_, member, Text.lowered_eq_iff.mp ?_⟩
    exact (low _ member).symm
  · rintro ⟨known, member, same⟩
    rw [Text.lowered_eq_iff.mpr same, low known member]
    exact member

theorem fault?_eq_none_iff {s : Settings} : s.fault? = none ↔ s.Acceptable := by
  have conditions : s.fault? = none ↔
      ¬ Text.allBlank s.terminal.title = true ∧ s.terminal.maxTerminals ≠ 0 ∧
        ¬ Text.allBlank s.linting.languageId = true ∧
        ¬ Text.allBlank s.linting.configSection = true ∧
        Text.lowered s.logging.level ∈ LoggingSettings.levels := by
    unfold fault? LoggingSettings.fault?
    repeat' split
    all_goals simp [*]
  rw [conditions, lowered_mem_levels_iff]
  simp only [← Text.trimmed_eq_empty_iff]
  constructor
  · rintro ⟨title, maxTerminals, languageId, configSection, level⟩
    exact ⟨title, maxTerminals, languageId, configSection, level⟩
  · rintro ⟨title, maxTerminals, languageId, configSection, level⟩
    exact ⟨title, maxTerminals, languageId, configSection, level⟩

/-- Settings are accepted, as they are, exactly if they meet the conditions. -/
theorem validated_eq_ok_iff {s : Settings} : s.validated = .ok s ↔ s.Acceptable := by
  rw [← fault?_eq_none_iff, validated]
  cases s.fault? with
  | none => simp
  | some fault => simp

/-! ## What is read -/

/-- Whatever part of settings is written, in whatever order, with whatever else among it, and with
arrays or objects for the sections and the whole: what is read agrees with the settings on what is
written and with the defaults on everything else.  It is accepted exactly if the conditions hold of
that. -/
theorem settings_lie_over_defaults (s : Settings) (choice : Choice) {json : Json}
    (writes : s.Writes choice json) :
    ofJson json = .ok (s.chosen choice) ∧
    ((s.chosen choice).validated = .ok (s.chosen choice) ↔ (s.chosen choice).Acceptable) ∧
    -- The first fields in an array are as good as an object of them, whatever their values.
    (∀ items : List Json,
      (items.length ≤ TerminalSettings.shape.fields.length →
        TerminalSettings.ofJson (.array items) =
          TerminalSettings.ofJson (.object (TerminalSettings.shape.fields.zip items))) ∧
      (items.length ≤ LintingSettings.shape.fields.length →
        LintingSettings.ofJson (.array items) =
          LintingSettings.ofJson (.object (LintingSettings.shape.fields.zip items))) ∧
      (items.length ≤ LoggingSettings.shape.fields.length →
        LoggingSettings.ofJson (.array items) =
          LoggingSettings.ofJson (.object (LoggingSettings.shape.fields.zip items))) ∧
      (items.length ≤ shape.fields.length →
        ofJson (.array items) = ofJson (.object (shape.fields.zip items)))) ∧
    -- All of it there and back, through the text as well.
    ofJson s.toJson = .ok s ∧ Json.read? s.toJson.write = some s.toJson := by
  refine ⟨ofJson_of_writes writes, validated_eq_ok_iff, fun items => ⟨?_, ?_, ?_, ?_⟩,
    s.ofJson_toJson, Json.read?_write s.legible_toJson⟩
  · exact fun few => by rw [TerminalSettings.ofJson, Json.toDefaulted_array few]
  · exact fun few => by rw [LintingSettings.ofJson, Json.toDefaulted_array few]
  · exact fun few => by rw [LoggingSettings.ofJson, Json.toDefaulted_array few]
  · exact fun few => by rw [ofJson, Json.toDefaulted_array few]

/-- Two sections in part, one of them as an array, under shuffled and unknown names. -/
theorem settings_in_part_lie_over_defaults :
    let s : Settings :=
      { terminal := { title := "Shell", shellPath := some "/bin/zsh", maxTerminals := 4 }
        linting := { languageId := "ruby", startupDelay := 5 }
        logging := { level := "DEBUG" } }
    let choice : Choice :=
      { sections := ["terminal", "linting"]
        fields := fun name => if name = "terminal" then ["title", "max_terminals"]
          else ["language_id"] }
    let json : Json :=
      .object [("linting", .array [.string "ruby"]), ("theme", .array [.null]),
        ("terminal", .object [("max_terminals", .integer 4), ("level", .string "warn"),
          ("title", .string "Shell")])]
    s.Writes choice json ∧
      ofJson json = .ok { terminal := { title := "Shell", maxTerminals := 4 }
                          linting := { languageId := "ruby" } } := by
  intro s choice json
  have linting : s.Written choice.fields "linting" (.array [.string "ruby"]) := by
    refine .linting (.array (by decide) ⟨by decide, ?_⟩)
    intro entry member _
    obtain rfl := List.mem_singleton.mp member
    rfl
  have terminal : s.Written choice.fields "terminal" (.object [("max_terminals", .integer 4),
      ("level", .string "warn"), ("title", .string "Shell")]) := by
    refine .terminal (.object ⟨by decide, ?_⟩)
    simp only [List.forall_mem_cons]
    exact ⟨fun _ => rfl, fun known => absurd known (by decide), fun _ => rfl, by simp⟩
  have writes : s.Writes choice json := by
    refine .object ⟨by decide, ?_⟩
    simp only [List.forall_mem_cons]
    exact ⟨fun _ => linting, fun known => absurd known (by decide), fun _ => terminal, by simp⟩
  exact ⟨writes, (settings_lie_over_defaults s choice writes).1⟩

end Settings
end Workbench
