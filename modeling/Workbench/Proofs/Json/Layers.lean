import Workbench.Json.Decode

namespace Workbench
namespace Json

/-!
# Records over their defaults

A record may be written in part.  What is read is then one layer over another: the fields that are
written, over the defaults of the others.  The order in which the fields are written does not
matter, since each of them sets only itself, and what is not a field sets nothing.
-/

open Decode (Mismatch Shape)

/-! ## Values of fields -/

theorem toUInt64_natural (called : String) (n : UInt64) :
    toUInt64 called (natural n.toNat) = .ok n := by
  have bounds : (0 : Int) ≤ n.toNat ∧ (n.toNat : Int) < UInt64.size :=
    ⟨Int.natCast_nonneg _, Int.ofNat_lt.mpr n.toNat_lt⟩
  rw [natural, toUInt64, if_pos bounds, Int.toNat_natCast, UInt64.ofNat_toNat]

theorem toOption_ofText? (text? : Option String) :
    toOption toText (ofText? text?) = .ok text? := by
  cases text? <;> rfl

/-! ## Layers -/

/-- The upper of two values if the name is among those chosen, and else the lower one. -/
def pick {β : Type} (chosen : List String) (name : String) (upper lower : β) : β :=
  if name ∈ chosen then upper else lower

section Pick

variable {β : Type} {chosen others : List String} {name : String}

theorem pick_of_mem (member : name ∈ chosen) (upper lower : β) :
    pick chosen name upper lower = upper :=
  if_pos member

theorem pick_of_not_mem (missing : name ∉ chosen) (upper lower : β) :
    pick chosen name upper lower = lower :=
  if_neg missing

theorem pick_nil (name : String) (upper lower : β) : pick [] name upper lower = lower :=
  pick_of_not_mem List.not_mem_nil upper lower

theorem pick_other {other : String} (ne : other ≠ name) (upper lower : β) :
    pick [other] name upper lower = lower :=
  pick_of_not_mem (fun member => ne (List.mem_singleton.mp member).symm) upper lower

/-- Names are chosen one after another. -/
theorem pick_cons (first : String) (chosen : List String) (name : String) (upper lower : β) :
    pick (first :: chosen) name upper lower =
      pick chosen name upper (pick [first] name upper lower) := by
  by_cases later : name ∈ chosen
  · rw [pick_of_mem (List.mem_cons_of_mem first later), pick_of_mem later]
  · rw [pick_of_not_mem later]
    simp only [pick, List.mem_cons, later, List.not_mem_nil, or_false]

theorem pick_congr (same : name ∈ chosen ↔ name ∈ others) (upper lower : β) :
    pick chosen name upper lower = pick others name upper lower := by
  simp only [pick, same]

end Pick

/-- Whether an object has a field of a certain value. -/
def Has (object : Json) (name : String) (value : Json) : Prop :=
  object.field? name = some value

/-- Entries that write the chosen fields of a record, in any order and among others that are not its
fields. -/
structure Shows (shape : Shape) (written : String → Json → Prop) (chosen : List String)
    (entries : List (String × Json)) : Prop where
  names : ∀ name ∈ shape.fields, name ∈ entries.map Prod.fst ↔ name ∈ chosen
  values : ∀ entry ∈ entries, entry.1 ∈ shape.fields → written entry.1 entry.2

/-- A value that writes the chosen fields of a record: as an object, or as an array of its first
fields. -/
inductive Excerpt (shape : Shape) (written : String → Json → Prop) (chosen : List String) :
    Json → Prop where
  | object {entries : List (String × Json)} (shown : Shows shape written chosen entries) :
      Excerpt shape written chosen (.object entries)
  | array {items : List Json} (few : items.length ≤ shape.fields.length)
      (shown : Shows shape written chosen (shape.fields.zip items)) :
      Excerpt shape written chosen (.array items)

/-- An object of all fields writes all of them. -/
theorem Excerpt.whole {shape : Shape} {written : String → Json → Prop} {chosen : List String}
    {entries : List (String × Json)} (names : entries.map Prod.fst = shape.fields)
    (values : ∀ entry ∈ entries, written entry.1 entry.2)
    (all : ∀ name ∈ shape.fields, name ∈ chosen) :
    Excerpt shape written chosen (.object entries) := by
  refine .object ⟨fun name field => ?_, fun entry member _ => values entry member⟩
  rw [names]
  exact iff_of_true field (all name field)

/-- An object of different names has every one of its fields. -/
theorem has_of_mem {entries : List (String × Json)} (distinct : (entries.map Prod.fst).Nodup)
    {name : String} {value : Json} (member : (name, value) ∈ entries) :
    Has (.object entries) name value := by
  induction entries with
  | nil => cases member
  | cons entry rest inductionHypothesis =>
      rcases entry with ⟨first, other⟩
      have fresh : first ∉ rest.map Prod.fst := (List.nodup_cons.mp distinct).1
      rw [Has, field?, List.lookup_cons]
      rcases List.mem_cons.mp member with same | later
      · cases same
        simp
      · have ne : name ≠ first := by
          rintro rfl
          exact fresh (List.mem_map.mpr ⟨_, later, rfl⟩)
        rw [beq_false_of_ne ne]
        exact inductionHypothesis (List.nodup_cons.mp distinct).2 later

section Decoding

variable {α : Type} {shape : Shape} {assign : α → String → Json → Except Mismatch α}
  {written : String → Json → Prop} {overlay : List String → α → α}

/-- A few values in an array are as good as an object that names them. -/
theorem toDefaulted_array {items : List Json} (few : items.length ≤ shape.fields.length)
    (start : α) :
    toDefaulted shape assign start (.array items) =
      toDefaulted shape assign start (.object (shape.fields.zip items)) := by
  simp only [toDefaulted, if_neg (Nat.not_lt.mpr few)]
  exact bind_pure _

/-- An overlay of records that the reader of their fields follows: a field that is written puts
itself on top, and nothing else. -/
structure Layered (shape : Shape) (assign : α → String → Json → Except Mismatch α)
    (written : String → Json → Prop) (overlay : List String → α → α) : Prop where
  nil : ∀ lower, overlay [] lower = lower
  cons : ∀ name chosen lower,
    overlay (name :: chosen) lower = overlay chosen (overlay [name] lower)
  /-- Only the names of fields matter. -/
  congr : ∀ chosen others, (∀ name ∈ shape.fields, name ∈ chosen ↔ name ∈ others) →
    ∀ lower, overlay chosen lower = overlay others lower
  assign : ∀ name value, (name ∈ shape.fields → written name value) →
    ∀ lower, assign lower name value = .ok (overlay [name] lower)

namespace Layered

theorem assignAll_eq (layered : Layered shape assign written overlay)
    {entries : List (String × Json)}
    (values : ∀ entry ∈ entries, entry.1 ∈ shape.fields → written entry.1 entry.2) (lower : α) :
    assignAll assign lower entries = .ok (overlay (entries.map Prod.fst) lower) := by
  induction entries generalizing lower with
  | nil => exact congrArg Except.ok (layered.nil lower).symm
  | cons entry rest inductionHypothesis =>
      rcases entry with ⟨name, value⟩
      have first : assign lower name value = .ok (overlay [name] lower) :=
        layered.assign name value (values (name, value) List.mem_cons_self) lower
      have later : assignAll assign (overlay [name] lower) rest =
          .ok (overlay (rest.map Prod.fst) (overlay [name] lower)) :=
        inductionHypothesis (fun entry member => values entry (List.mem_cons_of_mem _ member)) _
      rw [List.map_cons, layered.cons, ← later]
      simp only [assignAll, List.foldlM_cons, first]
      rfl

theorem assignAll_of_shows (layered : Layered shape assign written overlay) {chosen : List String}
    {entries : List (String × Json)} (shown : Shows shape written chosen entries) (lower : α) :
    assignAll assign lower entries = .ok (overlay chosen lower) := by
  rw [layered.assignAll_eq shown.values, layered.congr _ _ shown.names]

/-- What is written in part is read as the chosen fields over the defaults. -/
theorem toDefaulted_eq (layered : Layered shape assign written overlay) {chosen : List String}
    {json : Json} (excerpt : Excerpt shape written chosen json) (lower : α) :
    toDefaulted shape assign lower json = .ok (overlay chosen lower) := by
  cases excerpt with
  | object shown => exact layered.assignAll_of_shows shown lower
  | array few shown =>
      rw [toDefaulted_array few]
      exact layered.assignAll_of_shows shown lower

end Layered
end Decoding
end Json
end Workbench
