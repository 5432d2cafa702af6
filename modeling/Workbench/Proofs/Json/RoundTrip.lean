import Workbench.Proofs.Json.Leaves
import Workbench.Text.Split

namespace Workbench
namespace Json

/-!
# JSON there and back

A value without floating-point numbers is read back from its own text (`read?_write`): its whole
numbers fit 64 bits, and the fields of an object have different names, since of two fields with one
name only the later would be kept.  No space is written between the parts, so what comes after a
part is what ends it.
-/

open Reader (Ended Fits stringBody)

/-- A value that can be read back from its text. -/
inductive Legible : Json → Prop where
  | null : Legible .null
  | bool (b : Bool) : Legible (.bool b)
  | integer {n : Int} (fits : Fits n) : Legible (.integer n)
  | string (s : String) : Legible (.string s)
  | array {items : List Json} (each : ∀ item ∈ items, Legible item) : Legible (.array items)
  | object {fields : List (String × Json)} (each : ∀ field ∈ fields, Legible field.2)
      (distinct : (fields.map Prod.fst).Nodup) : Legible (.object fields)

/-! ## Texts -/

/-- The text of a value. -/
def chars (json : Json) : List Char :=
  json.write.toList

/-- The text of a string between its quotes, and the quotes. -/
def stringChars (s : String) : List Char :=
  '"' :: (s.toList.flatMap escape ++ ['"'])

/-- The text of a field of an object. -/
def fieldChars (field : String × Json) : List Char :=
  stringChars field.1 ++ ':' :: chars field.2

theorem toList_writeString (s : String) : (writeString s).toList = stringChars s := by
  rw [writeString, String.toList_ofList]
  rfl

theorem chars_array (items : List Json) :
    chars (.array items) = '[' :: ([','].intercalate (items.map chars) ++ [']']) := by
  have texts : writeItems items = items.map write := by
    induction items with
    | nil => rfl
    | cons item rest inductionHypothesis => rw [writeItems, inductionHypothesis, List.map_cons]
  rw [chars, write, texts]
  simp only [String.toList_append, String.toList_intercalate, List.map_map]
  rfl

theorem chars_object (fields : List (String × Json)) :
    chars (.object fields) = '\x7b' :: ([','].intercalate (fields.map fieldChars) ++ ['\x7d']) := by
  have texts : (writeFields fields).map String.toList = fields.map fieldChars := by
    induction fields with
    | nil => rfl
    | cons field rest inductionHypothesis =>
        rw [writeFields, List.map_cons, inductionHypothesis, List.map_cons]
        simp [fieldChars, chars, toList_writeString]
  rw [chars, write]
  simp only [String.toList_append, String.toList_intercalate, texts]
  rfl

/-! ## Strings, arrays and objects -/

/-- A value whose text is read as that value, whatever ends it. -/
def Reads (json : Json) : Prop :=
  ∀ {fuel : Nat} {rest : List Char}, (chars json).length < fuel → Ended rest →
    Reader.value fuel (chars json ++ rest) = some (json, rest)

/-- A character that starts a value: it is not passed over, and it ends no array. -/
def Starts (c : Char) : Prop :=
  (c == ' ' || c == '\n' || c == '\r' || c == '\t') = false ∧ c ≠ ']'

theorem skip_cons_of_starts {c : Char} (starts : Starts c) (rest : List Char) :
    Reader.skip (c :: rest) = c :: rest :=
  List.dropWhile_cons_of_neg (by rw [starts.1]; decide)

theorem ended_cons {c : Char} (ends : c = ',' ∨ c = ']' ∨ c = '\x7d') (rest : List Char) :
    Ended (c :: rest) := by
  rintro d ⟨⟩
  exact ends

theorem stringBody_chars {s : String} {fuel : Nat} (enough : (stringChars s).length ≤ fuel + 1)
    (rest : List Char) :
    stringBody fuel [] (s.toList.flatMap escape ++ '"' :: rest) = some (s, rest) := by
  have short := Reader.length_le_flatMap_escape s.toList
  have inside : s.toList.length < fuel := by
    simp only [stringChars, List.length_cons, List.length_append, List.length_nil] at enough
    omega
  rw [Reader.stringBody_flatMap_escape inside]
  simp

theorem exists_chars_eq {json : Json} (legible : Legible json) :
    ∃ c rest, chars json = c :: rest ∧ Starts c := by
  cases legible with
  | null => exact ⟨'n', _, rfl, by decide, by decide⟩
  | bool b => cases b <;> exact ⟨_, _, rfl, by decide, by decide⟩
  | string s => exact ⟨'"', _, toList_writeString s, by decide, by decide⟩
  | array each => exact ⟨'[', _, chars_array _, by decide, by decide⟩
  | object each distinct => exact ⟨'\x7b', _, chars_object _, by decide, by decide⟩
  | @integer n fits =>
      cases n with
      | ofNat n =>
          have digits : ∀ d < 10, (Nat.digitChar d == ' ' || Nat.digitChar d == '\n' ||
              Nat.digitChar d == '\r' || Nat.digitChar d == '\t') = false ∧
              Nat.digitChar d ≠ ']' := by
            decide
          rcases Reader.exists_toDigits_eq n with ⟨d, small, rest, split⟩
          exact ⟨_, rest, (Reader.describe_ofNat n).trans split, digits d small⟩
      | negSucc n => exact ⟨'-', _, Reader.describe_negSucc n, by decide, by decide⟩

theorem items_intercalate {items : List Json} (filled : items ≠ [])
    (read : ∀ item ∈ items, Reads item) {fuel : Nat}
    (enough : ([','].intercalate (items.map chars)).length + 1 < fuel)
    (before : List Json) (rest : List Char) :
    Reader.items fuel ([','].intercalate (items.map chars) ++ ']' :: rest) before =
      some (.array (before.reverse ++ items), rest) := by
  induction items generalizing fuel before with
  | nil => exact absurd rfl filled
  | cons item others inductionHypothesis =>
      have first : Reads item := read item List.mem_cons_self
      cases fuel with
      | zero => cases enough
      | succ fuel =>
          cases others with
          | nil =>
              rw [List.map_singleton, List.intercalate_singleton] at enough ⊢
              have whole := first (Nat.lt_of_succ_lt_succ enough)
                (ended_cons (Or.inr (Or.inl rfl)) rest)
              rw [Reader.items.eq_def]
              simp [whole, Reader.skip]
          | cons next more =>
              have joined : [','].intercalate ((item :: next :: more).map chars) =
                  chars item ++ ',' :: [','].intercalate ((next :: more).map chars) :=
                Text.intercalate_cons ',' _ (by simp)
              rw [joined, List.length_append, List.length_cons] at enough
              have here := first (by omega : (chars item).length < fuel)
                (ended_cons (Or.inl rfl)
                  ([','].intercalate ((next :: more).map chars) ++ ']' :: rest))
              have later := inductionHypothesis (by simp)
                (fun item member => read item (List.mem_cons_of_mem _ member))
                (by omega : ([','].intercalate ((next :: more).map chars)).length + 1 < fuel)
                (item :: before)
              rw [joined, List.append_assoc, List.cons_append, Reader.items.eq_def]
              simp only [here, Option.bind_eq_bind, Option.bind_some]
              change Reader.items fuel _ (item :: before) = _
              rw [later]
              simp

theorem setField_of_not_mem {name : String} {fields : List (String × Json)}
    (fresh : name ∉ fields.map Prod.fst) (value : Json) :
    setField name value fields = fields ++ [(name, value)] := by
  induction fields with
  | nil => rfl
  | cons field rest inductionHypothesis =>
      rw [List.map_cons, List.mem_cons, not_or] at fresh
      rw [setField, if_neg (Ne.symm fresh.1), inductionHypothesis fresh.2, List.cons_append]

/-- A field is read up to what ends its value. -/
theorem fields_fieldChars_append {name : String} {item : Json} (read : Reads item) {fuel : Nat}
    (enough : (fieldChars (name, item)).length < fuel + 1) (before : List (String × Json))
    {rest : List Char} (ended : Ended rest) :
    Reader.fields (fuel + 1) (fieldChars (name, item) ++ rest) before =
      match Reader.skip rest with
      | ',' :: rest => Reader.fields fuel rest (setField name item before)
      | '\x7d' :: rest => some (.object (setField name item before), rest)
      | _ => none := by
  simp only [fieldChars, List.length_append, List.length_cons] at enough
  have label := stringBody_chars (by omega : (stringChars name).length ≤ fuel + 1 + 1)
    (':' :: (chars item ++ rest))
  have here := read (by omega : (chars item).length < fuel) ended
  have text : fieldChars (name, item) ++ rest =
      '"' :: (name.toList.flatMap escape ++ '"' :: ':' :: (chars item ++ rest)) := by
    simp [fieldChars, stringChars]
  have start : Reader.skip ('"' :: (name.toList.flatMap escape ++
      '"' :: ':' :: (chars item ++ rest))) =
      '"' :: (name.toList.flatMap escape ++ '"' :: ':' :: (chars item ++ rest)) := rfl
  have colon : Reader.skip (':' :: (chars item ++ rest)) = ':' :: (chars item ++ rest) := rfl
  rw [text, Reader.fields.eq_def]
  simp only [start, label, colon, here, Option.bind_eq_bind, Option.bind_some]
  rfl

theorem fields_intercalate {fields : List (String × Json)} (filled : fields ≠ [])
    (read : ∀ field ∈ fields, Reads field.2) {fuel : Nat}
    (enough : ([','].intercalate (fields.map fieldChars)).length + 1 < fuel)
    {before : List (String × Json)} (distinct : ((before ++ fields).map Prod.fst).Nodup)
    (rest : List Char) :
    Reader.fields fuel ([','].intercalate (fields.map fieldChars) ++ '\x7d' :: rest) before =
      some (.object (before ++ fields), rest) := by
  induction fields generalizing fuel before with
  | nil => exact absurd rfl filled
  | cons field others inductionHypothesis =>
      rcases field with ⟨name, item⟩
      have first : Reads item := read (name, item) List.mem_cons_self
      have fresh : name ∉ before.map Prod.fst := by
        rw [List.map_append, List.map_cons] at distinct
        exact fun member => (List.nodup_append.mp distinct).2.2 name member name
          List.mem_cons_self rfl
      cases fuel with
      | zero => cases enough
      | succ fuel =>
          cases others with
          | nil =>
              rw [List.map_singleton, List.intercalate_singleton] at enough ⊢
              have whole := fields_fieldChars_append first (Nat.lt_of_succ_lt enough) before
                (ended_cons (Or.inr (Or.inr rfl)) rest)
              rw [whole, setField_of_not_mem fresh]
              rfl
          | cons next more =>
              have joined : [','].intercalate (((name, item) :: next :: more).map fieldChars) =
                  fieldChars (name, item) ++
                    ',' :: [','].intercalate ((next :: more).map fieldChars) :=
                Text.intercalate_cons ',' _ (by simp)
              rw [joined, List.length_append, List.length_cons] at enough
              have here := fields_fieldChars_append first
                (by omega : (fieldChars (name, item)).length < fuel + 1) before
                (ended_cons (Or.inl rfl)
                  ([','].intercalate ((next :: more).map fieldChars) ++ '\x7d' :: rest))
              have distinct' :
                  ((before ++ [(name, item)] ++ (next :: more)).map Prod.fst).Nodup := by
                rwa [List.append_assoc, List.singleton_append]
              have later := inductionHypothesis (by simp)
                (fun field member => read field (List.mem_cons_of_mem _ member))
                (by omega : ([','].intercalate ((next :: more).map fieldChars)).length + 1 < fuel)
                distinct'
              rw [joined, List.append_assoc, List.cons_append, here, setField_of_not_mem fresh]
              change Reader.fields fuel _ (before ++ [(name, item)]) = _
              rw [later, List.append_assoc, List.singleton_append]

/-! ## Whole values -/

theorem reads_string (s : String) : Reads (.string s) := by
  intro fuel rest enough ended
  have text : chars (.string s) = stringChars s := toList_writeString s
  rw [text] at enough ⊢
  cases fuel with
  | zero => cases enough
  | succ fuel =>
      have body := stringBody_chars (by omega : (stringChars s).length ≤ fuel + 1 + 1) rest
      have start : stringChars s ++ rest = '"' :: (s.toList.flatMap escape ++ '"' :: rest) := by
        simp [stringChars]
      have unpassed : Reader.skip ('"' :: (s.toList.flatMap escape ++ '"' :: rest)) =
          '"' :: (s.toList.flatMap escape ++ '"' :: rest) := rfl
      rw [start, Reader.value.eq_def]
      simp only [unpassed, body, Option.map_some]

theorem reads_array {items : List Json} (legible : ∀ item ∈ items, Legible item)
    (read : ∀ item ∈ items, Reads item) : Reads (.array items) := by
  intro fuel rest enough ended
  rw [chars_array] at enough ⊢
  simp only [List.length_cons, List.length_append, List.length_nil] at enough
  cases fuel with
  | zero => cases enough
  | succ fuel =>
      cases items with
      | nil => rfl
      | cons item others =>
          have whole := items_intercalate (by simp) read
            (by omega : ([','].intercalate ((item :: others).map chars)).length + 1 < fuel) [] rest
          rcases exists_chars_eq (legible item List.mem_cons_self) with ⟨c, text, split, starts⟩
          rw [List.map_cons, split, List.intercalate_cons_cons_left] at whole ⊢
          generalize [','].intercalate (text :: others.map chars) = later at whole ⊢
          have unpassed : Reader.skip ('[' :: (c :: later ++ ']' :: rest)) =
              '[' :: (c :: later ++ ']' :: rest) := rfl
          have first : Reader.skip (c :: later ++ ']' :: rest) = c :: later ++ ']' :: rest :=
            skip_cons_of_starts starts _
          have text : '[' :: (c :: later ++ [']']) ++ rest =
              '[' :: (c :: later ++ ']' :: rest) := by
            simp
          rw [text, Reader.value.eq_def]
          simp only [unpassed, first]
          split
          · rename_i same
            exact absurd (List.cons.inj same).1 starts.2
          · exact whole

theorem reads_object {fields : List (String × Json)} (read : ∀ field ∈ fields, Reads field.2)
    (distinct : (fields.map Prod.fst).Nodup) : Reads (.object fields) := by
  intro fuel rest enough ended
  rw [chars_object] at enough ⊢
  simp only [List.length_cons, List.length_append, List.length_nil] at enough
  cases fuel with
  | zero => cases enough
  | succ fuel =>
      cases fields with
      | nil => rfl
      | cons field others =>
          have distinct' : (([] ++ field :: others).map Prod.fst).Nodup := distinct
          have whole := fields_intercalate (by simp) read
            (by omega : ([','].intercalate ((field :: others).map fieldChars)).length + 1 < fuel)
            distinct' rest
          have start : fieldChars field =
              '"' :: (field.1.toList.flatMap escape ++ ['"'] ++ ':' :: chars field.2) := rfl
          rw [List.map_cons, start, List.intercalate_cons_cons_left] at whole ⊢
          generalize [','].intercalate (_ :: others.map fieldChars) = later at whole ⊢
          have text : '\x7b' :: ('"' :: later ++ ['\x7d']) ++ rest =
              '\x7b' :: ('"' :: later ++ '\x7d' :: rest) := by
            simp
          rw [text]
          exact whole

/-- Whatever is legible is read back from its text, whatever ends it. -/
theorem reads_of_legible {json : Json} (legible : Legible json) : Reads json := by
  induction legible with
  | null =>
      intro fuel rest enough ended
      cases fuel with
      | zero => cases enough
      | succ fuel => rfl
  | bool b =>
      intro fuel rest enough ended
      cases fuel with
      | zero => cases enough
      | succ fuel => cases b <;> rfl
  | integer fits =>
      intro fuel rest enough ended
      cases fuel with
      | zero => cases enough
      | succ fuel => exact Reader.value_integer_append fits fuel ended
  | string s => exact reads_string s
  | array each read => exact reads_array each read
  | object each distinct read => exact reads_object read distinct

/-- A value without floating-point numbers is read back from its own text. -/
theorem read?_write {json : Json} (legible : Legible json) : read? json.write = some json := by
  have ended : Ended [] := by
    rintro c ⟨⟩
  have length : (chars json).length = json.write.length := String.length_toList
  have whole := reads_of_legible legible
    (by omega : (chars json).length < 2 * json.write.length + 2) ended
  rw [List.append_nil] at whole
  rw [read?, ← chars, whole]
  rfl

end Json
end Workbench
