import Workbench.Json.Reader
import Workbench.Json.Writer

namespace Workbench
namespace Json

/-!
# Strings and numbers there and back

A string is read back as it was written, whatever characters it is made of: each character takes one
step of the reader, however many it is written with.  A whole number is read back if it fits 64
bits; a larger one would come back as a floating-point number.
-/

namespace Reader

/-! ## Strings -/

theorem value?_lowerDigit : ∀ n < 16, Text.Hex.value? (Text.Hex.lowerDigit n) = some n := by
  decide +kernel

/-- A control character is read from its number. -/
theorem unicodeEscape_octet {c : Char} (control : c.toNat < 0x20) (rest : List Char) :
    unicodeEscape ('0' :: '0' :: (Text.Hex.octet c.toNat.toUInt8 ++ rest)) = some (c, rest) := by
  have same : c.toNat.toUInt8.toNat = c.toNat := by
    rw [Nat.toUInt8_eq, UInt8.toNat_ofNat', Nat.mod_eq_of_lt (by omega)]
  have whole : ((0 * 16 + 0) * 16 + c.toNat / 16) * 16 + c.toNat % 16 = c.toNat := by omega
  have high : ¬ (0xD800 ≤ c.toNat ∧ c.toNat ≤ 0xDBFF) := by omega
  have low : ¬ (0xDC00 ≤ c.toNat ∧ c.toNat ≤ 0xDFFF) := by omega
  have unit : hexUnit ('0' :: '0' :: (Text.Hex.octet c.toNat.toUInt8 ++ rest)) =
      some (c.toNat, rest) := by
    have zero : Text.Hex.value? '0' = some 0 := by decide
    simp only [Text.Hex.octet, same, List.cons_append, List.nil_append, hexUnit, zero,
      value?_lowerDigit (c.toNat / 16) (by omega), value?_lowerDigit (c.toNat % 16) (by omega),
      Option.bind_eq_bind, Option.bind_some, whole]
    rfl
  rw [unicodeEscape, unit]
  simp [high, low]

/-- A character is read in one step, however it is written. -/
theorem stringBody_escape_append (fuel : Nat) (read : List Char) (c : Char) (rest : List Char) :
    stringBody (fuel + 1) read (escape c ++ rest) = stringBody fuel (c :: read) rest := by
  by_cases quote : c = '"'
  · subst quote
    rfl
  by_cases backslash : c = '\\'
  · subst backslash
    rfl
  by_cases newline : c = '\n'
  · subst newline
    rfl
  by_cases carriage : c = '\r'
  · subst carriage
    rfl
  by_cases tab : c = '\t'
  · subst tab
    rfl
  by_cases control : c.toNat < 0x20
  · have written : escape c = '\\' :: 'u' :: '0' :: '0' :: Text.Hex.octet c.toNat.toUInt8 := by
      simp [escape, quote, backslash, newline, carriage, tab, control]
    rw [written, stringBody.eq_def]
    simp [unicodeEscape_octet control]
  · have written : escape c = [c] := by
      simp [escape, quote, backslash, newline, carriage, tab, control]
    rw [written, List.singleton_append, stringBody.eq_def]
    simp [quote, backslash, control]

theorem stringBody_flatMap_escape {cs : List Char} {fuel : Nat} (enough : cs.length < fuel)
    (read rest : List Char) :
    stringBody fuel read (cs.flatMap escape ++ '"' :: rest) =
      some (String.ofList (read.reverse ++ cs), rest) := by
  induction cs generalizing fuel read with
  | nil =>
      cases fuel with
      | zero => cases enough
      | succ fuel => simp [stringBody.eq_def]
  | cons c others inductionHypothesis =>
      cases fuel with
      | zero => cases enough
      | succ fuel =>
          rw [List.flatMap_cons, List.append_assoc, stringBody_escape_append,
            inductionHypothesis (Nat.lt_of_succ_lt_succ enough)]
          simp

theorem length_le_flatMap_escape (cs : List Char) : cs.length ≤ (cs.flatMap escape).length := by
  induction cs with
  | nil => exact Nat.le_refl 0
  | cons c others inductionHypothesis =>
      have some : 1 ≤ (escape c).length := by
        unfold escape
        repeat' split
        all_goals simp
      rw [List.flatMap_cons, List.length_append, List.length_cons]
      omega

/-! ## Numbers -/

/-- What may come after a value. -/
def Ended (rest : List Char) : Prop :=
  ∀ c ∈ rest.head?, c = ',' ∨ c = ']' ∨ c = '\x7d'

theorem digit?_digitChar : ∀ n < 10, digit? (Nat.digitChar n) = some n := by
  decide

/-- The values of the digits of a number. -/
def places (n : Nat) : List Nat :=
  (Nat.toDigits 10 n).filterMap digit?

theorem places_of_lt {n : Nat} (small : n < 10) : places n = [n] := by
  rw [places, Nat.toDigits_of_lt_base small]
  simp [digit?_digitChar n small]

theorem places_of_le {n : Nat} (large : 10 ≤ n) : places n = places (n / 10) ++ [n % 10] := by
  rw [places, Nat.toDigits_of_base_le (by decide) large, List.filterMap_append]
  simp [places, digit?_digitChar (n % 10) (Nat.mod_lt n (by decide))]

theorem exists_digitChar_eq {n : Nat} {c : Char} (member : c ∈ Nat.toDigits 10 n) :
    ∃ d < 10, c = Nat.digitChar d := by
  by_cases small : n < 10
  · rw [Nat.toDigits_of_lt_base small, List.mem_singleton] at member
    exact ⟨n, small, member⟩
  · rw [Nat.toDigits_of_base_le (by decide) (by omega), List.mem_append, List.mem_singleton]
      at member
    rcases member with front | rfl
    · exact exists_digitChar_eq front
    · exact ⟨n % 10, Nat.mod_lt n (by decide), rfl⟩
  termination_by n
  decreasing_by omega

/-- There are digits, and no zero in front of a number other than zero. -/
theorem exists_places_eq (n : Nat) : ∃ d rest, places n = d :: rest ∧ (0 < n → d ≠ 0) := by
  by_cases small : n < 10
  · exact ⟨n, [], places_of_lt small, Nat.ne_of_gt⟩
  · rcases exists_places_eq (n / 10) with ⟨d, rest, split, filled⟩
    refine ⟨d, rest ++ [n % 10], ?_, fun _ => filled (by omega)⟩
    rw [places_of_le (by omega), split, List.cons_append]
  termination_by n
  decreasing_by omega

theorem appendDigits_concat {a b d : Nat} {ds : List Nat} (read : appendDigits a ds = (b, 0))
    (fits : b * 10 + d ≤ greatest) : appendDigits a (ds ++ [d]) = (b * 10 + d, 0) := by
  induction ds generalizing a with
  | nil =>
      rw [appendDigits, Prod.mk.injEq] at read
      rw [List.nil_append, appendDigits, read.1, if_pos fits, appendDigits]
  | cons first rest inductionHypothesis =>
      rw [appendDigits] at read
      split at read
      · rename_i fits'
        rw [List.cons_append, appendDigits, if_pos fits']
        exact inductionHypothesis read
      · cases read

theorem appendDigits_places {n : Nat} (fits : n ≤ greatest) :
    appendDigits 0 (places n) = (n, 0) := by
  by_cases small : n < 10
  · rw [places_of_lt small, appendDigits, if_pos (by omega), appendDigits]
    simp
  · have whole : n / 10 * 10 + n % 10 = n := by omega
    have front : appendDigits 0 (places (n / 10)) = (n / 10, 0) := appendDigits_places (by omega)
    rw [places_of_le (by omega), appendDigits_concat front (by omega), whole]
  termination_by n
  decreasing_by omega

theorem digits_append (n : Nat) {rest : List Char} (ended : Ended rest) :
    digits (Nat.toDigits 10 n ++ rest) = (places n, rest) := by
  have shown : ∀ c ∈ Nat.toDigits 10 n, (digit? c).isSome = true := by
    intro c member
    rcases exists_digitChar_eq member with ⟨d, small, rfl⟩
    rw [digit?_digitChar d small]
    rfl
  have stop : rest.takeWhile (fun c => (digit? c).isSome) = [] := by
    cases rest with
    | nil => rfl
    | cons c others =>
        have undigit : (digit? c).isSome = false := by
          rcases ended c rfl with rfl | rfl | rfl <;> decide
        exact List.takeWhile_cons_of_neg (by simp [undigit])
  rw [digits, List.takeWhile_append_of_pos shown, stop, List.append_nil, List.drop_left]
  rfl

/-- The digits of a number that fits 64 bits are read as that number. -/
theorem unsigned_toDigits {n : Nat} (fits : n ≤ greatest) (negative : Bool) {rest : List Char}
    (ended : Ended rest) :
    unsigned negative (Nat.toDigits 10 n ++ rest) =
      some (unsigned.finish negative false n 0 0, rest) := by
  have noZero : ((places n).isEmpty || ((places n).length > 1 && (places n).head? == some 0)) =
      false := by
    rcases exists_places_eq n with ⟨d, others, split, filled⟩
    rw [split]
    by_cases small : n < 10
    · rw [places_of_lt small] at split
      cases split
      simp
    · simp [filled (by omega)]
  rw [unsigned, digits_append n ended]
  simp only [noZero, appendDigits_places fits, Bool.false_eq_true, if_false]
  cases rest with
  | nil => rfl
  | cons c others =>
      rcases ended c rfl with rfl | rfl | rfl <;> rfl

theorem exists_toDigits_eq (n : Nat) :
    ∃ d < 10, ∃ rest, Nat.toDigits 10 n = Nat.digitChar d :: rest := by
  cases split : Nat.toDigits 10 n with
  | nil => exact absurd split (by simp)
  | cons c rest =>
      rcases exists_digitChar_eq (split ▸ List.mem_cons_self) with ⟨d, small, rfl⟩
      exact ⟨d, small, rest, rfl⟩

theorem value_toDigits_append (fuel n : Nat) (rest : List Char) :
    value (fuel + 1) (Nat.toDigits 10 n ++ rest) = unsigned false (Nat.toDigits 10 n ++ rest) := by
  rcases exists_toDigits_eq n with ⟨d, small, others, split⟩
  rw [split]
  rcases (by omega : d = 0 ∨ d = 1 ∨ d = 2 ∨ d = 3 ∨ d = 4 ∨ d = 5 ∨ d = 6 ∨ d = 7 ∨ d = 8 ∨ d = 9)
    with rfl | rfl | rfl | rfl | rfl | rfl | rfl | rfl | rfl | rfl <;> rfl

/-- A whole number that a text can stand for: one that fits 64 bits, of either sign. -/
def Fits (n : Int) : Prop :=
  -(twoTo 63 : Int) ≤ n ∧ n < twoTo 64

theorem describe_ofNat (n : Nat) : (Text.describe (Int.ofNat n)).toList = Nat.toDigits 10 n :=
  String.toList_ofList

theorem describe_negSucc (n : Nat) :
    (Text.describe (Int.negSucc n)).toList = '-' :: Nat.toDigits 10 (n + 1) := by
  have text : Text.describe (Int.negSucc n) = "-" ++ Nat.repr (n + 1) := rfl
  simp [text, Nat.repr]

theorem value_integer_append {n : Int} (fits : Fits n) (fuel : Nat) {rest : List Char}
    (ended : Ended rest) :
    value (fuel + 1) ((Text.describe n).toList ++ rest) = some (.integer n, rest) := by
  rcases fits with ⟨low, high⟩
  cases n with
  | ofNat n =>
      have fits : n ≤ greatest := by
        have bound : n < twoTo 64 := Int.ofNat_lt.mp high
        have scale : twoTo 64 = UInt64.size := rfl
        rw [greatest]
        omega
      rw [describe_ofNat, value_toDigits_append, unsigned_toDigits fits false ended]
      rfl
  | negSucc n =>
      have small : n + 1 ≤ twoTo 63 := by
        rw [Int.negSucc_eq] at low
        omega
      have fits : n + 1 ≤ greatest := Nat.le_trans small (by decide)
      have sign : value (fuel + 1) ('-' :: (Nat.toDigits 10 (n + 1) ++ rest)) =
          unsigned true (Nat.toDigits 10 (n + 1) ++ rest) := rfl
      have whole : unsigned.finish true false (n + 1) 0 0 = .integer (Int.negSucc n) := by
        simp [unsigned.finish, Nat.not_lt.mpr small, Int.negSucc_eq]
      rw [describe_negSucc, List.cons_append, sign, unsigned_toDigits fits true ended, whole]

end Reader
end Json
end Workbench
