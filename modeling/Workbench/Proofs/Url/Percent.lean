import Workbench.Url.Percent

namespace Workbench
namespace Url
namespace Percent

/-!
# Percent-encoding there and back

What is encoded is ASCII, so its octets are its characters, and decoding them gives back the octets
that were encoded, provided that the percent sign is one of those that are (`decode_encode`).  A
segment of a path is written in characters that a path keeps as they are and that mean nothing in it
(`safe_of_mem_encode`).
-/

open Text (Utf8.encode)

/-- The octet of an ASCII character. -/
def asciiOctet (c : Char) : UInt8 :=
  UInt8.ofNat c.toNat

theorem encode_of_ascii {cs : List Char} (ascii : ∀ c ∈ cs, c.toNat < 128) :
    Utf8.encode cs = cs.map asciiOctet := by
  induction cs with
  | nil => rfl
  | cons c rest inductionHypothesis =>
      have small : c.val.toNat ≤ 127 := Nat.le_of_lt_succ (ascii c List.mem_cons_self)
      have first : String.utf8EncodeChar c = [asciiOctet c] := if_pos small
      have others := inductionHypothesis fun d member => ascii d (List.mem_cons_of_mem c member)
      rw [Utf8.encode] at others ⊢
      rw [List.flatMap_cons, first, others]
      rfl

theorem ofNat_asciiOctet {c : Char} (ascii : c.toNat < 128) :
    Char.ofNat (asciiOctet c).toNat = c := by
  rw [asciiOctet, UInt8.toNat_ofNat', Nat.mod_eq_of_lt (by omega), Char.ofNat_toNat]

/-! ## Decoding -/

theorem value?_upperDigit :
    ∀ n < 16, (Text.Hex.upperDigit n).toNat < 128 ∧
      Text.Hex.value? (Text.Hex.upperDigit n) = some n := by
  decide +kernel

/-- The two digits of an octet are read as that octet. -/
theorem octet?_upperDigits (b : UInt8) :
    octet? (asciiOctet (Text.Hex.upperDigit (b.toNat / 16)))
      (asciiOctet (Text.Hex.upperDigit (b.toNat % 16))) = some b := by
  have bound : b.toNat < 256 := b.toNat_lt
  rcases value?_upperDigit (b.toNat / 16) (by omega) with ⟨ascii, high⟩
  rcases value?_upperDigit (b.toNat % 16) (by omega) with ⟨ascii', low⟩
  have whole : b.toNat / 16 * 16 + b.toNat % 16 = b.toNat := by omega
  rw [octet?, ofNat_asciiOctet ascii, ofNat_asciiOctet ascii', high, low]
  change some (UInt8.ofNat (b.toNat / 16 * 16 + b.toNat % 16)) = some b
  rw [whole, UInt8.ofNat_toNat]

theorem decode_cons_of_ne {b : UInt8} (plain : b ≠ 0x25) (rest : List UInt8) :
    decode (b :: rest) = b :: decode rest := by
  match rest with
  | [] => rfl
  | [_] => rfl
  | _ :: _ :: _ => rw [decode, if_neg plain]

variable {reserved : Reserved}

/-- An octet that stands for itself is printable ASCII. -/
theorem toNat_lt_of_not_encodes {b : UInt8} (plain : encodes reserved b = false) :
    b.toNat < 128 := by
  simp only [encodes, Bool.or_eq_false_iff, decide_eq_false_iff_not] at plain
  have low : ¬ 0x7F ≤ b.toNat := plain.1.2
  omega

theorem ascii_of_mem_octet {b : UInt8} {c : Char} (member : c ∈ octet reserved b) :
    c.toNat < 128 := by
  have bound : b.toNat < 256 := b.toNat_lt
  unfold octet at member
  split at member
  · rw [List.mem_cons, List.mem_cons, List.mem_singleton] at member
    rcases member with rfl | rfl | rfl
    · decide
    · exact (value?_upperDigit _ (by omega)).1
    · exact (value?_upperDigit _ (by omega)).1
  · rename_i plain
    have small := toNat_lt_of_not_encodes (Bool.not_eq_true _ ▸ plain)
    rw [List.mem_singleton] at member
    have named : ∀ n < 128, (Char.ofNat n).toNat < 128 := by decide +kernel
    exact member ▸ named b.toNat small

/-- The octets of an encoded octet are decoded as that octet, whatever comes after them. -/
theorem decode_octet_append (percent : reserved 0x25 = true) (b : UInt8) (rest : List UInt8) :
    decode (Utf8.encode (octet reserved b) ++ rest) = b :: decode rest := by
  rw [encode_of_ascii fun c => ascii_of_mem_octet]
  cases encoded : encodes reserved b with
  | true =>
      rw [octet, if_pos encoded]
      simp only [List.map_cons, List.map_nil, List.cons_append, List.nil_append]
      rw [decode, if_pos (by decide), octet?_upperDigits]
  | false =>
      have small := toNat_lt_of_not_encodes encoded
      have plain : b ≠ 0x25 := by
        rintro rfl
        rw [encodes, percent] at encoded
        simp at encoded
      have same : ∀ n < 128, asciiOctet (Char.ofNat n) = UInt8.ofNat n := by decide +kernel
      rw [octet, if_neg (by simp [encoded])]
      simp only [List.map_cons, List.map_nil, List.singleton_append]
      rw [same b.toNat small, UInt8.ofNat_toNat, decode_cons_of_ne plain]

theorem decode_encode (percent : reserved 0x25 = true) (bytes : List UInt8) :
    decode (Utf8.encode (encode reserved bytes)) = bytes := by
  induction bytes with
  | nil => rfl
  | cons b rest inductionHypothesis =>
      have split : Utf8.encode (encode reserved (b :: rest)) =
          Utf8.encode (octet reserved b) ++ Utf8.encode (encode reserved rest) := by
        simp [encode, Utf8.encode]
      rw [split, decode_octet_append percent, inductionHypothesis]

/-! ## Segments -/

theorem decode_encode_segment (bytes : List UInt8) :
    decode (Utf8.encode (encode segment bytes)) = bytes :=
  decode_encode (by decide) bytes

/-- A character that stands for itself in a path and neither separates its segments nor ends it. -/
structure Safe (c : Char) : Prop where
  printable : 0x20 < c.toNat ∧ c.toNat < 0x7F
  inside : c ∉ ['/', '\\', '?', '#']
  kept : encodes path (asciiOctet c) = false

instance (c : Char) : Decidable (Safe c) :=
  decidable_of_iff
    ((0x20 < c.toNat ∧ c.toNat < 0x7F) ∧ c ∉ ['/', '\\', '?', '#'] ∧
      encodes path (asciiOctet c) = false)
    ⟨fun ⟨printable, inside, kept⟩ => ⟨printable, inside, kept⟩,
      fun ⟨printable, inside, kept⟩ => ⟨printable, inside, kept⟩⟩

theorem safe_of_mem_encode {bytes : List UInt8} {c : Char} (member : c ∈ encode segment bytes) :
    Safe c := by
  have each : ∀ n < 256, (octet segment (UInt8.ofNat n)).all (fun c => decide (Safe c)) = true := by
    decide +kernel
  rcases List.mem_flatMap.mp member with ⟨b, _, inside⟩
  have all := each b.toNat b.toNat_lt
  rw [UInt8.ofNat_toNat] at all
  exact of_decide_eq_true (List.all_eq_true.mp all c inside)

theorem Safe.ascii {c : Char} (safe : Safe c) : c.toNat < 128 :=
  Nat.lt_succ_of_lt safe.printable.2

theorem Safe.ne_slash {c : Char} (safe : Safe c) : c ≠ '/' :=
  fun same => safe.inside (by simp [same])

theorem slash_not_mem_encode (bytes : List UInt8) : '/' ∉ encode segment bytes :=
  fun member => (safe_of_mem_encode member).ne_slash rfl

/-- A safe character is added to a path as it is. -/
theorem Safe.encodeText {c : Char} (safe : Safe c) : encodeText path [c] = [c] := by
  have ascii : ∀ d ∈ [c], d.toNat < 128 := by simpa using safe.ascii
  rw [Percent.encodeText, encode_of_ascii ascii]
  simp [encode, octet, safe.kept, ofNat_asciiOctet safe.ascii]

end Percent
end Url
end Workbench
