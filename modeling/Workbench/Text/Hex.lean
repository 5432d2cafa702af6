namespace Workbench
namespace Text
namespace Hex

/-!
# Hexadecimal digits

Reading accepts both cases; writing takes the case it is asked for.  Digits of a smaller base are
read like hexadecimal ones, but those that the base does not have are refused.
-/

/-- The value of a hexadecimal digit of either case. -/
def value? (c : Char) : Option Nat :=
  if '0' ≤ c ∧ c ≤ '9' then some (c.toNat - '0'.toNat)
  else if 'a' ≤ c ∧ c ≤ 'f' then some (c.toNat - 'a'.toNat + 10)
  else if 'A' ≤ c ∧ c ≤ 'F' then some (c.toNat - 'A'.toNat + 10)
  else none

/-- The number that digits of a base of at most sixteen stand for; no digits stand for zero. -/
def numeral? (base : Nat) (digits : List Char) : Option Nat :=
  digits.foldlM (fun n c => do
    let d ← value? c
    if d < base then some (n * base + d) else none) 0

/-- The lower-case digit of a value below sixteen. -/
def lowerDigit (n : Nat) : Char :=
  if n < 10 then Char.ofNat ('0'.toNat + n) else Char.ofNat ('a'.toNat + (n - 10))

/-- The upper-case digit of a value below sixteen. -/
def upperDigit (n : Nat) : Char :=
  if n < 10 then Char.ofNat ('0'.toNat + n) else Char.ofNat ('A'.toNat + (n - 10))

/-- The two lower-case digits of an octet. -/
def octet (b : UInt8) : List Char :=
  [lowerDigit (b.toNat / 16), lowerDigit (b.toNat % 16)]

def encode (bytes : List UInt8) : String :=
  String.ofList (bytes.flatMap octet)

/-- The octets that pairs of digits stand for; none if a digit is left over or is not one. -/
def decodeChars : List Char → Option (List UInt8)
  | [] => some []
  | [_] => none
  | a :: b :: rest => do
    let high ← value? a
    let low ← value? b
    let others ← decodeChars rest
    pure (UInt8.ofNat (high * 16 + low) :: others)

def decode? (s : String) : Option (List UInt8) :=
  decodeChars s.toList

/-- The shortest lower-case spelling of a number. -/
def shortest (n : Nat) : List Char :=
  if n < 16 then [lowerDigit n] else shortest (n / 16) ++ [lowerDigit (n % 16)]
  termination_by n
  decreasing_by omega

end Hex
end Text
end Workbench
