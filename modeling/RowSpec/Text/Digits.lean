/-!
# Digits

* `digits n`      the decimal digits of a number;
* `padded w n`    the same, filled with zeros on the left to `w` characters;
* `hexByte b`     a byte as two lower-case hexadecimal digits;
* `readNat?`      the number of a non-empty run of decimal digits.
-/

namespace RowSpec

def digits (n : Nat) : List Char := Nat.toDigits 10 n

def padded (w n : Nat) : List Char := (digits n).leftpad w '0'

def hexByte (b : UInt8) : List Char :=
  [Nat.digitChar (b.toNat / 16), Nat.digitChar (b.toNat % 16)]

/-- value of a decimal digit -/
def digitValue? (c : Char) : Option Nat :=
  if '0' ≤ c ∧ c ≤ '9' then some (c.toNat - '0'.toNat) else none

/-- value of a hexadecimal digit of either case -/
def hexValue? (c : Char) : Option Nat :=
  if '0' ≤ c ∧ c ≤ '9' then some (c.toNat - '0'.toNat)
  else if 'a' ≤ c ∧ c ≤ 'f' then some (c.toNat - 'a'.toNat + 10)
  else if 'A' ≤ c ∧ c ≤ 'F' then some (c.toNat - 'A'.toNat + 10)
  else none

/-- Digits read after the number `acc`. -/
def readDigits (acc : Nat) : List Char → Option Nat
  | [] => some acc
  | c :: rest => do readDigits (10 * acc + (← digitValue? c)) rest

def readNat? (s : List Char) : Option Nat :=
  if s.isEmpty then none else readDigits 0 s

theorem digits_length_pos (n : Nat) : 0 < (digits n).length := Nat.length_toDigits_pos

theorem length_padded (w n : Nat) : (padded w n).length = max w (digits n).length := by
  simp only [padded, List.length_leftpad]

theorem ofDigitChars_digits (n : Nat) : Nat.ofDigitChars 10 (digits n) 0 = n :=
  Nat.ofDigitChars_toDigits (by decide) (by decide)

end RowSpec
