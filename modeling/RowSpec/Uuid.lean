import RowSpec.Text.Digits

/-!
# Universally unique identifiers

A `Uuid` is a number of 128 bits; the order of numbers is the order of their bytes.

* `Uuid.chars`     32 hexadecimal digits in groups of 8, 4, 4, 4 and 12;
* `Uuid.ofText?`   reads that form, digits in either case.
-/

namespace RowSpec

structure Uuid where
  toNat : Nat
  toNat_lt : toNat < 0x100000000000000000000000000000000
deriving DecidableEq

namespace Uuid

def ofNat? (n : Nat) : Option Uuid :=
  if h : n < 0x100000000000000000000000000000000 then some ⟨n, h⟩ else none

def compare (a b : Uuid) : Ordering := Ord.compare a.toNat b.toNat

/-- the lowest `k` hexadecimal digits -/
def hexDigits : (k n : Nat) → List Char
  | 0, _ => []
  | k + 1, n => hexDigits k (n / 16) ++ [Nat.digitChar (n % 16)]

/-- 32 digits in groups, with hyphens between them -/
def grouped (s : List Char) : List Char :=
  s.take 8 ++ '-' :: (s.drop 8).take 4 ++ '-' :: (s.drop 12).take 4 ++
    '-' :: (s.drop 16).take 4 ++ '-' :: s.drop 20

def chars (u : Uuid) : List Char := grouped (hexDigits 32 u.toNat)

def readHex (acc : Nat) : List Char → Option Nat
  | [] => some acc
  | c :: rest => do readHex (16 * acc + (← hexValue? c)) rest

def ofText? (text : String) : Option Uuid := do
  let s := text.toList
  let hyphens := [8, 13, 18, 23]
  if s.length = 36 ∧ hyphens.all (fun i => s[i]? == some '-') then
    ofNat? (← readHex 0 (s.filter (· ≠ '-')))
  else none

theorem length_hexDigits (k n : Nat) : (hexDigits k n).length = k := by
  induction k generalizing n with
  | zero => rfl
  | succ k ih => simp [hexDigits, ih]

theorem length_chars (u : Uuid) : u.chars.length = 36 := by
  simp [chars, grouped, length_hexDigits]

end Uuid

end RowSpec
