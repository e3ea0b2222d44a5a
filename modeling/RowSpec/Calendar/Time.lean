import RowSpec.Text.Digits

/-!
# Times of day

A time has nanoseconds below 10⁹; in a leap second they go on to 2 · 10⁹. A leap second follows a
second 59, yet any second can be given so many nanoseconds.

* `Time.of?`      the time of hour, minute, second and nanoseconds, if there is one;
* `Time.Regular`  a leap second, if it is one, follows a second 59;
* `Time.compare`  the order of time;
* `Time.chars`    `HH:MM:SS` and a fraction of 0, 3, 6 or 9 digits.
-/

namespace RowSpec

structure Time where
  hour : Nat
  minute : Nat
  second : Nat
  nano : Nat
  hour_lt : hour < 24
  minute_lt : minute < 60
  second_lt : second < 60
  nano_lt : nano < 2000000000
deriving DecidableEq

namespace Time

def of? (hour minute second nano : Nat) : Option Time :=
  if h : hour < 24 ∧ minute < 60 ∧ second < 60 ∧ nano < 2000000000 then
    some ⟨hour, minute, second, nano, h.1, h.2.1, h.2.2.1, h.2.2.2⟩
  else none

/-- The nanoseconds of a leap second stand at a second 59. -/
def Regular (t : Time) : Prop := t.nano < 1000000000 ∨ t.second = 59

instance (t : Time) : Decidable t.Regular := inferInstanceAs (Decidable (_ ∨ _))

def compare (a b : Time) : Ordering :=
  (Ord.compare a.hour b.hour).then ((Ord.compare a.minute b.minute).then
    ((Ord.compare a.second b.second).then (Ord.compare a.nano b.nano)))

/-- The shortest exact fraction among 0, 3, 6 and 9 digits. -/
def fractionChars (nano : Nat) : List Char :=
  if nano = 0 then []
  else if nano % 1000000 = 0 then '.' :: padded 3 (nano / 1000000)
  else if nano % 1000 = 0 then '.' :: padded 6 (nano / 1000)
  else '.' :: padded 9 nano

/-- A leap second is written as the second after: the one after a second 59 as 60. -/
def chars (t : Time) : List Char :=
  padded 2 t.hour ++ ':' :: padded 2 t.minute ++ ':' ::
    (if t.nano < 1000000000 then padded 2 t.second ++ fractionChars t.nano
     else padded 2 (t.second + 1) ++ fractionChars (t.nano - 1000000000))

example : (of? 23 59 59 1500000000).map chars = some "23:59:60.500".toList := by decide
example : (of? 1 2 3 5000).map chars = some "01:02:03.000005".toList := by decide

end Time

end RowSpec
