import RowSpec.Text.Digits

/-!
# Calendar dates

Dates of the Gregorian calendar, extended to all years.

* `Date.of?`       the date of a year, month and day, if there is one;
* `Date.ofDays?`   the date that many days after 1970-01-01;
* `Date.compare`   the order of time;
* `Date.chars`     `YYYY-MM-DD`, with a signed year outside `0 … 9999`.
-/

namespace RowSpec

def isLeapYear (year : Int) : Bool := year % 4 == 0 && (year % 100 != 0 || year % 400 == 0)

def daysIn (year : Int) (month : Nat) : Nat :=
  match month with
  | 2 => if isLeapYear year then 29 else 28
  | 4 | 6 | 9 | 11 => 30
  | _ => 31

structure Date where
  year : Int
  month : Nat
  day : Nat
  month_range : 1 ≤ month ∧ month ≤ 12
  day_range : 1 ≤ day ∧ day ≤ daysIn year month
deriving DecidableEq

namespace Date

def of? (year : Int) (month day : Nat) : Option Date :=
  if h : (1 ≤ month ∧ month ≤ 12) ∧ (1 ≤ day ∧ day ≤ daysIn year month) then
    some ⟨year, month, day, h.1, h.2⟩
  else none

/-- Years are counted from March, so that a leap day ends its year; 146097 days make 400 years and
719468 days lie between 0000-03-01 and 1970-01-01. -/
def ofDays? (days : Int) : Option Date :=
  let era := (days + 719468) / 146097
  let n := ((days + 719468) % 146097).toNat
  let y := (n - n / 1460 + n / 36524 - n / 146096) / 365
  let dayOfYear := n - (365 * y + y / 4 - y / 100)
  let m := (5 * dayOfYear + 2) / 153
  let day := dayOfYear - (153 * m + 2) / 5 + 1
  let month := if m < 10 then m + 3 else m - 9
  of? (y + era * 400 + if month ≤ 2 then 1 else 0) month day

def compare (a b : Date) : Ordering :=
  (Ord.compare a.year b.year).then ((Ord.compare a.month b.month).then (Ord.compare a.day b.day))

def yearChars (year : Int) : List Char :=
  if 0 ≤ year ∧ year ≤ 9999 then padded 4 year.toNat
  else (if year < 0 then '-' else '+') :: padded 4 year.natAbs

def chars (d : Date) : List Char :=
  yearChars d.year ++ '-' :: padded 2 d.month ++ '-' :: padded 2 d.day

example : (ofDays? 11016).map chars = some "2000-02-29".toList := by decide
example : (ofDays? (-1)).map chars = some "1969-12-31".toList := by decide

end Date

end RowSpec
