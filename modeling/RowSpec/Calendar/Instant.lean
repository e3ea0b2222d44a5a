import RowSpec.Calendar.Date
import RowSpec.Calendar.Time

/-!
# Instants

An instant is a date and a time of day in universal time.

* `Instant.ofSeconds?`  the instant so many seconds and nanoseconds after the start of 1970, with a
                        leap second after a second 59 only;
* `Instant.compare`     the order of time;
* `Instant.chars`       date and time with the offset `+00:00`.
-/

namespace RowSpec

structure Instant where
  date : Date
  time : Time
deriving DecidableEq

namespace Instant

def ofSeconds? (seconds : Int) (nano : Nat) : Option Instant := do
  let date ← Date.ofDays? (seconds / 86400)
  let s := (seconds % 86400).toNat
  let time ← Time.of? (s / 3600) (s / 60 % 60) (s % 60) nano
  if time.Regular then some ⟨date, time⟩ else none

def compare (a b : Instant) : Ordering := (a.date.compare b.date).then (a.time.compare b.time)

def chars (t : Instant) : List Char := t.date.chars ++ 'T' :: t.time.chars ++ "+00:00".toList

example : (ofSeconds? (-1) 999000000).map chars = some "1969-12-31T23:59:59.999+00:00".toList := by
  decide

end Instant

end RowSpec
