import RowSpec.Text.Digits

/-!
# Durations

* `Duration`            seconds and nanoseconds, the latter below 10⁹;
* `Duration.make`       any seconds and nanoseconds together;
* `Duration.render`     years, months, days and smaller units, zero parts left out;
* `Duration.ofText?`    reads numbers with units, white space between and inside the numbers.

A month is 30.44 days and a year 365.25 days.
-/

namespace RowSpec

structure Duration where
  seconds : Nat
  nanos : Nat
  nanos_lt : nanos < 1000000000
deriving DecidableEq, Repr

namespace Duration

/-- Whole seconds among the nanoseconds go to the seconds. -/
def make (seconds nanos : Nat) : Duration :=
  ⟨seconds + nanos / 1000000000, nanos % 1000000000, Nat.mod_lt _ (by decide)⟩

theorem make_of_lt (s : Nat) {n : Nat} (h : n < 1000000000) : make s n = ⟨s, n, h⟩ := by
  simp only [make, Nat.div_eq_of_lt h, Nat.mod_eq_of_lt h, Nat.add_zero]

def secondsPerYear : Nat := 31557600

def secondsPerMonth : Nat := 2630016

/-! ## text -/

/-- `2days`, `1day`, or nothing for zero -/
def pluralPart (name : String) (n : Nat) : List String :=
  if n = 0 then [] else [String.ofList (digits n) ++ name ++ if n > 1 then "s" else ""]

def part (name : String) (n : Nat) : List String :=
  if n = 0 then [] else [String.ofList (digits n) ++ name]

def parts (d : Duration) : List String :=
  let inYear := d.seconds % secondsPerYear
  let inMonth := inYear % secondsPerMonth
  let inDay := inMonth % 86400
  pluralPart "year" (d.seconds / secondsPerYear) ++ pluralPart "month" (inYear / secondsPerMonth) ++
    pluralPart "day" (inMonth / 86400) ++ part "h" (inDay / 3600) ++ part "m" (inDay / 60 % 60) ++
    part "s" (inDay % 60) ++ part "ms" (d.nanos / 1000000) ++ part "us" (d.nanos / 1000 % 1000) ++
    part "ns" (d.nanos % 1000)

def render (d : Duration) : String :=
  if d.parts.isEmpty then "0s" else " ".intercalate d.parts

/-! ## reading -/

inductive TimeUnit
  | nano | micro | milli | second | minute | hour | day | week | month | year
deriving DecidableEq, Repr

/-- nanoseconds of a unit below the hour, seconds of the others -/
def TimeUnit.size : TimeUnit → Nat
  | nano => 1
  | micro => 1000
  | milli => 1000000
  | second => 1000000000
  | minute => 60000000000
  | hour => 3600
  | day => 86400
  | week => 604800
  | month => secondsPerMonth
  | year => secondsPerYear

def TimeUnit.ofName? (name : List Char) : Option TimeUnit :=
  let s := String.ofList name
  if ["ns", "nsec", "nanos"].contains s then some nano
  else if ["us", "usec", "µs"].contains s then some micro
  else if ["ms", "msec", "millis"].contains s then some milli
  else if ["s", "sec", "secs", "second", "seconds"].contains s then some second
  else if ["m", "min", "mins", "minute", "minutes"].contains s then some minute
  else if ["h", "hr", "hrs", "hour", "hours"].contains s then some hour
  else if ["d", "day", "days"].contains s then some day
  else if ["w", "wk", "wks", "week", "weeks"].contains s then some week
  else if ["M", "month", "months"].contains s then some month
  else if ["y", "yr", "yrs", "year", "years"].contains s then some year
  else none

/-- white space between the parts of a duration -/
def isBlank (c : Char) : Bool :=
  let n := c.toNat
  (9 ≤ n && n ≤ 13) || n = 0x20 || n = 0x85 || n = 0xA0 || n = 0x1680 ||
    (0x2000 ≤ n && n ≤ 0x200A) || n = 0x2028 || n = 0x2029 || n = 0x202F || n = 0x205F || n = 0x3000

def isUnitLetter (c : Char) : Bool := ('a' ≤ c && c ≤ 'z') || ('A' ≤ c && c ≤ 'Z') || c = 'µ'

def isDigit (c : Char) : Bool := '0' ≤ c && c ≤ '9'

/-- Counts are kept below 2⁶⁴. -/
def bounded? (n : Nat) : Option Nat := if n < 0x10000000000000000 then some n else none

/-- Digits and white space, as the number they spell and the count of the digits. -/
def readRun (acc count : Nat) : List Char → Option (Nat × Nat × List Char)
  | [] => some (acc, count, [])
  | c :: rest =>
    if isDigit c then do
      readRun (← bounded? (10 * acc + (c.toNat - '0'.toNat))) (count + 1) rest
    else if isBlank c then readRun acc count rest
    else some (acc, count, c :: rest)

/-- a number with its decimal part, the latter as numerator and count of digits -/
def readNumber? (s : List Char) : Option (Nat × Option (Nat × Nat) × List Char) := do
  let (n, count, rest) ← readRun 0 0 s
  if count = 0 then none
  else match rest with
    | '.' :: more => do
      let (numerator, places, rest) ← readRun 0 0 more
      if places = 0 ∨ Nat.pow 10 places ≥ 0x10000000000000000 then none
      else pure (n, some (numerator, places), rest)
    | _ => pure (n, none, rest)

/-- `n` units as seconds and nanoseconds -/
def whole? (u : TimeUnit) (n : Nat) : Option (Nat × Nat) :=
  match u with
  | .nano | .micro | .milli => do pure (0, ← bounded? (n * u.size))
  | .second => some (n, 0)
  | .minute => do pure (← bounded? (n * 60), 0)
  | .hour | .day | .week | .month | .year => do pure (← bounded? (n * u.size), 0)

/-- A decimal part of a unit, which has to be a whole number of nanoseconds, from the hour on of
seconds. -/
def fraction? (u : TimeUnit) (numerator places : Nat) : Option (Nat × Nat) := do
  let scaled ← bounded? (numerator * u.size)
  if scaled % Nat.pow 10 places ≠ 0 then none
  else match u with
    | .nano => none
    | .micro | .milli | .second | .minute => pure (0, scaled / Nat.pow 10 places)
    | .hour | .day | .week | .month | .year => pure (scaled / Nat.pow 10 places, 0)

/-- Sum with seconds below 2⁶⁴. -/
def add? (d : Duration) (x : Nat × Nat) : Option Duration := do
  let sum := make (d.seconds + x.1) (← bounded? (d.nanos + x.2))
  (bounded? sum.seconds).map fun _ => sum

/-- One number with its unit, and what follows them. -/
def readItem? (d : Duration) (s : List Char) : Option (Duration × List Char) := do
  let (n, decimals, rest) ← readNumber? s
  let u ← TimeUnit.ofName? (rest.takeWhile isUnitLetter)
  let d ← d.add? (← whole? u n)
  let d ← match decimals with
    | some (numerator, places) => do d.add? (← fraction? u numerator places)
    | none => pure d
  pure (d, (rest.dropWhile isUnitLetter).dropWhile isBlank)

/-- Items until the text ends, at most as many as the first argument. -/
def readItems? : Nat → Duration → List Char → Option Duration
  | 0, _, _ => none
  | fuel + 1, d, s => do
    let (d, rest) ← readItem? d s
    if rest.isEmpty then pure d else readItems? fuel d rest

def ofText? (text : String) : Option Duration :=
  if text = "0" then some (make 0 0)
  else
    let s := text.toList.dropWhile isBlank
    readItems? s.length (make 0 0) s

end Duration

end RowSpec
