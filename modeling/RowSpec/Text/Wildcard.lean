/-!
# Wildcard patterns

In a pattern `%` stands for any run of code points and `_` for one code point. Text and pattern are
read together from the left. Where they stop to fit, the scan goes back to the last `%` and lets it
take one code point more; what an earlier `%` took is never looked at again.

* `Wildcard.Leads`      reading two texts together, code point by code point;
* `Wildcard.Mark`       what stands behind the last `%`, and the text it is being tried on;
* `Wildcard.Scan`       what is left to read, and the mark;
* `Wildcard.Scan.step`  one turn of the scan: the answer, or what is left then;
* `Wildcard.Scan.run`   turns until there is an answer;
* `Wildcard.accepts`    the match of a whole text.
-/

namespace RowSpec.Wildcard

/-- a pattern's code point, which is no `%`, against a text's -/
def fits (p c : Char) : Bool := p != '%' && (p = '_' || p = c)

/-- What is left of a pattern and a text when code points of the one have fitted as many of the
other. -/
inductive Leads (pattern text : List Char) : List Char → List Char → Prop
  | refl : Leads pattern text pattern text
  | read {p c : Char} {ps cs : List Char} (h : Leads pattern text (p :: ps) (c :: cs))
    (hfits : fits p c = true) : Leads pattern text ps cs

theorem Leads.length_le {pattern text ps cs : List Char} (h : Leads pattern text ps cs) :
    ps.length ≤ pattern.length := by
  induction h with
  | refl => exact Nat.le_refl _
  | read _ _ ih => exact Nat.le_of_succ_le ih

structure Mark where
  pattern : List Char
  text : List Char

structure Scan where
  pattern : List Char
  text : List Char
  mark : Option Mark
  /-- What is left is what reading from the mark on leads to. -/
  behind : ∀ m ∈ mark, Leads m.pattern m.text pattern text

namespace Scan

def start (pattern text : List Char) : Scan where
  pattern
  text
  mark := none
  behind := nofun

def atMark (m : Mark) : Scan where
  pattern := m.pattern
  text := m.text
  mark := some m
  behind := fun _ hm => Option.some.inj hm ▸ .refl

/-- Lets the last `%` take one code point more. Without a `%` the text does not match. -/
def retreat (s : Scan) : Bool ⊕ Scan :=
  match s.mark with
  | some ⟨pattern, _ :: text⟩ => .inr (atMark ⟨pattern, text⟩)
  | _ => .inl false

/-- The answer, or what is left to scan. -/
def step (s : Scan) : Bool ⊕ Scan :=
  match s with
  | ⟨pattern, [], _, _⟩ => .inl (pattern.all (· = '%'))
  | ⟨[], _ :: _, _, _⟩ => s.retreat
  | ⟨p :: ps, c :: cs, mark, h⟩ =>
    if p = '%' then .inr (atMark ⟨ps, c :: cs⟩)
    else if hfits : fits p c then .inr ⟨ps, cs, mark, fun m hm => (h m hm).read hfits⟩
    else s.retreat

/-! ## termination -/

/-- A new `%` lies further on in the pattern; going back leaves less text behind the same `%`; and
otherwise a code point of the text has been read. -/
def measure (s : Scan) : Nat × Nat × Nat :=
  match s.mark with
  | some m => (m.pattern.length, m.text.length, s.text.length)
  | none => (s.pattern.length + 1, 0, s.text.length)

/-- the order of measures -/
abbrev Below : Nat × Nat × Nat → Nat × Nat × Nat → Prop :=
  Prod.Lex (· < ·) (Prod.Lex (· < ·) (· < ·))

variable {s s' : Scan}

theorem retreat_below (h : s.retreat = .inr s') : Below s'.measure s.measure := by
  obtain ⟨pattern, text, mark, behind⟩ := s
  rcases mark with _ | ⟨ps, _ | ⟨c, cs⟩⟩
  · cases h
  · cases h
  · cases h
    exact .right _ (.left _ _ (Nat.lt_succ_self _))

theorem step_below (h : s.step = .inr s') : Below s'.measure s.measure := by
  obtain ⟨pattern, text, mark, behind⟩ := s
  cases text with
  | nil => cases h
  | cons c cs =>
    cases pattern with
    | nil => exact retreat_below h
    | cons p ps =>
      rw [step] at h
      split at h
      · cases h
        cases mark with
        | none => exact .left _ _ (Nat.lt_add_right 1 (Nat.lt_succ_self _))
        | some m => exact .left _ _ (behind m rfl).length_le
      · split at h
        · cases h
          cases mark with
          | none => exact .left _ _ (Nat.lt_succ_self _)
          | some m => exact .right _ (.right _ (Nat.lt_succ_self _))
        · exact retreat_below h

def run (s : Scan) : Bool :=
  match _h : s.step with
  | .inl answer => answer
  | .inr next => next.run
termination_by s.measure
decreasing_by exact step_below _h

end Scan

def accepts (pattern text : List Char) : Bool := (Scan.start pattern text).run

example : accepts "m%iss%iss%i".toList "mississippi".toList = true := by cbv
example : accepts "a%c".toList "abcd".toList = false := by cbv

end RowSpec.Wildcard
