/-!
# Gates

A gate lets one task through at a time, in order of arrival: the first task of the line holds it,
the others wait.

* `Gate.arrive`, `Gate.leave`   the line grows at its end and closes up where a task leaves;
* `Gate.lets`                   whether a task holds the gate.
-/

namespace RowSpec

abbrev TaskId := Nat

structure Gate where
  line : List TaskId := []
deriving DecidableEq, Repr

namespace Gate

def arrive (g : Gate) (t : TaskId) : Gate := ⟨g.line ++ [t]⟩

def leave (g : Gate) (t : TaskId) : Gate := ⟨g.line.erase t⟩

def lets (g : Gate) (t : TaskId) : Bool := g.line.head? = some t

theorem arrive_line (g : Gate) (t : TaskId) : (g.arrive t).line = g.line ++ [t] := rfl

theorem leave_line (g : Gate) (t : TaskId) : (g.leave t).line = g.line.erase t := rfl

/-- No two tasks hold a gate. -/
theorem lets_unique {g : Gate} {s t : TaskId} (hs : g.lets s) (ht : g.lets t) : s = t := by
  simp only [lets, decide_eq_true_eq] at hs ht
  exact Option.some.inj (hs ▸ ht)

end Gate

end RowSpec
