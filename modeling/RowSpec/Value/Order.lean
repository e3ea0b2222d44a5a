import RowSpec.Value.Basic

/-!
# Order of values

* `Value.compare?`   the order of two values of one kind; values of different kinds have none;
* `Value.sortOrder`  the order that sorting uses: null first, unlike kinds by the names of the kinds.
-/

namespace RowSpec

namespace Value

def compare? : Value → Value → Option Ordering
  | null, null => some .eq
  | bool a, bool b => some (Ord.compare a b)
  | number a, number b => some (a.compare b)
  | uuid a, uuid b => some (a.compare b)
  | instant a, instant b => some (a.compare b)
  | date a, date b => some (a.compare b)
  | time a, time b => some (a.compare b)
  | text a, text b => some (Ord.compare a b)
  | _, _ => none

def sortOrder (a b : Value) : Ordering :=
  if a = null then (if b = null then .eq else .lt)
  else if b = null then .gt
  else (a.compare? b).getD (Ord.compare a.kind.name b.kind.name)

theorem compare?_isSome (a b : Value) : (a.compare? b).isSome = decide (a.kind = b.kind) := by
  cases a <;> cases b <;> rfl

end Value

end RowSpec
