/-!
# Families and tables of keys

* `replace f i x`   the family `f` with its member at `i` replaced;
* `setKey i x`      a list of keys and values with the value of `i` replaced, or added at the end.
-/

namespace RowSpec

variable {ι α : Type} [DecidableEq ι]

def replace (f : ι → α) (i : ι) (x : α) : ι → α :=
  fun j => if j = i then x else f j

theorem replace_same (f : ι → α) (i : ι) (x : α) : replace f i x i = x := if_pos rfl

theorem replace_other (f : ι → α) {i j : ι} (x : α) (h : j ≠ i) : replace f i x j = f j :=
  if_neg h

theorem eq_of_replace_same {f : ι → Option α} {i : ι} {x y : α}
    (h : replace f i (some x) i = some y) : x = y :=
  Option.some.inj ((replace_same f i (some x)).symm.trans h)

theorem replace_replace (f : ι → α) (i : ι) (x y : α) :
    replace (replace f i x) i y = replace f i y := by
  funext j
  by_cases h : j = i <;> simp [replace, h]

theorem replace_self (f : ι → α) (i : ι) : replace f i (f i) = f := by
  funext j
  by_cases h : j = i <;> simp [replace, h]

def setKey (i : ι) (x : α) : List (ι × α) → List (ι × α)
  | [] => [(i, x)]
  | (j, y) :: rest => if j = i then (i, x) :: rest else (j, y) :: setKey i x rest

theorem lookup_setKey (i j : ι) (x : α) (l : List (ι × α)) :
    (setKey i x l).lookup j = if j = i then some x else l.lookup j := by
  have miss : ∀ k : ι, j ≠ k → (j == k) = false := fun k h => beq_eq_false_iff_ne.mpr h
  induction l with
  | nil =>
    by_cases h : j = i
    · simp [setKey, h]
    · simp [setKey, List.lookup_cons, h, miss i h]
  | cons p l ih =>
    obtain ⟨k, y⟩ := p
    by_cases hk : k = i
    · subst hk
      by_cases h : j = k
      · simp [setKey, h]
      · simp [setKey, List.lookup_cons, h, miss k h]
    · by_cases h : j = k
      · subst h
        simp [setKey, hk]
      · simp [setKey, hk, List.lookup_cons, miss k h, ih]

end RowSpec
