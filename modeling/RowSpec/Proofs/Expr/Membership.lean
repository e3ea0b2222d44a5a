import RowSpec.Expr.Reference
import RowSpec.Proofs.Query.Filtering
import RowSpec.Record.Keyed

/-!
# Membership as a disjunction

Whether a subject is one of several items is the same question as whether it equals the first, or
the second, and so on. A membership reads its subject once and a disjunction with every comparison,
but both stop at the first item that is equal or that makes a failure.

* `equalities`              the comparisons of a subject with each item;
* `holds_compare`           a comparison of two operands;
* `holdsIn_eq_truth`        items tried in order are alternatives tried in order;
* `holds_isIn_eq_truth`     the same with the subject not read yet;
* `membership_eq_disjunction`   the two predicates give the same result or the same failure.
-/

namespace RowSpec

namespace Expr

variable {ρ : Type} [Record ρ] {row : ρ} {subject item : Expr} {items : List Expr} {x : Value}

/-- the comparisons of a subject with each of the items -/
def equalities (subject : Expr) (items : List Expr) : Clause :=
  items.map (.compare subject .eq)

theorem holds_compare (row : ρ) (l : Expr) (op : Comparison) (r : Expr) :
    (compare l op r).holds row =
      (l.operand row).bind fun x => (r.operand row).bind fun y => op.holds x y := by
  rw [holds]
  rfl

theorem holds_compare_of_ok (hx : subject.operand row = .ok x) (item : Expr) :
    (compare subject .eq item).holds row =
      (item.operand row).bind fun y => Comparison.eq.holds x y := by
  rw [holds_compare, hx]
  rfl

theorem holdsIn_cons (row : ρ) (x : Value) (item : Expr) (items : List Expr) :
    holdsIn row x (item :: items) =
      ((item.operand row).bind fun y => Comparison.eq.holds x y).bind fun hit =>
        if hit then .ok true else holdsIn row x items := by
  rw [holdsIn]
  show (item.operand row).bind _ = _
  cases item.operand row <;> rfl

/-- Once the subject is known, items are alternatives. -/
theorem holdsIn_eq_truth (hx : subject.operand row = .ok x) (items : List Expr) :
    holdsIn row x items = (equalities subject items).truth row := by
  induction items with
  | nil =>
    rw [holdsIn]
    rfl
  | cons item items ih =>
    show _ = Clause.truth row (compare subject .eq item :: equalities subject items)
    rw [holdsIn_cons, ← holds_compare_of_ok hx, ih]
    rfl

theorem holds_isIn (row : ρ) (subject : Expr) (items : List Expr) :
    (isIn subject items).holds row =
      (subject.operand row).bind fun x => holdsIn row x items := by
  rw [holds]
  rfl

/-- A subject that cannot be read fails already in the first comparison. -/
theorem holds_isIn_eq_truth (row : ρ) (subject item : Expr) (items : List Expr) :
    (isIn subject (item :: items)).holds row =
      (equalities subject (item :: items)).truth row := by
  rw [holds_isIn]
  cases hx : subject.operand row with
  | ok x => exact holdsIn_eq_truth hx (item :: items)
  | error e =>
    have hfirst : (compare subject .eq item).holds row = .error e := by
      rw [holds_compare, hx]
      rfl
    show _ = Clause.truth row (compare subject .eq item :: equalities subject items)
    rw [Clause.truth, hfirst]
    rfl

/-- **Membership is a disjunction of equalities**, joined from the left, for a field and a list of
values as well as for any subject and items: the same truth, or the same failure. -/
theorem membership_eq_disjunction (row : ρ) :
    (∀ (f : FieldRef) (vs : List Value), vs ≠ [] →
      ∃ p, any? (vs.map (f.compare .eq)) = some p ∧ (f.inList vs).holds row = p.holds row) ∧
    ∀ (subject item : Expr) (items : List Expr),
      (isIn subject (item :: items)).holds row =
        ((items.map (compare subject .eq)).foldl or (compare subject .eq item)).holds row := by
  have hfold : ∀ (subject item : Expr) (items : List Expr),
      (isIn subject (item :: items)).holds row =
        ((items.map (compare subject .eq)).foldl or (compare subject .eq item)).holds row := by
    intro subject item items
    rw [holds_isIn_eq_truth, holds_foldl_or]
    rfl
  refine ⟨?_, hfold⟩
  intro f vs hvs
  obtain ⟨v, vs, rfl⟩ := List.exists_cons_of_ne_nil hvs
  refine ⟨_, rfl, ?_⟩
  show (isIn (.field f.name) (.value v :: vs.map .value)).holds row = _
  rw [hfold, List.map_map]
  rfl

/-- A null among the values is passed over, a value of another kind is a failure. -/
theorem membership_of_ada :
    let row : Keyed := { id := .ofInt 1, fields := [("name", .text "Ada")] }
    let joined (vs : List Value) := any? (vs.map ((FieldRef.mk "name").compare .eq))
    let found : List Value := [.null, .text "Bob", .text "Ada", .number 3]
    let failing : List Value := [.text "Bob", .number 3, .text "Ada"]
    (found ≠ [] ∧ ∃ p, joined found = some p ∧ p.holds row = .ok true) ∧
      failing ≠ [] ∧ ∃ p, joined failing = some p ∧
        p.holds row = .error (.incomparable .text .number) := by
  intro row joined found failing
  obtain ⟨hlist, -⟩ := membership_eq_disjunction row
  obtain ⟨p, hp, hfound⟩ := hlist ⟨"name"⟩ found (List.cons_ne_nil _ _)
  obtain ⟨q, hq, hfailing⟩ := hlist ⟨"name"⟩ failing (List.cons_ne_nil _ _)
  refine ⟨⟨List.cons_ne_nil _ _, p, hp, ?_⟩, List.cons_ne_nil _ _, q, hq, ?_⟩
  · rw [← hfound]
    rfl
  · rw [← hfailing]
    rfl

end Expr

end RowSpec
