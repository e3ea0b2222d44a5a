import Mathlib.Data.List.Basic
import RowSpec.Proofs.Yields
import RowSpec.Query.Basic

/-!
# Filter clauses

A clause lets a row through when one of its alternatives holds on the row. Alternatives are tried in
order, clauses one after the other, each on the rows that the clauses before let through.

* `Clause.meets`, `Clause.Fails`   a row passes a clause, and evaluating the clause on it fails;
* `Expr.holds_any?`       the alternatives joined into one predicate evaluate as the clause;
* `Clause.FailsAlong`     a clause fails on a row that has passed the clauses before it;
* `keepAll_yields`        filtering by clauses, and the rows that make it fail.
-/

namespace RowSpec

variable {ρ : Type} [Record ρ]

/-! ## one clause -/

/-- alternatives of which one has to hold -/
abbrev Clause := List Expr

/-- Whether a predicate holds on a row; it does not where evaluating it fails. -/
def Expr.accepts (row : ρ) (p : Expr) : Bool :=
  match p.holds row with
  | .ok b => b
  | .error _ => false

theorem Expr.accepts_of_ok {row : ρ} {p : Expr} {b : Bool} (h : p.holds row = .ok b) :
    p.accepts row = b := by rw [accepts, h]

namespace Clause

def meets (row : ρ) (s : Clause) : Bool := s.any (Expr.accepts row)

/-- An alternative fails, and those before it are false. -/
def Fails (row : ρ) (e : FieldError) : Clause → Prop
  | [] => False
  | p :: rest => p.holds row = .error e ∨ p.holds row = .ok false ∧ Fails row e rest

/-- The truth of a clause: the first alternative that is not false decides. -/
def truth (row : ρ) : Clause → Except FieldError Bool
  | [] => .ok false
  | p :: rest => do if ← p.holds row then pure true else truth row rest

theorem truth_eq_ok {row : ρ} {s : Clause} {b : Bool} (h : s.truth row = .ok b) :
    s.meets row = b := by
  induction s with
  | nil => cases h; rfl
  | cons p rest ih =>
    rw [truth] at h
    rw [meets, List.any_cons]
    cases hp : p.holds row with
    | error e => rw [hp] at h; cases h
    | ok c =>
      rw [hp] at h
      rw [Expr.accepts_of_ok hp]
      cases c with
      | true => cases h; rfl
      | false => rw [Bool.false_or]; exact ih h

theorem truth_eq_error {row : ρ} {s : Clause} {e : FieldError} :
    s.truth row = .error e ↔ s.Fails row e := by
  induction s with
  | nil => exact ⟨nofun, nofun⟩
  | cons p rest ih =>
    rw [truth, Fails]
    cases hp : p.holds row with
    | error e' =>
      constructor
      · intro h; cases h; exact .inl rfl
      · rintro (h | ⟨h, _⟩)
        · cases h; rfl
        · cases h
    | ok c =>
      cases c with
      | true =>
        constructor
        · intro h; cases h
        · rintro (h | ⟨h, _⟩) <;> cases h
      | false =>
        constructor
        · intro h; exact .inr ⟨rfl, ih.mp h⟩
        · rintro (h | ⟨_, h⟩)
          · cases h
          · exact ih.mpr h

end Clause

/-! ## alternatives as one predicate -/

theorem Expr.holds_or (row : ρ) (a b : Expr) :
    (Expr.or a b).holds row = (a.holds row).bind fun t => if t then .ok true else b.holds row := by
  rw [holds]
  rfl

theorem Expr.holds_foldl_or (row : ρ) (p : Expr) (rest : List Expr) :
    (rest.foldl .or p).holds row = Clause.truth row (p :: rest) := by
  induction rest generalizing p with
  | nil =>
    rw [List.foldl_nil, Clause.truth]
    cases p.holds row with
    | error e => rfl
    | ok b => cases b <;> rfl
  | cons q rest ih =>
    rw [List.foldl_cons, ih, Clause.truth, Clause.truth, Clause.truth, holds_or]
    cases p.holds row with
    | error e => rfl
    | ok b => cases b <;> rfl

theorem Expr.holds_any? (row : ρ) {s : Clause} {p : Expr} (h : Expr.any? s = some p) :
    p.holds row = s.truth row := by
  cases s with
  | nil => cases h
  | cons q rest =>
    cases h
    exact holds_foldl_or row q rest

/-! ## all rows -/

theorem keep_yields (p : Expr) (rows : List ρ) :
    Yields (keep p rows) (fun e => ∃ row ∈ rows, p.holds row = .error e)
      (rows.filter (p.accepts ·)) := by
  induction rows with
  | nil => exact (Yields.ok []).imp (fun _ => False.elim) fun _ => ⟨fun _ => nofun, rfl⟩
  | cons row rest ih =>
    rw [keep]
    cases hp : p.holds row with
    | error e => exact Yields.error ⟨row, List.mem_cons_self, hp⟩
    | ok b =>
      refine (ih.map fun kept => if b then row :: kept else kept).imp ?_ fun hnone => ⟨?_, ?_⟩
      · rintro e ⟨r, hr, he⟩
        exact ⟨r, List.mem_cons_of_mem row hr, he⟩
      · rintro e ⟨r, hr, he⟩
        rcases List.mem_cons.mp hr with rfl | hr
        · rw [hp] at he
          cases he
        · exact hnone e ⟨r, hr, he⟩
      · rw [List.filter_cons, Expr.accepts_of_ok hp]

/-- The row passes clauses until one fails on it. -/
def Clause.FailsAlong (row : ρ) (e : FieldError) : List Clause → Prop
  | [] => False
  | s :: rest => s.Fails row e ∨ s.meets row ∧ FailsAlong row e rest

/-- the predicates of clauses that are not empty -/
def Clause.exprs (clauses : List Clause) : List Expr := clauses.filterMap Expr.any?

theorem Clause.exprs_append (cs ds : List Clause) : exprs (cs ++ ds) = exprs cs ++ exprs ds :=
  List.filterMap_append

theorem keepAll_append (ps qs : List Expr) (rows : List ρ) :
    keepAll (ps ++ qs) rows = keepAll ps rows >>= keepAll qs := by
  induction ps generalizing rows with
  | nil => rfl
  | cons p ps ih =>
    rw [List.cons_append, keepAll, keepAll]
    cases keep p rows with
    | error e => rfl
    | ok kept => exact ih kept

theorem Expr.any?_isSome {s : Clause} (h : s ≠ []) : ∃ p, Expr.any? s = some p := by
  cases s with
  | nil => exact absurd rfl h
  | cons p rest => exact ⟨_, rfl⟩

/-- **Filtering by clauses** keeps the rows that meet them all. -/
theorem keepAll_yields {clauses : List Clause} (hne : ∀ s ∈ clauses, s ≠ []) (rows : List ρ) :
    Yields (keepAll (Clause.exprs clauses) rows)
      (fun e => ∃ row ∈ rows, Clause.FailsAlong row e clauses)
      (rows.filter fun row => clauses.all (Clause.meets row)) := by
  induction clauses generalizing rows with
  | nil =>
    refine (Yields.ok rows).imp (fun _ => False.elim) fun _ => ⟨?_, ?_⟩
    · rintro e ⟨row, _, ⟨⟩⟩
    · exact (List.filter_eq_self.mpr fun _ _ => rfl).symm
  | cons s clauses ih =>
    obtain ⟨p, hp⟩ := Expr.any?_isSome (hne s List.mem_cons_self)
    have hfails : ∀ (row : ρ) e, p.holds row = .error e ↔ s.Fails row e := fun row e => by
      rw [Expr.holds_any? row hp]
      exact Clause.truth_eq_error
    have hmeets : ∀ (row : ρ) b, p.holds row = .ok b → s.meets row = b := fun row b hb =>
      Clause.truth_eq_ok (Expr.holds_any? row hp ▸ hb)
    have hrest := ih (fun t ht => hne t (List.mem_cons_of_mem s ht)) (rows.filter (p.accepts ·))
    rw [Clause.exprs, List.filterMap_cons_some hp, keepAll]
    refine ((keep_yields p rows).bind fun _ => hrest).imp ?_ ?_
    · rintro e (⟨row, hrow, he⟩ | ⟨row, hrow, he⟩)
      · exact ⟨row, hrow, .inl ((hfails row e).mp he)⟩
      · obtain ⟨hrow, ha⟩ := List.mem_filter.mp hrow
        refine ⟨row, hrow, .inr ⟨?_, he⟩⟩
        cases hb : p.holds row with
        | error e' => rw [Expr.accepts, hb] at ha; cases ha
        | ok b => rw [hmeets row b hb, ← Expr.accepts_of_ok hb]; exact ha
    · intro hnone
      have hagree : ∀ row ∈ rows, p.accepts row = s.meets row := by
        intro row hrow
        cases hb : p.holds row with
        | error e => exact absurd (.inl ⟨row, hrow, hb⟩) (hnone e)
        | ok b => rw [Expr.accepts_of_ok hb, hmeets row b hb]
      constructor
      · rintro e ⟨row, hrow, he | ⟨hm, he⟩⟩
        · exact hnone e (.inl ⟨row, hrow, (hfails row e).mpr he⟩)
        · refine hnone e (.inr ⟨row, List.mem_filter.mpr ⟨hrow, ?_⟩, he⟩)
          rw [hagree row hrow]
          exact hm
      · rw [List.filter_filter]
        apply List.filter_congr
        intro row hrow
        rw [hagree row hrow, List.all_cons, Bool.and_comm]

end RowSpec
