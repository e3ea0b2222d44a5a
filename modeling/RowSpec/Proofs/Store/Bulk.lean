import RowSpec.Proofs.Evaluation.Meaning
import RowSpec.Store.Table

/-!
# Bulk changes

A bulk change tests each row with all its predicates before it goes on to the next row, where a
query filters all rows by one predicate after the other. The rows that are meant, and the rows on
which an evaluation fails, are the same.

* `Facets.selects`          whether a row meets all clauses of a specification;
* `targets_yields`          testing a row for being a target, and the clause that fails on it;
* `dropWhere_yields`, `reviseWhere_yields`   all rows, and those that make the change fail;
* `run_criteriaQuery_yields`   the query of the same clauses.
-/

namespace RowSpec

variable {ε : Type} [Entity ε]

/-! ## predicates of one row -/

theorem passes_append (ps qs : List Expr) (row : ε) :
    passes (ps ++ qs) row = (passes ps row).bind fun b => if b then passes qs row else .ok false := by
  induction ps with
  | nil => rfl
  | cons p ps ih =>
    rw [List.cons_append, passes, passes, ih]
    cases p.holds row with
    | error e => rfl
    | ok b => cases b <;> rfl

theorem passes_singleton (p : Expr) (row : ε) : passes [p] row = p.holds row := by
  rw [passes]
  cases p.holds row with
  | error e => rfl
  | ok b => cases b <;> rfl

theorem Expr.holds_foldl_and (row : ε) (p : Expr) (rest : List Expr) :
    (rest.foldl .and p).holds row = passes (p :: rest) row := by
  induction rest generalizing p with
  | nil => exact (passes_singleton p row).symm
  | cons q rest ih =>
    rw [List.foldl_cons, ih, passes, passes, passes, holds]
    cases p.holds row with
    | error e => rfl
    | ok b => cases b <;> rfl

/-- The predicates joined into one evaluate as all of them in order. -/
theorem passes_all? (ps : List Expr) (row : ε) :
    passes (Expr.all? ps).toList row = passes ps row := by
  cases ps with
  | nil => rfl
  | cons p rest =>
    show passes [rest.foldl .and p] row = _
    rw [passes_singleton, Expr.holds_foldl_and]

theorem Expr.all?_concat (ps : List Expr) (q : Expr) :
    Expr.all? (ps ++ [q]) = some (match Expr.all? ps with
      | some p => p.and q
      | none => q) := by
  cases ps with
  | nil => rfl
  | cons p rest => exact congrArg some List.foldl_append

/-- The test of a row by joined predicates. -/
theorem targets_all? (ignore : Bool) (filters ps : List Expr) (row : ε) :
    DeleteCommand.targets ⟨ignore, Expr.all? ps⟩ filters row =
      passes ((if ignore then [] else filters) ++ ps) row := by
  rw [DeleteCommand.targets, passes_append, passes_append]
  show (passes _ row).bind (fun b => if b then passes (Expr.all? ps).toList row else _) = _
  rw [passes_all?]

/-! ## clauses of one row -/

theorem Clause.truth_yields (row : ε) (s : Clause) :
    Yields (s.truth row) (s.Fails row ·) (s.meets row) := by
  cases ht : s.truth row with
  | error e => exact Clause.truth_eq_error.mp ht
  | ok b =>
    refine ⟨fun e he => ?_, (Clause.truth_eq_ok ht).symm⟩
    have herror := Clause.truth_eq_error.mpr he
    rw [ht] at herror
    cases herror

theorem passes_exprs_cons {s : Clause} (hs : s ≠ []) (clauses : List Clause) (row : ε) :
    passes (Clause.exprs (s :: clauses)) row =
      s.truth row >>= fun b => if b then passes (Clause.exprs clauses) row else .ok false := by
  obtain ⟨p, hp⟩ := Expr.any?_isSome hs
  rw [Clause.exprs, List.filterMap_cons_some hp, passes, Expr.holds_any? row hp]
  rfl

theorem passes_exprs_yields {clauses : List Clause} (hne : ∀ s ∈ clauses, s ≠ []) (row : ε) :
    Yields (passes (Clause.exprs clauses) row) (Clause.FailsAlong row · clauses)
      (clauses.all (Clause.meets row)) := by
  induction clauses with
  | nil => exact Yields.ok true
  | cons s clauses ih =>
    obtain ⟨hs, hrest⟩ := List.forall_mem_cons.mp hne
    rw [passes_exprs_cons hs, List.all_cons]
    let later : Bool → Except FieldError Bool := fun b =>
      if b then passes (Clause.exprs clauses) row else .ok false
    have htruth := Clause.truth_yields row s
    cases hm : s.meets row with
    | false =>
      -- the clauses after it are not tried
      rw [hm] at htruth
      refine (htruth.bind (f := later) fun _ => Yields.ok false).imp ?_ fun hnone => ⟨?_, rfl⟩
      · rintro e (he | ⟨⟨⟩⟩)
        exact .inl he
      · rintro e (he | ⟨hmeets, _⟩)
        · exact hnone e (.inl he)
        · exact Bool.false_ne_true (hm.symm.trans hmeets)
    | true =>
      rw [hm] at htruth
      refine (htruth.bind (f := later) fun _ => ih hrest).imp ?_ fun hnone => ⟨?_, rfl⟩
      · rintro e (he | he)
        · exact .inl he
        · exact .inr ⟨hm, he⟩
      · rintro e (he | ⟨_, he⟩)
        · exact hnone e (.inl he)
        · exact hnone e (.inr he)

/-! ## targets -/

namespace Facets

/-- Whether a row meets the default filters, the predicates and the search groups. -/
def selects (filters : List Expr) (f : Facets) (row : ε) : Bool :=
  (f.clauses filters).all (Clause.meets row)

/-- An evaluation fails on the row. -/
def FailsOn (filters : List Expr) (f : Facets) (row : ε) (e : FieldError) : Prop :=
  Clause.FailsAlong row e (f.clauses filters)

theorem targets_eq (filters : List Expr) (f : Facets) (row : ε) :
    f.deleteCommand.targets filters row = passes (Clause.exprs (f.clauses filters)) row := by
  rw [exprs_clauses]
  exact targets_all? ..

/-- **The test for a target** succeeds unless an evaluation fails on the row. -/
theorem targets_yields (filters : List Expr) (f : Facets) (row : ε) :
    Yields (f.deleteCommand.targets filters row) (f.FailsOn filters row) (f.selects filters row) := by
  rw [targets_eq]
  exact passes_exprs_yields (fun _ => clauses_ne_nil) row

/-- **The query of the criteria** gives the selected rows unless an evaluation fails on a row. -/
theorem run_criteriaQuery_yields (filters : List Expr) (f : Facets) (rows : List ε) :
    Yields (criteriaQuery f ⟨rows, filters, []⟩).run (fun e => ∃ row ∈ rows, f.FailsOn filters row e)
      (rows.filter (f.selects filters)) := by
  rw [run_criteriaQuery]
  exact keepAll_yields (fun _ => clauses_ne_nil) rows

end Facets

/-! ## all rows -/

section
omit [Entity ε]
variable {chosen : ε → Except FieldError Bool} {p : ε → Bool} {fault : ε → FieldError → Prop}

theorem dropWhere_yields (h : ∀ row, Yields (chosen row) (fault row) (p row)) (rows : List ε) :
    Yields (dropWhere chosen rows) (fun e => ∃ row ∈ rows, fault row e)
      (rows.filter (!p ·), (rows.filter p).length) := by
  induction rows with
  | nil =>
    refine (Yields.ok _).imp (fun _ => False.elim) fun _ => ⟨?_, rfl⟩
    rintro e ⟨_, ⟨⟩, _⟩
  | cons row rest ih =>
    let step : Bool → Except FieldError (List ε × Nat) := fun b =>
      dropWhere chosen rest >>= fun r => pure (if b then (r.1, r.2 + 1) else (row :: r.1, r.2))
    refine ((h row).bind (f := step) fun _ => ih.map fun r =>
      if p row then (r.1, r.2 + 1) else (row :: r.1, r.2)).imp ?_ fun hnone => ⟨?_, ?_⟩
    · rintro e (he | ⟨r, hr, he⟩)
      · exact ⟨row, List.mem_cons_self, he⟩
      · exact ⟨r, List.mem_cons_of_mem row hr, he⟩
    · rintro e ⟨r, hr, he⟩
      rcases List.mem_cons.mp hr with rfl | hr
      · exact hnone e (.inl he)
      · exact hnone e (.inr ⟨r, hr, he⟩)
    · rw [List.filter_cons, List.filter_cons]
      cases p row <;> rfl

theorem reviseWhere_yields {change : ε → Except FieldError ε} {revised : ε → ε}
    {fault' : ε → FieldError → Prop} (h : ∀ row, Yields (chosen row) (fault row) (p row))
    (h' : ∀ row, Yields (change row) (fault' row) (revised row)) (rows : List ε) :
    Yields (reviseWhere chosen change rows)
      (fun e => ∃ row ∈ rows, fault row e ∨ p row ∧ fault' row e)
      (rows.map fun row => if p row then revised row else row, (rows.filter p).length) := by
  induction rows with
  | nil =>
    refine (Yields.ok _).imp (fun _ => False.elim) fun _ => ⟨?_, rfl⟩
    rintro e ⟨_, ⟨⟩, _⟩
  | cons row rest ih =>
    let keepRow : Except FieldError (List ε × Nat) :=
      reviseWhere chosen change rest >>= fun r => pure (row :: r.1, r.2)
    let changeRow : Except FieldError (List ε × Nat) :=
      change row >>= fun new => reviseWhere chosen change rest >>= fun r => pure (new :: r.1, r.2 + 1)
    show Yields (chosen row >>= fun b => if b then changeRow else keepRow) _ _
    have hrow := h row
    cases hp : p row with
    | false =>
      rw [hp] at hrow
      refine (hrow.bind (f := fun b => if b then changeRow else keepRow) fun _ =>
        ih.map fun r => (row :: r.1, r.2)).imp ?_ fun hnone => ⟨?_, ?_⟩
      · rintro e (he | ⟨r, hr, he⟩)
        · exact ⟨row, List.mem_cons_self, .inl he⟩
        · exact ⟨r, List.mem_cons_of_mem row hr, he⟩
      · rintro e ⟨r, hr, he⟩
        rcases List.mem_cons.mp hr with rfl | hr
        · rcases he with he | ⟨hr, _⟩
          · exact hnone e (.inl he)
          · exact Bool.false_ne_true (hp.symm.trans hr)
        · exact hnone e (.inr ⟨r, hr, he⟩)
      · rw [List.map_cons, List.filter_cons, hp]
        rfl
    | true =>
      rw [hp] at hrow
      refine (hrow.bind (f := fun b => if b then changeRow else keepRow) fun _ =>
        (h' row).bind fun _ => ih.map fun r => (revised row :: r.1, r.2 + 1)).imp ?_
          fun hnone => ⟨?_, ?_⟩
      · rintro e (he | he | ⟨r, hr, he⟩)
        · exact ⟨row, List.mem_cons_self, .inl he⟩
        · exact ⟨row, List.mem_cons_self, .inr ⟨hp, he⟩⟩
        · exact ⟨r, List.mem_cons_of_mem row hr, he⟩
      · rintro e ⟨r, hr, he⟩
        rcases List.mem_cons.mp hr with rfl | hr
        · rcases he with he | ⟨_, he⟩
          · exact hnone e (.inl he)
          · exact hnone e (.inr (.inl he))
        · exact hnone e (.inr (.inr ⟨r, hr, he⟩))
      · rw [List.map_cons, List.filter_cons, hp]
        rfl

end

end RowSpec
