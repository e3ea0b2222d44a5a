import RowSpec.Proofs.Repository.Paging

/-!
# The first row of a result

Whoever wants the first row of a result does not read the others where that can be avoided: without
a transform, a specification that leaves open how many rows to take is told to take one.

* `Facets.setTake_eq_ok`   when a number of rows can be set, and what it does to the window;
* `fetch_setTake`          taking one row keeps the first one;
* `first_eq_head_list`     the first row is the head of the list, with the same failures.
-/

namespace RowSpec

variable {ρ : Type} [Record ρ] {f f' : Facets} {n : Nat}

/-! ## one row -/

theorem Facets.setTake_eq_ok (h : f.setTake n = .ok f') :
    ∃ skip, f' = { f with paging := .window skip (some n) } ∧
      ∀ limits, f.window limits = (skip, none) := by
  unfold setTake at h
  split at h
  · cases h
  · cases hp : f.paging with
    | none =>
      rw [hp] at h
      cases h
      exact ⟨none, rfl, fun limits => by rw [window, hp]⟩
    | window skip take =>
      rw [hp] at h
      cases take with
      | none =>
        cases h
        exact ⟨skip, rfl, fun limits => by rw [window, hp]⟩
      | some m => cases h
    | page request =>
      rw [hp] at h
      cases h

omit [Record ρ] in
theorem head?_cutRows_one (skip : Option Nat) (rows : List ρ) :
    (cutRows skip (some 1) rows).head? = (cutRows skip none rows).head? := by
  rw [cutRows, cutRows, List.head?_take, if_neg Nat.one_ne_zero]

/-- The rows are selected and arranged alike, so only the cut differs. -/
theorem fetch_setTake (h : f.setTake 1 = .ok f') (limits : PageLimits) (filters : List Expr)
    (rows : List ρ) (cancelled : Bool) :
    ((shapeQuery limits f' ⟨rows, filters, []⟩).fetch cancelled).map List.head? =
      ((shapeQuery limits f ⟨rows, filters, []⟩).fetch cancelled).map List.head? := by
  cases cancelled with
  | true => rfl
  | false =>
    obtain ⟨skip, rfl, hwindow⟩ := Facets.setTake_eq_ok h
    rw [Query.fetch_live, Query.fetch_live, Facets.run_shapeQuery_cut, Facets.run_shapeQuery_cut,
      hwindow]
    show (((f.arranged ⟨rows, filters, []⟩).map (cutRows skip (some 1))).mapError _).map _ = _
    cases f.arranged ⟨rows, filters, []⟩ with
    | error e => rfl
    | ok out => exact congrArg Except.ok (head?_cutRows_one skip out)

/-! ## the first row -/

/-- **The first row** of a specification is the head of what it lists: none when that is empty, and
a failure when listing fails, the same one. -/
theorem first_eq_head_list (t : Table ρ) (limits : PageLimits) (defaults : Option Config)
    (spec : Specification ρ) (cancelled : Bool) :
    (Reader.first ⟨t.query, limits, defaults⟩ spec cancelled).result =
      (Reader.list ⟨t.query, limits, defaults⟩ spec cancelled).result.map List.head? := by
  show (Reader.list ⟨t.query, limits, defaults⟩ (narrowed spec) cancelled).result.map _ = _
  by_cases hpost : spec.post.isSome
  · rw [narrowed_of_post hpost]
  · rw [narrowed, if_neg hpost]
    cases htake : spec.toFacets.setTake 1 with
    | error e => rfl
    | ok f =>
      rw [Option.not_isSome_iff_eq_none] at hpost
      have hfetch := fetch_setTake htake limits t.filters t.rows cancelled
      show ((((shapeQuery limits f t.query).fetch cancelled).map
        (applyPost spec.post)).mapError RepoError.storage).map _ =
          ((((shapeQuery limits spec.toFacets t.query).fetch cancelled).map
            (applyPost spec.post)).mapError RepoError.storage).map _
      rw [hpost]
      -- without a transform, the rows fetched are the rows listed
      have hlisted : ∀ x : Except StorageError (List ρ),
          ((x.map (applyPost none)).mapError RepoError.storage).map List.head? =
            (x.map List.head?).mapError RepoError.storage := by
        intro x
        cases x <;> rfl
      rw [hlisted, hlisted]
      exact congrArg (Except.mapError RepoError.storage) hfetch

end RowSpec
