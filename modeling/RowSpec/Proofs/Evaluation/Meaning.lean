import Mathlib
import RowSpec.Evaluation.Run
import RowSpec.Proofs.Query.Replay
import RowSpec.Proofs.Specification.Orderings
import RowSpec.Record.Keyed

/-!
# The meaning of a specification

What the rows fetched for a specification are, in terms of its facets alone.

* `Facets.clauses`          what a row has to meet: default filters, predicates, search groups;
* `Facets.selected`         the rows that meet all of it, in their order;
* `Facets.meaning`          selected, gathered, sorted and cut;
* `Facets.Fault`            an evaluation that fails, or a key that a selected row lacks;
* `fetch_shapeQuery`        fetching the shaped query gives the meaning, or one of the faults.
-/

namespace RowSpec

namespace Facets

/-! ## definitions -/

/-- for each search group, in ascending order, its conditions -/
def searchClauses (f : Facets) : List Clause :=
  ((f.searches.map (·.group)).toFinset.sort (· ≤ ·)).map fun group =>
    (f.searches.filter (·.group = group)).map (·.toExpr)

def clauses (filters : List Expr) (f : Facets) : List Clause :=
  (((if f.ignoreQueryFilters then [] else filters) ++ f.predicates).map fun p => [p]) ++
    f.searchClauses

variable {ρ : Type} [Record ρ]

def selected (filters : List Expr) (rows : List ρ) (f : Facets) : List ρ :=
  rows.filter fun row => (f.clauses filters).all (Clause.meets row)

def meaning (limits : PageLimits) (filters : List Expr) (rows : List ρ) (f : Facets) : List ρ :=
  cutRows (f.window limits).1 (f.window limits).2
    (orderRows f.keysByRank (gatherRows f.groupKey (f.selected filters rows)))

/-- What can go wrong, with the error it gives. -/
def Fault (filters : List Expr) (rows : List ρ) (f : Facets) (e : FieldError) : Prop :=
  (∃ row ∈ rows, Clause.FailsAlong row e (f.clauses filters)) ∨
    (∃ name ∈ f.groupKey, Lacks name (f.selected filters rows) e) ∨
    ∃ k ∈ f.keysByRank, Lacks k.field (f.selected filters rows) e

/-! ## search groups -/

theorem groupNumbers_eq (f : Facets) :
    f.groupNumbers = (f.searches.map (·.group)).toFinset.sort (· ≤ ·) := by
  have hsorted : f.groupNumbers.Pairwise (· ≤ ·) := by
    have hs := List.pairwise_mergeSort' (· ≤ ·) (f.searches.map (·.group))
    exact hs.sublist (eraseDups_sublist _)
  have hperm : f.groupNumbers.Perm ((f.searches.map (·.group)).toFinset.sort (· ≤ ·)) := by
    have hnodup : f.groupNumbers.Nodup := nodup_eraseDups _
    refine (List.perm_ext_iff_of_nodup hnodup (Finset.sort_nodup _ _)).mpr fun group => ?_
    rw [Finset.mem_sort, List.mem_toFinset, groupNumbers, List.mem_eraseDups, List.mem_mergeSort]
  exact hperm.eq_of_pairwise' hsorted (Finset.pairwise_sort _ _)

theorem searchExprs_eq (f : Facets) : f.searchExprs = Clause.exprs f.searchClauses := by
  rw [searchExprs, groupNumbers_eq, Clause.exprs, searchClauses, List.filterMap_map]
  rfl

theorem searchClauses_ne_nil {f : Facets} {s : Clause} (hs : s ∈ f.searchClauses) : s ≠ [] := by
  obtain ⟨group, hgroup, rfl⟩ := List.mem_map.mp hs
  rw [Finset.mem_sort, List.mem_toFinset] at hgroup
  obtain ⟨entry, hentry, rfl⟩ := List.mem_map.mp hgroup
  refine List.ne_nil_of_mem (List.mem_map_of_mem (List.mem_filter.mpr ⟨hentry, ?_⟩))
  exact decide_eq_true rfl

theorem clauses_ne_nil {filters : List Expr} {f : Facets} {s : Clause}
    (hs : s ∈ f.clauses filters) : s ≠ [] := by
  rcases List.mem_append.mp hs with hs | hs
  · obtain ⟨p, _, rfl⟩ := List.mem_map.mp hs
    exact List.cons_ne_nil p []
  · exact searchClauses_ne_nil hs

theorem exprs_clauses (filters : List Expr) (f : Facets) :
    Clause.exprs (f.clauses filters) =
      (if f.ignoreQueryFilters then [] else filters) ++ f.criteria := by
  have hsingle : ∀ ps : List Expr, Clause.exprs (ps.map fun p => [p]) = ps := by
    intro ps
    rw [Clause.exprs, List.filterMap_map]
    exact List.filterMap_some
  rw [clauses, Clause.exprs_append, hsingle, ← searchExprs_eq, criteria, List.append_assoc]

/-! ## directives -/

theorem orderDirectives_eq (f : Facets) : f.orderDirectives = orderingDirectives f.sortKeys := by
  rw [orderDirectives]
  cases f.sortKeys <;> rfl

theorem contains_ignoreQueryFilters (limits : PageLimits) (f : Facets) :
    (f.directives limits).contains .ignoreQueryFilters = f.ignoreQueryFilters := by
  rw [directives, criteriaDirectives, orderDirectives_eq, pagingDirectives]
  have horder : ∀ keys, Directive.ignoreQueryFilters ∉ orderingDirectives keys := by
    intro keys
    cases keys <;> simp [orderingDirectives]
  cases f.ignoreQueryFilters <;> cases f.splitQuery <;> simp [horder]

theorem isSilent_ignoring (f : Facets) :
    ∀ d ∈ (if f.ignoreQueryFilters then [Directive.ignoreQueryFilters] else []), d.isSilent := by
  cases f.ignoreQueryFilters <;> simp [Directive.isSilent]

/-- the directives that come last and leave the rows alone -/
def closingDirectives (f : Facets) : List Directive :=
  .tracking f.tracking :: if f.splitQuery then [.splitQuery] else []

/-- the directives after those that select rows -/
def shapingDirectives (limits : PageLimits) (f : Facets) : List Directive :=
  f.includeOrder.map .include ++ (f.groupKey.toList.map .groupBy ++
    (orderingDirectives f.sortKeys ++ (f.pagingDirectives limits ++ f.closingDirectives)))

theorem directives_eq (limits : PageLimits) (f : Facets) :
    f.directives limits = (if f.ignoreQueryFilters then [.ignoreQueryFilters] else []) ++
      f.criteria.map .filter ++ f.shapingDirectives limits := by
  rw [directives, criteriaDirectives, shapingDirectives, closingDirectives, orderDirectives_eq]
  simp only [List.append_assoc, List.singleton_append]

end Facets

/-! ## fetching -/

variable {ρ : Type} [Record ρ] {f : Facets}

theorem replay_cutting (limits : PageLimits) (f : Facets) (keys : List SortKey) (rows : List ρ) :
    replay keys (f.pagingDirectives limits ++ f.closingDirectives) rows =
      .ok (cutRows (f.window limits).1 (f.window limits).2 rows) := by
  rw [Facets.pagingDirectives, replay_paging, Facets.closingDirectives]
  cases f.splitQuery <;> rfl

theorem replay_shaping (hf : f.Ranked) (limits : PageLimits) (rows : List ρ) :
    Yields (replay [] (f.shapingDirectives limits) rows)
      (fun e => (∃ name ∈ f.groupKey, Lacks name rows e) ∨ ∃ k ∈ f.keysByRank, Lacks k.field rows e)
      (cutRows (f.window limits).1 (f.window limits).2
        (orderRows f.keysByRank (gatherRows f.groupKey rows))) := by
  have hlast : ∀ (keys : List SortKey) (rows : List ρ),
      Yields (replay keys (f.pagingDirectives limits ++ f.closingDirectives) rows) (fun _ => False)
        (cutRows (f.window limits).1 (f.window limits).2 rows) := by
    intro keys rows
    rw [replay_cutting]
    exact Yields.ok _
  rw [Facets.shapingDirectives, replay_silent (by simp [Directive.isSilent]), hf.sortKeys_eq]
  apply (replay_groupBy f.groupKey (replay_ordering [] f.keysByRank fun keys =>
    hlast keys _)).congr
  intro e
  simp [lacks_congr mem_gatherRows]

theorem run_criteriaQuery (f : Facets) (filters : List Expr) (rows : List ρ) :
    (criteriaQuery f ⟨rows, filters, []⟩).run = keepAll (Clause.exprs (f.clauses filters)) rows := by
  have hdirectives : (criteriaQuery f ⟨rows, filters, []⟩).directives =
      (if f.ignoreQueryFilters then [.ignoreQueryFilters] else []) ++ f.criteria.map .filter ++ [] :=
    (List.append_nil _).symm
  have hignores : f.criteriaDirectives.contains .ignoreQueryFilters = f.ignoreQueryFilters := by
    rw [Facets.criteriaDirectives]
    cases f.ignoreQueryFilters <;> simp
  rw [Query.run_eq hdirectives f.isSilent_ignoring, Facets.exprs_clauses, Query.ignoresQueryFilters]
  show keepAll ((if f.criteriaDirectives.contains _ then _ else _) ++ _) _ >>= _ = _
  rw [hignores]
  exact bind_pure _

/-- The selecting facets come first, the others go on from the rows selected. -/
theorem run_shapeQuery (limits : PageLimits) (f : Facets) (filters : List Expr) (rows : List ρ) :
    (shapeQuery limits f ⟨rows, filters, []⟩).run =
      (criteriaQuery f ⟨rows, filters, []⟩).run >>= replay [] (f.shapingDirectives limits) := by
  rw [run_criteriaQuery, Query.run_eq (f.directives_eq limits) f.isSilent_ignoring,
    Facets.exprs_clauses, Query.ignoresQueryFilters]
  show keepAll ((if (f.directives limits).contains _ then _ else _) ++ _) _ >>= _ = _
  rw [Facets.contains_ignoreQueryFilters]
  rfl

theorem run_yields (hf : f.Ranked) (limits : PageLimits) (filters : List Expr) (rows : List ρ) :
    Yields (shapeQuery limits f ⟨rows, filters, []⟩).run (f.Fault filters rows)
      (f.meaning limits filters rows) := by
  rw [run_shapeQuery, run_criteriaQuery]
  exact (keepAll_yields (fun _ => Facets.clauses_ne_nil) rows).bind fun _ =>
    replay_shaping hf limits (f.selected filters rows)

/-- a row with a team, done or not -/
def sampleJob (id team : Int) (done : Bool) : Keyed :=
  { id := .number (.ofInt id), fields := [("team", .number (.ofInt team)), ("done", .bool done)] }

end RowSpec
