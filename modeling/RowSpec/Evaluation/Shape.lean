import RowSpec.Evaluation.Page
import RowSpec.Journal
import RowSpec.Query.Basic
import RowSpec.Specification.Basic

/-!
# Shaping a query

The facets of a specification become directives in a fixed order: ignored query filters, predicates,
search groups, includes, grouping, ordering, paging, tracking, split query.

* `Facets.criteriaDirectives`   the directives that select rows;
* `Facets.directives`           all of them;
* `Facets.predicate?`           the selecting facets joined into one predicate.
-/

namespace RowSpec

namespace Facets

/-! ## criteria -/

/-- the numbers of the search groups, ascending -/
def groupNumbers (f : Facets) : List Nat :=
  ((f.searches.map (·.group)).mergeSort (· ≤ ·)).eraseDups

/-- the alternatives of a search group, in order of declaration -/
def groupExpr? (f : Facets) (group : Nat) : Option Expr :=
  Expr.any? ((f.searches.filter (·.group = group)).map (·.toExpr))

def searchExprs (f : Facets) : List Expr := f.groupNumbers.filterMap f.groupExpr?

/-- predicates that must all hold -/
def criteria (f : Facets) : List Expr := f.predicates ++ f.searchExprs

def criteriaDirectives (f : Facets) : List Directive :=
  (if f.ignoreQueryFilters then [.ignoreQueryFilters] else []) ++ f.criteria.map .filter

def predicate? (f : Facets) : Option Expr := Expr.all? f.criteria

/-! ## all facets -/

/-- typed paths, then raw ones, each at its first occurrence -/
def includeOrder (f : Facets) : List String :=
  (f.includes.map (·.path) ++ f.includePaths).eraseDups

/-- the primary key, then the others -/
def sortKeys (f : Facets) : List SortKey :=
  ((f.orderings.find? (·.rank = .primary)).toList ++
    f.orderings.filter (·.rank = .secondary)).map (·.key)

def orderDirectives (f : Facets) : List Directive :=
  match f.sortKeys with
  | [] => []
  | k :: ks => .orderBy k :: ks.map .thenBy

/-- the rows to skip and to take -/
def window (limits : PageLimits) (f : Facets) : Option Nat × Option Nat :=
  match f.paging with
  | .none => (none, none)
  | .window skip take => (skip, take)
  | .page r => (some (limits.window r).1, some (limits.window r).2)

def pagingDirectives (limits : PageLimits) (f : Facets) : List Directive :=
  (f.window limits).1.toList.map .skip ++ (f.window limits).2.toList.map .take

def directives (limits : PageLimits) (f : Facets) : List Directive :=
  f.criteriaDirectives ++ f.includeOrder.map .include ++ f.groupKey.toList.map .groupBy ++
    f.orderDirectives ++ f.pagingDirectives limits ++ [.tracking f.tracking] ++
    (if f.splitQuery then [.splitQuery] else [])

/-! ## events -/

def criteriaEvents (f : Facets) : List Event :=
  if f.ignoreQueryFilters then [.ignoringQueryFilters] else []

def events (f : Facets) : List Event :=
  f.criteriaEvents ++ (if f.includeOrder.isEmpty then [] else [.applyingIncludes]) ++
    (if f.groupKey.isSome then [.applyingGroupBy] else []) ++
    (if f.sortKeys.isEmpty then [] else [.appliedOrdering]) ++
    (if f.paging.request?.isSome then [.applyingPage] else [])

end Facets

end RowSpec
