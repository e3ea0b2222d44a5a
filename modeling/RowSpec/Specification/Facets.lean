import RowSpec.Duration
import RowSpec.Error.Spec
import RowSpec.Expr.Reference
import RowSpec.Query.Directive

/-!
# Facets of a specification

* `Facets`          what a specification asks of a query, as data: predicates, orderings, grouping,
                    includes, search, paging, tracking and caching hints;
* `Facets.addOrdering`, `Facets.setGroup`, `Facets.setTake`, `Facets.setSkip`, `Facets.setPage`
                    the settings that may be refused.
-/

namespace RowSpec

/-- Whether an ordering leads or breaks ties. -/
inductive OrderRank
  | primary | secondary
deriving DecidableEq, Repr

def OrderRank.name : OrderRank → String
  | primary => "primary"
  | secondary => "secondary"

structure OrderEntry where
  key : SortKey
  rank : OrderRank
deriving DecidableEq

/-- Whether an include starts a chain or goes on from the one before. -/
inductive IncludeKind
  | start | onward
deriving DecidableEq, Repr

def IncludeKind.name : IncludeKind → String
  | start => "Include"
  | onward => "ThenInclude"

/-- An eager-load hint; `path` leads from the root entity and ends with `navigation`. -/
structure IncludeEntry where
  path : String
  navigation : Navigation
  kind : IncludeKind
deriving DecidableEq

/-- A search condition. Conditions of one group are alternatives, groups must all hold. -/
structure SearchEntry where
  field : String
  pattern : String
  group : Nat
deriving DecidableEq

def SearchEntry.toExpr (s : SearchEntry) : Expr := .like s.field s.pattern

/-- A request for a page by number and size; any numbers are accepted here. -/
structure PageRequest where
  number : Nat
  size : Nat
deriving DecidableEq, Repr

/-- A window or a page request, never both. -/
inductive Paging
  | none
  | window (skip take : Option Nat)
  | page (request : PageRequest)
deriving DecidableEq, Repr

namespace Paging

def takeCount? : Paging → Option Nat
  | window _ take => take
  | _ => Option.none

def skipCount? : Paging → Option Nat
  | window skip _ => skip
  | _ => Option.none

def request? : Paging → Option PageRequest
  | page request => some request
  | _ => Option.none

end Paging

inductive ExpirationMode
  | absolute | sliding
deriving DecidableEq, Repr

def ExpirationMode.name : ExpirationMode → String
  | absolute => "absolute"
  | sliding => "sliding"

def ExpirationMode.ofName? (s : String) : Option ExpirationMode :=
  [absolute, sliding].find? (·.name = s)

theorem ExpirationMode.ofName?_name (m : ExpirationMode) : ofName? m.name = some m := by
  cases m <;> decide

/-- Hints for a cache of results; what is not set is left to the configuration. -/
structure CacheHints where
  mode : Option ExpirationMode := none
  timeout : Option Duration := none
deriving DecidableEq, Repr

structure Facets where
  predicates : List Expr := []
  orderings : List OrderEntry := []
  groupKey : Option String := none
  includes : List IncludeEntry := []
  includePaths : List String := []
  searches : List SearchEntry := []
  paging : Paging := .none
  tracking : TrackingMode := .noTracking
  splitQuery : Bool := false
  ignoreQueryFilters : Bool := false
  /-- present when caching is on -/
  cache : Option CacheHints := none
deriving DecidableEq

namespace Facets

def hasPrimary (f : Facets) : Bool := f.orderings.any (·.rank = .primary)

/-- A primary ordering, of which there is at most one. -/
def addOrdering (key : SortKey) (f : Facets) : Except SpecError Facets :=
  if f.hasPrimary then .error .duplicateOrderBy
  else .ok { f with orderings := f.orderings ++ [⟨key, .primary⟩] }

def addTieBreak (key : SortKey) (f : Facets) : Facets :=
  { f with orderings := f.orderings ++ [⟨key, .secondary⟩] }

def setGroup (key : String) (f : Facets) : Except SpecError Facets :=
  if f.groupKey.isSome then .error .duplicateGroupBy else .ok { f with groupKey := some key }

/-- largest count that take and skip accept -/
def maxCount : Nat := 0x7FFFFFFFFFFFFFFF

def setTake (count : Nat) (f : Facets) : Except SpecError Facets :=
  if count > maxCount then .error (.countTooLarge .take)
  else match f.paging with
    | .none => .ok { f with paging := .window none (some count) }
    | .window skip none => .ok { f with paging := .window skip (some count) }
    | .window _ (some _) => .error .duplicateTake
    | .page _ => .error (.duplicatePagination .take)

def setSkip (count : Nat) (f : Facets) : Except SpecError Facets :=
  if count > maxCount then .error (.countTooLarge .skip)
  else match f.paging with
    | .none => .ok { f with paging := .window (some count) none }
    | .window none take => .ok { f with paging := .window (some count) take }
    | .window (some _) _ => .error .duplicateSkip
    | .page _ => .error (.duplicatePagination .skip)

def setPage (request : PageRequest) (f : Facets) : Except SpecError Facets :=
  match f.paging with
  | .none => .ok { f with paging := .page request }
  | .page _ => .error .duplicatePaginationFilter
  | .window .. => .error (.duplicatePagination .paginationFilter)

/-- Turning caching on keeps the hints given before, turning it off drops them. -/
def setCaching (enabled : Bool) (f : Facets) : Facets :=
  { f with cache := if enabled then some (f.cache.getD {}) else none }

/-- Hints are kept only while caching is on. -/
def hint (change : CacheHints → CacheHints) (f : Facets) : Facets :=
  { f with cache := f.cache.map change }

end Facets

end RowSpec
