import RowSpec.Expr.Basic

/-!
# Query directives

* `Directive`   one shaping call on a query, in the order in which the calls were made;
* `SortKey`     a field and a direction.
-/

namespace RowSpec

inductive Direction
  | asc | desc
deriving DecidableEq, Repr

def Direction.name : Direction → String
  | asc => "asc"
  | desc => "desc"

def Direction.ofName? (s : String) : Option Direction := [asc, desc].find? (·.name = s)

/-- how closely the storage follows changes of the rows read -/
inductive TrackingMode
  | tracking | noTracking | noTrackingWithIdentityResolution
deriving DecidableEq, Repr

def TrackingMode.name : TrackingMode → String
  | tracking => "tracking"
  | noTracking => "no_tracking"
  | noTrackingWithIdentityResolution => "no_tracking_with_identity_resolution"

def TrackingMode.ofName? (s : String) : Option TrackingMode :=
  [tracking, noTracking, noTrackingWithIdentityResolution].find? (·.name = s)

theorem Direction.ofName?_name (d : Direction) : ofName? d.name = some d := by cases d <;> decide

theorem TrackingMode.ofName?_name (m : TrackingMode) : ofName? m.name = some m := by
  cases m <;> decide

structure SortKey where
  field : String
  direction : Direction
deriving DecidableEq

inductive Directive
  | ignoreQueryFilters
  | filter (predicate : Expr)
  | include (path : String)
  | groupBy (key : String)
  | orderBy (key : SortKey)
  | thenBy (key : SortKey)
  | skip (count : Nat)
  | take (count : Nat)
  | tracking (mode : TrackingMode)
  | splitQuery
deriving DecidableEq

end RowSpec
