import RowSpec.Error.Storage
import RowSpec.Expr.Eval
import RowSpec.Query.Directive

/-!
# Queries over rows

A `Query` is a list of rows, the default filters of its storage, and the directives given so far.
Directives only record what is wanted; `Query.fetch` replays them in order.

* `keep`       the rows on which a predicate holds;
* `cluster`    rows of one key together, keys in order of first appearance;
* `sortBy`     stable sort by several keys;
* `replay`     the directives one after the other; a `thenBy` sorts again, by one more key;
* `Query.fetch`, `Query.count`, `Query.any`.
-/

namespace RowSpec

variable {ρ : Type} [Record ρ]

/-! ## stages -/

def keep (predicate : Expr) : List ρ → Except FieldError (List ρ)
  | [] => .ok []
  | row :: rest => do
    let b ← predicate.holds row
    let kept ← keep predicate rest
    pure (if b then row :: kept else kept)

/-- all predicates, one after the other -/
def keepAll : List Expr → List ρ → Except FieldError (List ρ)
  | [], rows => .ok rows
  | p :: ps, rows => do keepAll ps (← keep p rows)

/-- The row joins the group of its key, or opens a new group at the end. -/
def joinGroup (key : Value) (row : ρ) : List (Value × List ρ) → List (Value × List ρ)
  | [] => [(key, [row])]
  | (k, members) :: rest =>
    if k = key then (k, members ++ [row]) :: rest else (k, members) :: joinGroup key row rest

/-- each row with its value of a field -/
def withKey (key : String) : List ρ → Except FieldError (List (Value × ρ))
  | [] => .ok []
  | row :: rest => do
    let v ← Record.fetch row key
    pure ((v, row) :: (← withKey key rest))

def cluster (key : String) (rows : List ρ) : Except FieldError (List ρ) := do
  let keyed ← withKey key rows
  let groups := keyed.foldl (fun groups kr => joinGroup kr.1 kr.2 groups) []
  pure (groups.flatMap (·.2))

def Direction.orient : Direction → Value → Value → Ordering
  | asc, a, b => a.sortOrder b
  | desc, a, b => b.sortOrder a

/-- Lexicographic order of key values, each in its own direction. -/
def compareKeys : List SortKey → List Value → List Value → Ordering
  | k :: ks, a :: as, b :: bs => (k.direction.orient a b).then (compareKeys ks as bs)
  | _, _, _ => .eq

/-- the values of a row's sort keys -/
def keyValues (row : ρ) : List SortKey → Except FieldError (List Value)
  | [] => .ok []
  | k :: ks => do
    let v ← Record.fetch row k.field
    pure (v :: (← keyValues row ks))

def withKeys (keys : List SortKey) : List ρ → Except FieldError (List (List Value × ρ))
  | [] => .ok []
  | row :: rest => do
    let vs ← keyValues row keys
    pure ((vs, row) :: (← withKeys keys rest))

def sortBy (keys : List SortKey) (rows : List ρ) : Except FieldError (List ρ) := do
  let keyed ← withKeys keys rows
  pure ((keyed.mergeSort fun a b => compareKeys keys a.1 b.1 != .gt).map (·.2))

/-! ## replay -/

/-- The directives applied to rows whose current sort is by `keys`. -/
def replay (keys : List SortKey) : List Directive → List ρ → Except FieldError (List ρ)
  | [], rows => .ok rows
  | .filter p :: ds, rows => do replay keys ds (← keep p rows)
  | .groupBy key :: ds, rows => do replay keys ds (← cluster key rows)
  | .orderBy k :: ds, rows => do replay [k] ds (← sortBy [k] rows)
  | .thenBy k :: ds, rows => do replay (keys ++ [k]) ds (← sortBy (keys ++ [k]) rows)
  | .skip n :: ds, rows => replay keys ds (rows.drop n)
  | .take n :: ds, rows => replay keys ds (rows.take n)
  | .ignoreQueryFilters :: ds, rows | .include _ :: ds, rows | .tracking _ :: ds, rows
  | .splitQuery :: ds, rows => replay keys ds rows

structure Query (ρ : Type) where
  rows : List ρ
  /-- default predicates of the storage -/
  filters : List Expr := []
  directives : List Directive := []

namespace Query

def shape (q : Query ρ) (ds : List Directive) : Query ρ :=
  { q with directives := q.directives ++ ds }

def ignoresQueryFilters (q : Query ρ) : Bool := q.directives.contains .ignoreQueryFilters

/-- The rows selected, for a token that has not been cancelled. -/
def run (q : Query ρ) : Except FieldError (List ρ) := do
  let rows ← keepAll (if q.ignoresQueryFilters then [] else q.filters) q.rows
  replay [] q.directives rows

def fetch (q : Query ρ) (cancelled : Bool) : Except StorageError (List ρ) :=
  if cancelled then .error .cancelled
  else match q.run with
    | .ok rows => .ok rows
    | .error e => .error (.field e)

def count (q : Query ρ) (cancelled : Bool) : Except StorageError Nat :=
  (q.fetch cancelled).map List.length

def any (q : Query ρ) (cancelled : Bool) : Except StorageError Bool :=
  (q.fetch cancelled).map fun rows => !rows.isEmpty

omit [Record ρ] in
theorem shape_nil (q : Query ρ) : q.shape [] = q := by simp [shape]

omit [Record ρ] in
theorem shape_append (q : Query ρ) (ds es : List Directive) :
    q.shape (ds ++ es) = (q.shape ds).shape es := by simp [shape]

end Query

end RowSpec
