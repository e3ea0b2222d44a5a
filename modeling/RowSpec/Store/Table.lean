import RowSpec.Evaluation.Command
import RowSpec.Query.Basic

/-!
# Tables

A table keeps rows in the order of their insertion, with default filters for queries and bulk
commands. Rows are known by their identifiers, under the equality of the identifiers.

* `Write`          what can be done to the rows of a table;
* `Effect`         what a write reports;
* `Table.apply`    the rows after a write with its effect; a write that fails leaves no rows behind;
* `reviseWhere`, `dropWhere`   bulk changes; one row that fails makes the whole change fail.
-/

namespace RowSpec

inductive Write (ε : Type) [Entity ε]
  | insert (row : ε)
  | update (row : ε)
  | delete (id : Entity.Id ε)
  | updateWhere (command : UpdateCommand)
  | deleteWhere (command : DeleteCommand)

inductive Effect (ε : Type)
  | inserted (row : ε)
  | changed (found : Bool)
  | affected (count : Nat)

/-- Whether the rows have stayed as they were. -/
def Effect.isNothing {ε : Type} : Effect ε → Bool
  | inserted _ => false
  | changed found => !found
  | affected count => count = 0

structure Table (ε : Type) where
  rows : List ε := []
  filters : List Expr := []
  /-- field that holds the identifier -/
  idField : String := "id"

variable {ε : Type} [Entity ε]

/-! ## single rows -/

def hasId (id : Entity.Id ε) (row : ε) : Bool := Entity.id row == id

/-- The first row of the same identifier gives way to the new one. -/
def replaceRow (new : ε) : List ε → List ε
  | [] => []
  | row :: rest =>
    if hasId (Entity.id new) row then new :: rest else row :: replaceRow new rest

def withoutId (id : Entity.Id ε) (rows : List ε) : List ε := rows.filter (!hasId id ·)

/-! ## bulk changes -/

/-- All predicates hold; the first one that does not hold decides. -/
def passes : List Expr → ε → Except FieldError Bool
  | [], _ => .ok true
  | p :: ps, row => do if ← p.holds row then passes ps row else pure false

/-- Whether a row is a target: the default filters come first, unless they are ignored. -/
def DeleteCommand.targets (c : DeleteCommand) (filters : List Expr) (row : ε) :
    Except FieldError Bool :=
  passes ((if c.ignoreQueryFilters then [] else filters) ++ c.predicate.toList) row

def assignAll : List Assignment → ε → Except FieldError ε
  | [], row => .ok row
  | a :: as, row => do assignAll as (← Record.setField row a.field a.value)

/-- The rows with the chosen ones changed, and how many these are. -/
def reviseWhere (chosen : ε → Except FieldError Bool) (change : ε → Except FieldError ε) :
    List ε → Except FieldError (List ε × Nat)
  | [] => .ok ([], 0)
  | row :: rest => do
    if ← chosen row then
      let new ← change row
      let (rows, n) ← reviseWhere chosen change rest
      pure (new :: rows, n + 1)
    else
      let (rows, n) ← reviseWhere chosen change rest
      pure (row :: rows, n)

/-- The rows without the chosen ones, and how many these are. -/
def dropWhere (chosen : ε → Except FieldError Bool) :
    List ε → Except FieldError (List ε × Nat)
  | [] => .ok ([], 0)
  | row :: rest => do
    let b ← chosen row
    let (rows, n) ← dropWhere chosen rest
    pure (if b then (rows, n + 1) else (row :: rows, n))

def ofBulk (r : Except FieldError (List ε × Nat)) : Except StorageError (List ε × Effect ε) :=
  match r with
  | .ok (rows, n) => .ok (rows, .affected n)
  | .error e => .error (.field e)

/-! ## writes -/

namespace Table

def query (t : Table ε) : Query ε := ⟨t.rows, t.filters, []⟩

def apply (t : Table ε) : Write ε → Except StorageError (List ε × Effect ε)
  | .insert row =>
    if t.rows.any (hasId (Entity.id row)) then
      .error (.failed (.duplicateKey t.idField (Entity.idValue row)))
    else .ok (t.rows ++ [row], .inserted row)
  | .update row => .ok (replaceRow row t.rows, .changed (t.rows.any (hasId (Entity.id row))))
  | .delete id => .ok (withoutId id t.rows, .changed (t.rows.any (hasId id)))
  | .updateWhere c =>
    ofBulk (reviseWhere (c.toDeleteCommand.targets t.filters) (assignAll c.assignments) t.rows)
  | .deleteWhere c => ofBulk (dropWhere (c.targets t.filters) t.rows)

def withRows (t : Table ε) (rows : List ε) : Table ε := { t with rows }

omit [Entity ε] in
theorem withRows_rows (t : Table ε) : t.withRows t.rows = t := rfl

omit [Entity ε] in
theorem withRows_withRows (t : Table ε) (xs ys : List ε) :
    (t.withRows xs).withRows ys = t.withRows ys := rfl

end Table

end RowSpec
