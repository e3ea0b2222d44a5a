import RowSpec.Catalog.Basic
import RowSpec.Error.Repository
import RowSpec.Family
import RowSpec.UnitOfWork.Gate

/-!
# Units of work

A unit of work keeps one repository for each entity type and at most one transaction. Repositories
of type `ρ` and transactions of type `τ` come from outside.

* `Cell`         the place of one repository; its gate admits one construction at a time;
* `UnitOfWork`   the cells in use, the transaction, and the gate of transaction calls;
* `UnitOfWork.resolveInfo`   the variant that answers a request for an interface;
* `UnitOfWork.cellFor`         the cell of a request: a mutating request takes the place of a
                             read-only cell;
* `UnitOfWork.dispose`       releases everything, once.
-/

namespace RowSpec

abbrev CellId := Nat

structure Cell (ρ : Type) where
  info : RepositoryInfo
  gate : Gate := {}
  value : Option ρ := none

structure UnitOfWork (ρ τ : Type) where
  disposed : Bool := false
  /-- the cell in use for each entity type -/
  entries : List (EntityType × CellId) := []
  /-- all cells ever made, in order; one that is no longer in use may still have waiting tasks -/
  cells : List (Cell ρ) := []
  transaction : Option τ := none
  /-- begin, commit, rollback and close pass here one at a time -/
  gate : Gate := {}

namespace UnitOfWork

variable {ρ τ : Type}

/-! ## repositories -/

def entry? (u : UnitOfWork ρ τ) (e : EntityType) : Option CellId := u.entries.lookup e

def cell? (u : UnitOfWork ρ τ) (c : CellId) : Option (Cell ρ) := u.cells[c]?

def modifyCell (u : UnitOfWork ρ τ) (c : CellId) (change : Cell ρ → Cell ρ) : UnitOfWork ρ τ :=
  { u with cells := u.cells.modify c change }

/-- the variant kept for an entity type -/
def cachedInfo? (u : UnitOfWork ρ τ) (e : EntityType) : Option RepositoryInfo :=
  ((u.entry? e).bind u.cell?).map (·.info)

def cachedCount (u : UnitOfWork ρ τ) : Nat := u.entries.length

/-- Whether a request of a shape goes to the long variant; none when the identifier type is not
the entity's own. -/
def longId? (info : EntityInfo) : KeyShape → Option Bool
  | .longId => if info.hasLongId then some true else none
  | .generic id => if id = info.entity.idType then some info.hasLongId else none

/-- Entities with a long identifier answer generic requests with the long variant. -/
def variant (catalog : Catalog) (i : Interface) : Except RepoError RepositoryInfo :=
  match catalog.entityInfo? i.entity with
  | none => .error (.unknownEntity i.entity)
  | some info =>
    match longId? info i.shape with
    | none => .error (.incompatibleId i.entity i.shape.idType)
    | some longId =>
      match info.repository? i.access longId with
      | some r => .ok r
      | none => .error (.unsupported (.interface i))

def resolveInfo (u : UnitOfWork ρ τ) (catalog : Catalog) (i : Interface) :
    Except RepoError RepositoryInfo :=
  if u.disposed then .error .disposed else variant catalog i

/-- The event of an answer by another variant. -/
def substitution (i : Interface) (info : RepositoryInfo) : List Event :=
  if info.interface = i then [] else [.substitutingLongId]

/-- A new cell for the type of the variant. -/
def openCell (u : UnitOfWork ρ τ) (info : RepositoryInfo) : UnitOfWork ρ τ × CellId :=
  ({ u with
      entries := setKey info.entity u.cells.length u.entries
      cells := u.cells ++ [{ info }] },
    u.cells.length)

def cellFor (u : UnitOfWork ρ τ) (info : RepositoryInfo) : UnitOfWork ρ τ × CellId × List Event :=
  match u.entry? info.entity with
  | none =>
    let (u, c) := u.openCell info
    (u, c, [])
  | some c =>
    match u.cell? c with
    | some cell =>
      if cell.info.access.satisfies info.access then (u, c, [])
      else
        let (u, c) := u.openCell info
        (u, c, [.upgrading])
    | none => (u, c, [])

/-! ## transaction -/

def hasTransaction (u : UnitOfWork ρ τ) : Bool := !u.disposed && u.transaction.isSome

/-- A transaction is kept unless the unit has been disposed. -/
def keepTransaction (u : UnitOfWork ρ τ) (tx : τ) : UnitOfWork ρ τ :=
  if u.disposed then u else { u with transaction := some tx }

def takeTransaction (u : UnitOfWork ρ τ) : UnitOfWork ρ τ := { u with transaction := none }

/-! ## disposal -/

def dispose (u : UnitOfWork ρ τ) : UnitOfWork ρ τ × List Event :=
  if u.disposed then (u, [])
  else
    ({ u with disposed := true, entries := [], transaction := none },
      (if u.transaction.isSome then [.disposedUncommitted] else []) ++ [.unitDisposed])

theorem dispose_disposed (u : UnitOfWork ρ τ) : u.dispose.1.disposed = true := by
  unfold dispose; split <;> simp_all

theorem hasTransaction_of_disposed {u : UnitOfWork ρ τ} (h : u.disposed = true) :
    u.hasTransaction = false := by simp [hasTransaction, h]

end UnitOfWork

end RowSpec
