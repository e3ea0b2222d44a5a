import RowSpec.Error.Storage

/-!
# Journal

* `Event`      what the library reports while it works, with a `level` and a `message`;
* `Traced α`   a result with the events reported on the way to it.
-/

namespace RowSpec

inductive Level
  | debug | info | warn
deriving DecidableEq, Repr

def Level.name : Level → String
  | debug => "DEBUG"
  | info => "INFO"
  | warn => "WARN"

inductive Event
  | ignoringQueryFilters
  | applyingIncludes
  | applyingGroupBy
  | appliedOrdering
  | applyingPage
  | cacheEligible
  | bulkUpdate
  | bulkDelete
  | rowsDisabled
  | alreadyRegistered
  | registered
  | managerReady
  | unitOpened
  | substitutingLongId
  | upgrading
  | constructed
  | transactionAlreadyActive
  | transactionStarted
  | disposedWhileBeginning
  | orphanRollbackFailed
  | committed
  | savedWithoutTransaction
  | rolledBack
  | nothingToRollBack
  | rollingBackOnClose
  | disposedUncommitted
  | unitDisposed
deriving DecidableEq, Repr

namespace Event

def level : Event → Level
  | managerReady | transactionStarted | committed | savedWithoutTransaction | rolledBack
  | unitDisposed => .info
  | disposedWhileBeginning | orphanRollbackFailed | rollingBackOnClose | disposedUncommitted => .warn
  | _ => .debug

def message : Event → String
  | ignoringQueryFilters => "ignoring query filters"
  | applyingIncludes => "applying includes"
  | applyingGroupBy => "applying group by"
  | appliedOrdering => "applied ordering"
  | applyingPage => "applying pagination filter"
  | cacheEligible => "cache-eligible query"
  | bulkUpdate => "bulk update applied"
  | bulkDelete => "bulk delete applied"
  | rowsDisabled => "rows disabled"
  | alreadyRegistered => "entity already registered"
  | registered => "registered entity type"
  | managerReady => "repository manager initialized"
  | unitOpened => "unit of work opened"
  | substitutingLongId => "substituting long-id repository"
  | upgrading => "upgrading cached repository to mutating"
  | constructed => "constructed repository"
  | transactionAlreadyActive => "transaction already active"
  | transactionStarted => "transaction started"
  | disposedWhileBeginning => "disposed while beginning a transaction"
  | orphanRollbackFailed => "rollback of orphaned transaction failed"
  | committed => "transaction committed"
  | savedWithoutTransaction => "changes saved without transaction"
  | rolledBack => "transaction rolled back"
  | nothingToRollBack => "rollback without active transaction"
  | rollingBackOnClose => "rolling back active transaction on dispose"
  | disposedUncommitted => "disposed with an uncommitted transaction"
  | unitDisposed => "unit of work disposed"

end Event

structure Traced (α : Type) where
  events : List Event
  result : α

namespace Traced

variable {ε α β : Type}

def silent (x : α) : Traced α := ⟨[], x⟩

/-- Reports the events first. -/
def after (events : List Event) (t : Traced α) : Traced α := ⟨events ++ t.events, t.result⟩

/-- Goes on with a result, unless it is an error. -/
def andThen (t : Traced (Except ε α)) (next : α → Traced (Except ε β)) : Traced (Except ε β) :=
  match t.result with
  | .ok x => (next x).after t.events
  | .error e => ⟨t.events, .error e⟩

def map (f : α → β) (t : Traced α) : Traced β := ⟨t.events, f t.result⟩

theorem result_silent (x : α) : (silent x).result = x := rfl

theorem result_after (es : List Event) (t : Traced α) : (t.after es).result = t.result := rfl

theorem result_andThen (t : Traced (Except ε α)) (next : α → Traced (Except ε β)) :
    (t.andThen next).result = t.result.bind fun x => (next x).result := by
  unfold andThen
  cases t.result <;> rfl

end Traced

end RowSpec
