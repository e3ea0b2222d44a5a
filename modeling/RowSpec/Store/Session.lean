import RowSpec.Family
import RowSpec.Store.Table

/-!
# Sessions

A session has at most one transaction. While it lasts, writes go to copies of the tables, and a
commit puts the copies in the place of the tables.

* `Session`            the copies staged, the calls counted, and a commit to be rejected;
* `Remote`             a session at the end of a wire: calls take time and may be refused;
* `Session.begin`, `Session.save`, `Session.commit`, `Session.rollback`;
* `Session.table`      a table as the session sees it.
-/

namespace RowSpec

abbrev TableId := String

/-- calls on a remote session that can be refused -/
inductive RemoteCall
  | begin | save | rollback
deriving DecidableEq, Repr

structure Remote where
  /-- turns that a call waits for the wire -/
  delay : Nat := 0
  /-- changes that the far side saves by itself -/
  savedThere : Nat := 0
  /-- how the next call of each kind is refused -/
  refusals : RemoteCall → Option Fault := fun _ => none

structure Session (ε : Type) where
  /-- copies of the tables written in the transaction, none outside of one -/
  staged : Option (TableId → Option (List ε)) := none
  begun : Nat := 0
  committed : Nat := 0
  rolledBack : Nat := 0
  saved : Nat := 0
  rejectsCommit : Bool := false
  remote : Option Remote := none

namespace Session

variable {ε : Type}

def inTransaction (s : Session ε) : Bool := s.staged.isSome

def delay (s : Session ε) : Nat := (s.remote.map (·.delay)).getD 0

/-! ## refusals -/

def refusal? (s : Session ε) (call : RemoteCall) : Option Fault :=
  s.remote.bind (·.refusals call)

def setRefusal (s : Session ε) (call : RemoteCall) (fault : Option Fault) : Session ε :=
  { s with remote := s.remote.map fun r => { r with refusals := replace r.refusals call fault } }

/-- A refusal stands for one call, which does not reach the session. -/
def overWire {α : Type} (call : RemoteCall)
    (go : Session ε → Session ε × Except StorageError α) (s : Session ε) :
    Session ε × Except StorageError α :=
  match s.refusal? call with
  | some fault => (s.setRefusal call none, .error (.failed fault))
  | none => go s

/-! ## transactions -/

def begin (cancelled : Bool) : Session ε → Session ε × Except StorageError Unit :=
  overWire .begin fun s =>
    if cancelled then (s, .error .cancelled)
    else if s.inTransaction then (s, .error (.failed .transactionActive))
    else ({ s with staged := some fun _ => none, begun := s.begun + 1 }, .ok ())

/-- Nothing waits to be saved here, so only changes of the far side are counted. -/
def save (cancelled : Bool) : Session ε → Session ε × Except StorageError Nat :=
  overWire .save fun s =>
    if cancelled then (s, .error .cancelled)
    else ({ s with saved := s.saved + 1 }, .ok ((s.remote.map (·.savedThere)).getD 0))

def rollback (cancelled : Bool) : Session ε → Session ε × Except StorageError Unit :=
  overWire .rollback fun s =>
    if cancelled then (s, .error .cancelled)
    else ({ s with staged := none, rolledBack := s.rolledBack + 1 }, .ok ())

/-- Tables with the staged copies in their place. -/
def publish (staged : TableId → Option (List ε)) (tables : TableId → Table ε) :
    TableId → Table ε :=
  fun k => match staged k with
    | some rows => (tables k).withRows rows
    | none => tables k

/-- A rejected commit leaves the transaction as it is. -/
def commit (cancelled : Bool) (tables : TableId → Table ε) (s : Session ε) :
    Session ε × (TableId → Table ε) × Except StorageError Unit :=
  if cancelled then (s, tables, .error .cancelled)
  else if s.rejectsCommit then
    ({ s with rejectsCommit := false }, tables, .error (.failed .commitRejected))
  else
    ({ s with staged := none, committed := s.committed + 1 },
      publish (s.staged.getD fun _ => none) tables, .ok ())

/-! ## rows -/

def table (s : Session ε) (tables : TableId → Table ε) (k : TableId) : Table ε :=
  publish (s.staged.getD fun _ => none) tables k

theorem publish_none (tables : TableId → Table ε) : publish (fun _ => none) tables = tables := rfl

theorem table_of_not_inTransaction {s : Session ε} (h : s.staged = none)
    (tables : TableId → Table ε) (k : TableId) : s.table tables k = tables k := by
  simp [table, h, publish_none]

end Session

end RowSpec
