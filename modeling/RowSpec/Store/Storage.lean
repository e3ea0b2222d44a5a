import RowSpec.Store.Session

/-!
# Storage

Tables shared by several sessions. A write through a session that is in a transaction goes to the
session's copy of the table, any other write to the table itself.

* `Storage.table`   a table as seen through a session, or without one;
* `Storage.write`   a write through a session, or without one;
* `Storage.begin`, `Storage.save`, `Storage.commit`, `Storage.rollback`.
-/

namespace RowSpec

abbrev SessionId := String

structure Storage (ε : Type) where
  tables : TableId → Table ε := fun _ => {}
  sessions : SessionId → Session ε := fun _ => {}

namespace Storage

variable {ε : Type}

def setSession (st : Storage ε) (i : SessionId) (s : Session ε) : Storage ε :=
  { st with sessions := replace st.sessions i s }

def setTable (st : Storage ε) (k : TableId) (t : Table ε) : Storage ε :=
  { st with tables := replace st.tables k t }

/-! ## transactions -/

def onSession {α : Type} (st : Storage ε) (i : SessionId)
    (call : Session ε → Session ε × Except StorageError α) : Storage ε × Except StorageError α :=
  let (s, result) := call (st.sessions i)
  (st.setSession i s, result)

def begin (st : Storage ε) (i : SessionId) (cancelled : Bool) :
    Storage ε × Except StorageError Unit :=
  st.onSession i (Session.begin cancelled)

def save (st : Storage ε) (i : SessionId) (cancelled : Bool) :
    Storage ε × Except StorageError Nat :=
  st.onSession i (Session.save cancelled)

def rollback (st : Storage ε) (i : SessionId) (cancelled : Bool) :
    Storage ε × Except StorageError Unit :=
  st.onSession i (Session.rollback cancelled)

def commit (st : Storage ε) (i : SessionId) (cancelled : Bool) :
    Storage ε × Except StorageError Unit :=
  let (s, tables, result) := (st.sessions i).commit cancelled st.tables
  ({ tables, sessions := replace st.sessions i s }, result)

/-! ## rows -/

def table (st : Storage ε) (through : Option SessionId) (k : TableId) : Table ε :=
  match through with
  | some i => (st.sessions i).table st.tables k
  | none => st.tables k

/-- The place for rows of a table: a copy in a transaction, or else the table itself. -/
def putRows (st : Storage ε) (through : Option SessionId) (k : TableId) (rows : List ε) :
    Storage ε :=
  match through.bind fun i => ((st.sessions i).staged.map fun staged => (i, staged)) with
  | some (i, staged) =>
    st.setSession i { st.sessions i with staged := some (replace staged k (some rows)) }
  | none => st.setTable k ((st.tables k).withRows rows)

/-- In a transaction the first write makes the copy, whether the write succeeds or not. -/
def write [Entity ε] (st : Storage ε) (through : Option SessionId) (k : TableId)
    (w : Write ε) (cancelled : Bool) : Storage ε × Except StorageError (Effect ε) :=
  if cancelled then (st, .error .cancelled)
  else
    match (st.table through k).apply w with
    | .ok (rows, effect) => (st.putRows through k rows, .ok effect)
    | .error e => (st.putRows through k (st.table through k).rows, .error e)

end Storage

end RowSpec
