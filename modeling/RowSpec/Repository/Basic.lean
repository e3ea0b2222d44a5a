import RowSpec.Catalog.Basic
import RowSpec.Repository.Reader
import RowSpec.Store.Storage

/-!
# Repositories

A repository serves one table, through a session or without one.

* `Change`               the writes of a repository, in terms of specifications;
* `Repository.reader`    what the repository reads from at a moment;
* `Repository.change`    a write with its events.
-/

namespace RowSpec

structure Repository where
  /-- tells repositories apart -/
  id : Nat
  info : RepositoryInfo
  table : TableId
  session : Option SessionId
  limits : PageLimits
  defaults : Option Config
  /-- the time that disabled rows are stamped with -/
  clock : Instant

inductive Change (ε : Type) [Entity ε]
  | insert (row : ε)
  | update (row : ε)
  | delete (id : Entity.Id ε)
  | updateBy (u : Update ε)
  | deleteBy (spec : Specification ε)
  | disableBy (spec : Specification ε)

namespace Change

variable {ε : Type} [Entity ε]

def write (clock : Instant) : Change ε → Write ε
  | insert row => .insert row
  | update row => .update row
  | delete id => .delete id
  | updateBy u => .updateWhere u.command
  | deleteBy spec => .deleteWhere spec.deleteCommand
  | disableBy spec => .updateWhere (spec.disableCommand clock)

/-- what is reported when the write has succeeded -/
def events : Change ε → List Event
  | insert _ | update _ | delete _ => []
  | updateBy _ => [.bulkUpdate]
  | deleteBy _ => [.bulkDelete]
  | disableBy _ => [.rowsDisabled]

end Change

namespace Repository

variable {ε : Type} [Entity ε]

def reader (r : Repository) (st : Storage ε) : Reader ε :=
  ⟨(st.table r.session r.table).query, r.limits, r.defaults⟩

def change (r : Repository) (st : Storage ε) (c : Change ε) (cancelled : Bool) :
    Storage ε × Traced (Except RepoError (Effect ε)) :=
  match st.write r.session r.table (c.write r.clock) cancelled with
  | (st, .ok effect) => (st, ⟨c.events, .ok effect⟩)
  | (st, .error e) => (st, .silent (.error (.storage e)))

end Repository

end RowSpec
