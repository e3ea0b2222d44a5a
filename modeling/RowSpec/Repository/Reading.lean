import RowSpec.Repository.Reader

/-!
# Readings

* `Reading`         a question to a repository, `Finding` its answer;
* `Reader.answer`   the answer to a question, with the events on the way to it.
-/

namespace RowSpec

inductive Reading (ε : Type) [Entity ε]
  | list (spec : Specification ε)
  | first (spec : Specification ε)
  | count (spec : Specification ε)
  | any (spec : Specification ε)
  | page (spec : Specification ε) (request : PageRequest)
  /-- the row of an identifier, which is kept in this field -/
  | get (idField : String) (id : Entity.Id ε)

inductive Finding (ε : Type)
  | rows (rows : List ε)
  | row (row : Option ε)
  | count (n : Nat)
  | found (b : Bool)
  | page (p : Page ε)

def Reader.answer {ε : Type} [Entity ε] (r : Reader ε) (cancelled : Bool) :
    Reading ε → Traced (Except RepoError (Finding ε))
  | .list spec => (r.list spec cancelled).map (·.map .rows)
  | .first spec => (r.first spec cancelled).map (·.map .row)
  | .count spec => (r.count spec cancelled).map (·.map .count)
  | .any spec => (r.any spec cancelled).map (·.map .found)
  | .page spec request => (r.page spec request cancelled).map (·.map .page)
  | .get idField id => (r.getById idField id cancelled).map (·.map .row)

end RowSpec
