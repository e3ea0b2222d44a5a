import RowSpec.Catalog.Interface
import RowSpec.Error.Spec
import RowSpec.Error.Storage

/-!
# Repository errors

* `RepoError`         why a repository or a unit of work refuses a call, with `message`, `causes`
                      and `kind`;
* `UnsupportedRequest`   why no repository can be made.
-/

namespace RowSpec

inductive UnsupportedRequest
  | interface (i : Interface)
  | noFactory (access : Access) (entity : EntityType)
  | foreignSession (implementation : String)
deriving DecidableEq

def UnsupportedRequest.message : UnsupportedRequest → String
  | interface i => i.render
  | noFactory access entity =>
    "no " ++ access.name ++ " factory registered for " ++ entity.name
  | foreignSession implementation => implementation ++ " needs a MemorySession"

inductive ErrorKind
  | specification | resolution | lifecycle | storage
deriving DecidableEq, Repr

def ErrorKind.name : ErrorKind → String
  | specification => "Specification"
  | resolution => "Resolution"
  | lifecycle => "Lifecycle"
  | storage => "Storage"

inductive RepoError
  | specification (e : SpecError)
  | missingProjection (resultType : String)
  | unknownEntity (entity : EntityType)
  | incompatibleId (entity : EntityType) (requested : IdType)
  | unsupported (request : UnsupportedRequest)
  | disposed
  | storage (e : StorageError)
deriving DecidableEq

namespace RepoError

/-- short name of the error itself, finer than its `kind` -/
def code : RepoError → String
  | specification _ => "Specification"
  | missingProjection _ => "MissingProjection"
  | unknownEntity _ => "UnknownEntity"
  | incompatibleId .. => "IncompatibleId"
  | unsupported _ => "UnsupportedRepository"
  | disposed => "Disposed"
  | storage _ => "Storage"

def message : RepoError → String
  | specification e => e.message
  | missingProjection resultType => missingProjectionMessage resultType
  | unknownEntity entity => "unknown entity type: " ++ entity.name
  | incompatibleId entity requested =>
    "incompatible identifier type for " ++ entity.name ++ ": requested " ++ requested.name ++
      ", entity uses " ++ entity.idType.name
  | unsupported request => "unsupported repository request: " ++ request.message
  | disposed => "unit of work has been disposed"
  | storage _ => "storage operation failed"

/-- texts of what the error rests on, nearest first -/
def causes : RepoError → List String
  | storage e => e.message :: e.causes
  | _ => []

def kind : RepoError → ErrorKind
  | specification _ | missingProjection _ => .specification
  | unknownEntity _ | incompatibleId .. | unsupported _ => .resolution
  | disposed => .lifecycle
  | storage _ => .storage

def isCancelled (e : RepoError) : Bool := e = storage .cancelled

def ofEval : EvalError → RepoError
  | .missingProjection resultType => missingProjection resultType
  | .storage e => storage e

end RepoError

end RowSpec
