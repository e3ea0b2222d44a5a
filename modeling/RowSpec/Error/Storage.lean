import RowSpec.Error.Field

/-!
# Storage errors

* `StorageError`   why a query or a write fails, with `message` and the texts of its `causes`;
* `EvalError`      why an evaluated specification fails.
-/

namespace RowSpec

/-- a failure of the storage itself -/
inductive Fault
  | duplicateKey (field : String) (key : Value)
  | transactionActive
  | commitRejected
  /-- a failure told by a driver in its own words, with what it rests on -/
  | reported (text : String) (cause : Option String)
deriving DecidableEq

def Fault.message : Fault → String
  | duplicateKey field key => "duplicate key " ++ field ++ ": " ++ key.literal
  | transactionActive => "transaction already active"
  | commitRejected => "commit rejected"
  | reported text _ => text

def Fault.causes : Fault → List String
  | reported _ (some cause) => [cause]
  | _ => []

inductive StorageError
  | cancelled
  | field (e : FieldError)
  | failed (fault : Fault)
deriving DecidableEq

namespace StorageError

/-- short name of the kind of error -/
def code : StorageError → String
  | cancelled => "Cancelled"
  | field _ => "Field"
  | failed _ => "Failed"

def message : StorageError → String
  | cancelled => "operation cancelled"
  | field e => "invalid field access: " ++ e.message
  | failed fault => "operation failed: " ++ fault.message

/-- texts of what the error rests on, nearest first -/
def causes : StorageError → List String
  | cancelled => []
  | field e => [e.message]
  | failed fault => fault.causes

def isCancelled (e : StorageError) : Bool := e = cancelled

end StorageError

inductive EvalError
  /-- neither a selector nor a mapper gives the result type -/
  | missingProjection (resultType : String)
  | storage (e : StorageError)
deriving DecidableEq

def missingProjectionMessage (resultType : String) : String :=
  "no selector and no object mapper for result type " ++ resultType

end RowSpec
