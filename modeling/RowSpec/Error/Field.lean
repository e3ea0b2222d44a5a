import RowSpec.Value.Basic

/-!
# Field errors

What can go wrong when an expression is evaluated on a row or a field is assigned.
-/

namespace RowSpec

inductive FieldError
  | unknown (field : String)
  | typeMismatch (field : String) (expected got : Kind)
  | incomparable (lhs rhs : Kind)
  | notBoolean (kind : Kind)
  | unsupportedFunction (name : String)
  | readOnly (field : String)
deriving DecidableEq, Repr

/-- short name of the kind of error -/
def FieldError.code : FieldError → String
  | unknown _ => "Unknown"
  | typeMismatch .. => "TypeMismatch"
  | incomparable .. => "Incomparable"
  | notBoolean _ => "NotBoolean"
  | unsupportedFunction _ => "UnsupportedFunction"
  | readOnly _ => "ReadOnly"

def FieldError.message : FieldError → String
  | unknown field => "unknown field: " ++ field
  | typeMismatch field expected got =>
    "type mismatch for field " ++ field ++ ": expected " ++ expected.name ++ ", got " ++ got.name
  | incomparable lhs rhs => "cannot compare " ++ lhs.name ++ " with " ++ rhs.name
  | notBoolean kind => "expression of kind " ++ kind.name ++ " is not a boolean predicate"
  | unsupportedFunction name => "unsupported function or args: " ++ name ++ "()"
  | readOnly field => "field is read-only: " ++ field

end RowSpec
