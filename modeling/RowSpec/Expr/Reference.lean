import RowSpec.Expr.Basic

/-!
# Field and navigation references

* `FieldRef`     a field of an entity; its methods build the predicates on that field;
* `Navigation`   a step from one type to a related one, for eager loading.
-/

namespace RowSpec

/-- References are equal when their names are. -/
structure FieldRef where
  name : String
deriving DecidableEq

namespace FieldRef

def compare (f : FieldRef) (op : Comparison) (v : Value) : Expr :=
  .compare (.field f.name) op (.value v)

def isNull (f : FieldRef) : Expr := f.compare .eq .null

def isNotNull (f : FieldRef) : Expr := f.compare .ne .null

def inList (f : FieldRef) (vs : List Value) : Expr := .isIn (.field f.name) (vs.map .value)

def textCall (f : FieldRef) (function argument : String) : Expr :=
  .call function [.field f.name, .value (.text argument)]

def contains (f : FieldRef) (needle : String) : Expr := f.textCall "contains" needle

def startsWith (f : FieldRef) (needle : String) : Expr := f.textCall "startswith" needle

def endsWith (f : FieldRef) (needle : String) : Expr := f.textCall "endswith" needle

end FieldRef

structure Navigation where
  name : String
  rootType : String
  targetType : String
deriving DecidableEq

end RowSpec
