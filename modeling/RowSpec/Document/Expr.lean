import RowSpec.Document.Tree
import RowSpec.Expr.Reference

/-!
# Values and expressions in documents

* `Value.ofTree?`   plain values stand for themselves, other kinds are named: `num`, `uuid`, `dt`,
                    `date`, `time`;
* `Expr.ofTree?`    a node is a map of one key, its name, to its parts; `field` is a predicate by
                    one of the methods of a field reference.
-/

namespace RowSpec

def Value.ofTree? : Tree → Option Value
  | .null | .map [("none", _)] => some .null
  | .bool b => some (.bool b)
  | .text s | .map [("str", .text s)] => some (.text s)
  | .integer n | .map [("i32", .integer n)] | .map [("i64", .integer n)]
  | .map [("u32", .integer n)] | .map [("u64", .integer n)] => some (.ofInt n)
  | .map [("some", t)] => ofTree? t
  | .map [("num", .text s)] => (Decimal.ofText? s).map .number
  | .map [("uuid", .text s)] => (Uuid.ofText? s).map .uuid
  | .map [("dt", .list [.integer s, n])] => do
    return .instant (← Instant.ofSeconds? s (← n.nat?))
  | .map [("date", .list [.integer y, m, d])] => do
    return .date (← Date.of? y (← m.nat?) (← d.nat?))
  | .map [("time", .list [h, m, s, n])] => do
    return .time (← Time.of? (← h.nat?) (← m.nat?) (← s.nat?) (← n.nat?))
  | _ => none

/-- The predicate of a method; a comparison without an argument compares with null. -/
def FieldRef.ofMethod? (f : FieldRef) (method : String) (args : List Tree) : Option Expr :=
  match method, args with
  | "is_null", [] => some f.isNull
  | "is_not_null", [] => some f.isNotNull
  | "contains", [.text s] => some (f.contains s)
  | "startswith", [.text s] => some (f.startsWith s)
  | "endswith", [.text s] => some (f.endsWith s)
  | "in_list", [.list vs] => (vs.mapM Value.ofTree?).map f.inList
  | op, [] => (Comparison.ofName? op).map (f.compare · .null)
  | op, [v] => do return f.compare (← Comparison.ofName? op) (← Value.ofTree? v)
  | _, _ => none

namespace Expr

mutual

def ofTree? : Tree → Option Expr
  | .map [("and", .list [a, b])] => do return .and (← ofTree? a) (← ofTree? b)
  | .map [("or", .list [a, b])] => do return .or (← ofTree? a) (← ofTree? b)
  | .map [("not", a)] => do return .not (← ofTree? a)
  | .map [("cmp", .list [a, .text op, b])] => do
    return .compare (← ofTree? a) (← Comparison.ofName? op) (← ofTree? b)
  | .map [("in", .list [a, .list items])] => do return .isIn (← ofTree? a) (← ofTrees? items)
  | .map [("fn", .list [.text name, .list args])] => do return .call name (← ofTrees? args)
  | .map [("id", .text name)] => some (.field name)
  | .map [("val", v)] => (Value.ofTree? v).map .value
  | .map [("like", .list [.text f, .text pattern])] => some (.like f pattern)
  | .map [("all", .list ts)] => do all? (← ofTrees? ts)
  | .map [("any", .list ts)] => do any? (← ofTrees? ts)
  | .map [("field", .list (.text name :: .text method :: args))] =>
    (FieldRef.mk name).ofMethod? method args
  | _ => none

def ofTrees? : List Tree → Option (List Expr)
  | [] => some []
  | t :: ts => do return (← ofTree? t) :: (← ofTrees? ts)

end

end Expr

end RowSpec
