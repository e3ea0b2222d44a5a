import RowSpec.Document.Expr
import RowSpec.Specification.Builder

/-!
# Calls in documents

A call is a list of its name and its arguments.

* `Directive.ofTree?`, `Directive.toTree`   shaping calls on a query; a filter is shown as its text;
* `CallReader.read?`   calls that build a specification; a name that ends in `_if` has a condition
                       as its last argument;
* `Update.applyTree?`  calls that build an update.
-/

namespace RowSpec

/-! ## queries -/

namespace Directive

def ofTree? : Tree → Option Directive
  | .list [.text "ignore_query_filters"] => some .ignoreQueryFilters
  | .list [.text "filter", e] => (Expr.ofTree? e).map .filter
  | .list [.text "include", .text path] => some (.include path)
  | .list [.text "group_by", .text key] => some (.groupBy key)
  | .list [.text "order_by", .text f, .text d] =>
    (Direction.ofName? d).map fun d => .orderBy ⟨f, d⟩
  | .list [.text "then_by", .text f, .text d] =>
    (Direction.ofName? d).map fun d => .thenBy ⟨f, d⟩
  | .list [.text "skip", n] => n.nat?.map .skip
  | .list [.text "take", n] => n.nat?.map .take
  | .list [.text "tracking", .text m] => (TrackingMode.ofName? m).map .tracking
  | .list [.text "split_query"] => some .splitQuery
  | _ => none

def toTree : Directive → Tree
  | .ignoreQueryFilters => .texts ["ignore_query_filters"]
  | .filter e => .texts ["filter", e.render]
  | .include path => .texts ["include", path]
  | .groupBy key => .texts ["group_by", key]
  | .orderBy k => .texts ["order_by", k.field, k.direction.name]
  | .thenBy k => .texts ["then_by", k.field, k.direction.name]
  | .skip n => .list [.text "skip", .integer n]
  | .take n => .list [.text "take", .integer n]
  | .tracking m => .texts ["tracking", m.name]
  | .splitQuery => .texts ["split_query"]

end Directive

/-! ## specifications -/

/-- How results are made of one field or of several. -/
structure Selectors (α β : Type) where
  select : String → α → β
  selectMany : List String → α → List β

/-- What a reader of calls has to be told about the types at hand. -/
structure CallReader (α β : Type) where
  /-- full name of the target of a navigation -/
  target? : String → Option String
  /-- transforms by name -/
  transform? : String → Option (PostProcess β)
  /-- none where results are the rows themselves -/
  selectors : Option (Selectors α β)

/-- the condition of a call, true when there is none -/
def condition? : List Tree → Option Bool
  | [] => some true
  | [.bool b] => some b
  | _ => none

def bareName (name : String) : String :=
  if name.endsWith "_if" then String.ofList (name.toList.take (name.length - 3)) else name

def Call.ofArgs? {α β : Type} (r : CallReader α β) :
    String → List Tree → Option (Call α β)
  | "filter", e :: c => do return .filter (← Expr.ofTree? e) (← condition? c)
  | "order_by", .text f :: c => do return .orderBy ⟨f, .asc⟩ (← condition? c)
  | "order_by_descending", .text f :: c => do return .orderBy ⟨f, .desc⟩ (← condition? c)
  | "then_by", .text f :: c => do return .thenBy ⟨f, .asc⟩ (← condition? c)
  | "then_by_descending", .text f :: c => do return .thenBy ⟨f, .desc⟩ (← condition? c)
  | "include", .text n :: .text t :: c => do return .include n (← r.target? t) (← condition? c)
  | "then_include", .text n :: .text t :: c => do
    return .thenInclude n (← r.target? t) (← condition? c)
  | "include_path", .text path :: c => do return .includePath path (← condition? c)
  | "group_by", [.text key] => some (.groupBy key)
  | "search", [.text f, .text p] => some (.search f p defaultSearchGroup true)
  | "search", [.text f, .text p, g, .bool c] => do return .search f p (← g.nat?) c
  | "search_in_group", [.text f, .text p, g] => do return .search f p (← g.nat?) true
  | "take", [n] => n.nat?.map .take
  | "skip", [n] => n.nat?.map .skip
  | "with_pagination_filter", [n, s] => do return .paginate ⟨← n.nat?, ← s.nat?⟩
  | "as_tracking", [] => some (.track .tracking)
  | "as_no_tracking", [] => some (.track .noTracking)
  | "as_no_tracking_with_identity_resolution", [] =>
    some (.track .noTrackingWithIdentityResolution)
  | "with_tracking", [.text m] => (TrackingMode.ofName? m).map .track
  | "as_split_query", [] => some .splitQuery
  | "ignore_query_filters", [] => some .ignoreQueryFilters
  | "with_caching", [.bool b] => some (.caching b)
  | "with_expiration_mode", [.text m] => (ExpirationMode.ofName? m).map .expirationMode
  | "with_expiration_timeout", [s, n] => do return .expirationTimeout (.make (← s.nat?) (← n.nat?))
  | "post_process", [.text k] => (r.transform? k).map .postProcess
  | "into_inner", [] => some .intoInner
  | "finish", [] => some .finish
  | "select", [.text f] => r.selectors.map fun s => .select (s.select f)
  | "select_many", [.list fs] => do
    return .selectMany ((← r.selectors).selectMany (← fs.mapM Tree.text?))
  | "expand", [.text m] => r.selectors.map fun _ => .expand m
  | "expand_path", [.text path] => r.selectors.map fun _ => .expandPath path
  | _, _ => none

def CallReader.read? {α β : Type} (r : CallReader α β) : Tree → Option (Call α β)
  | .list (.text name :: args) => Call.ofArgs? r (bareName name) args
  | _ => none

/-! ## updates -/

/-- The update after a further call. -/
def Update.applyTree? {α : Type} (u : Update α) : Tree → Option (Update α)
  | .list [.text "set", .text f, v] => (Value.ofTree? v).map (u.set f)
  | .list [.text "filter", e] => (Expr.ofTree? e).map (u.filter · true)
  | .list [.text "filter_if", e, .bool c] => (Expr.ofTree? e).map (u.filter · c)
  | .list [.text "search_in_group", .text f, .text p, g] => g.nat?.map (u.search f p)
  | .list [.text "ignore_query_filters"] => some u.ignoreQueryFilters
  | _ => none

end RowSpec
