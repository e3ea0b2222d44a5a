import RowSpec.Specification.Canonical

/-!
# Specifications

* `Specification α`    facets and a transform of the rows read;
* `Projected α β`      a specification whose rows become results of another type;
* `Update α`           assignments to the rows that a specification's criteria select.
-/

namespace RowSpec

/-- a transform of all results at once -/
abbrev PostProcess (α : Type) := List α → List α

structure Specification (α : Type) extends Facets where
  post : Option (PostProcess α) := none

/-- How rows become results: one each, or several each. -/
inductive Projection (α β : Type)
  | select (f : α → β)
  | selectMany (f : α → List β)

namespace Projection

def name {α β : Type} : Projection α β → String
  | select _ => "Select"
  | selectMany _ => "SelectMany"

def apply {α β : Type} : Projection α β → List α → List β
  | select f, rows => rows.map f
  | selectMany f, rows => rows.flatMap f

theorem apply_nil {α β : Type} (p : Projection α β) : p.apply [] = [] := by cases p <;> rfl

theorem apply_append {α β : Type} (p : Projection α β) (xs ys : List α) :
    p.apply (xs ++ ys) = p.apply xs ++ p.apply ys := by
  cases p <;> simp [apply]

end Projection

structure Projected (α β : Type) where
  base : Specification α
  projection : Option (Projection α β) := none
  /-- members of the result to expand, and raw paths to expand -/
  members : List String := []
  memberPaths : List String := []
  post : Option (PostProcess β) := none

def Projected.allMembers {α β : Type} (p : Projected α β) : List String :=
  p.members ++ p.memberPaths

/-- The transform, when there is one. -/
def applyPost {α : Type} (post : Option (PostProcess α)) (rows : List α) : List α :=
  match post with
  | none => rows
  | some f => f rows

structure Assignment where
  field : String
  value : Value
deriving DecidableEq

/-- Only the selecting facets of `criteria` have a meaning here. -/
structure Update (α : Type) where
  criteria : Specification α
  assignments : List Assignment := []

/-- A later assignment to a field takes the place of the earlier one. -/
def assign (field : String) (value : Value) : List Assignment → List Assignment
  | [] => [⟨field, value⟩]
  | a :: rest => if a.field = field then ⟨field, value⟩ :: rest else a :: assign field value rest

namespace Update

variable {α : Type}

def set (field : String) (value : Value) (u : Update α) : Update α :=
  { u with assignments := assign field value u.assignments }

def filter (predicate : Expr) (condition : Bool) (u : Update α) : Update α :=
  if condition then
    { u with criteria := { u.criteria with predicates := u.criteria.predicates ++ [predicate] } }
  else u

def search (field pattern : String) (group : Nat) (u : Update α) : Update α :=
  { u with
    criteria := { u.criteria with searches := u.criteria.searches ++ [⟨field, pattern, group⟩] } }

def ignoreQueryFilters (u : Update α) : Update α :=
  { u with criteria := { u.criteria with ignoreQueryFilters := true } }

end Update

end RowSpec
