import RowSpec.Record

/-!
# Keyed rows

`KeyedBy κ` is a ready-made entity: an identifier and named fields. An assignment keeps the
identifier, the names of the fields, and the kind of every value that is not null. `Keyed` takes any
value for an identifier.
-/

namespace RowSpec

structure KeyedBy (κ : Type) where
  idField : String := "id"
  id : κ
  fields : List (String × Value) := []
  /-- no field can be assigned -/
  isSealed : Bool := false
deriving DecidableEq

abbrev Keyed : Type := KeyedBy Value

/-- the fields with the value of an existing one replaced -/
def setField (name : String) (v : Value) : List (String × Value) → List (String × Value)
  | [] => []
  | (n, old) :: rest => if n = name then (n, v) :: rest else (n, old) :: setField name v rest

namespace KeyedBy

variable {κ : Type}

def field? [Identifier κ] (row : KeyedBy κ) (name : String) : Option Value :=
  if name = row.idField then some (Identifier.toValue row.id) else row.fields.lookup name

/-- Null goes with every kind. -/
def suits (old new : Value) : Bool := old = .null || new = .null || old.kind = new.kind

def assign (row : KeyedBy κ) (name : String) (v : Value) : Except FieldError (KeyedBy κ) :=
  if row.isSealed ∨ name = row.idField then .error (.readOnly name)
  else match row.fields.lookup name with
    | none => .error (.unknown name)
    | some old =>
      if suits old v then .ok { row with fields := setField name v row.fields }
      else .error (.typeMismatch name old.kind v.kind)

instance [Identifier κ] : Entity (KeyedBy κ) where
  field := field?
  setField := assign
  Id := κ
  id := KeyedBy.id

theorem field?_idField [Identifier κ] (row : KeyedBy κ) :
    row.field? row.idField = some (Identifier.toValue row.id) := if_pos rfl

end KeyedBy

end RowSpec
