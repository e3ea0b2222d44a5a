import RowSpec.Error.Field
import RowSpec.Record.Identifier

/-!
# Records

* `Record`   rows whose fields are read and assigned by name;
* `Entity`   records with an identifier, of a type that goes with theirs.
-/

namespace RowSpec

class Record (ρ : Type) where
  /-- the value of a field, none when the row has no such field -/
  field : ρ → String → Option Value
  /-- the row with a field assigned; read-only unless the type says otherwise -/
  setField : ρ → String → Value → Except FieldError ρ := fun _ name _ => .error (.readOnly name)

class Entity (ρ : Type) extends Record ρ where
  Id : Type
  [identifier : Identifier Id]
  id : ρ → Id

namespace Entity

attribute [reducible, instance] identifier

variable {ρ : Type} [Entity ρ]

instance : BEq (Id ρ) := ⟨Identifier.same⟩

instance : PartialEquivBEq (Id ρ) where
  symm := Identifier.same_symm
  trans := Identifier.same_trans

instance [LawfulIdentifier (Id ρ)] : EquivBEq (Id ρ) where
  rfl := (LawfulIdentifier.same_iff _ _).mpr rfl

/-- the identifier of a row, as a value -/
def idValue (row : ρ) : Value := Identifier.toValue (id row)

end Entity

/-- A field that has to be there. -/
def Record.fetch [Record ρ] (row : ρ) (name : String) : Except FieldError Value :=
  match Record.field row name with
  | some v => .ok v
  | none => .error (.unknown name)

theorem Record.fetch_of_some [Record ρ] {row : ρ} {name : String} {v : Value}
    (h : Record.field row name = some v) : Record.fetch row name = .ok v := by
  simp [Record.fetch, h]

theorem Record.fetch_of_none [Record ρ] {row : ρ} {name : String}
    (h : Record.field row name = none) : Record.fetch row name = .error (.unknown name) := by
  simp [Record.fetch, h]

end RowSpec
