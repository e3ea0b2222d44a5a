import RowSpec.Evaluation.Shape

/-!
# Bulk commands

* `DeleteCommand`   the rows to delete; without a predicate, all of them;
* `UpdateCommand`   the rows to change and their new field values;
* `Facets.deleteCommand`, `Update.command`, `Facets.disableCommand`.
-/

namespace RowSpec

structure DeleteCommand where
  ignoreQueryFilters : Bool
  predicate : Option Expr
deriving DecidableEq

structure UpdateCommand extends DeleteCommand where
  assignments : List Assignment
deriving DecidableEq

/-- field that marks a disabled row -/
def disabledField : String := "is_disabled"

/-- field that keeps the time of disabling -/
def disabledAtField : String := "disabled_at"

/-- holds on rows that are not disabled yet -/
def notDisabled : Expr := .compare (.field disabledField) .ne (.value (.bool true))

def Facets.deleteCommand (f : Facets) : DeleteCommand := ⟨f.ignoreQueryFilters, f.predicate?⟩

def Update.command {α : Type} (u : Update α) : UpdateCommand :=
  ⟨u.criteria.deleteCommand, u.assignments⟩

/-- Rows that are disabled already are no targets, so they keep their time. -/
def Facets.disableCommand (f : Facets) (at_ : Instant) : UpdateCommand :=
  ⟨⟨f.ignoreQueryFilters,
      some (match f.predicate? with
        | some p => p.and notDisabled
        | none => notDisabled)⟩,
    [⟨disabledField, .bool true⟩, ⟨disabledAtField, .instant at_⟩]⟩

end RowSpec
