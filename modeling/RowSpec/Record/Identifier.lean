import RowSpec.Value.Basic

/-!
# Identifiers

Rows are told apart by identifiers. A type of identifiers brings an equality of its own, which need
not be that of the values that stand for identifiers in expressions.

* `Identifier`          types of identifiers: integers of three widths, `Uuid`, texts, and values;
* `LawfulIdentifier`    those whose equality is that of their values, all of one kind.
-/

namespace RowSpec

/-- Nothing is asked of the equality but that it is symmetric and transitive. -/
class Identifier (κ : Type) where
  same : κ → κ → Bool
  same_symm {a b : κ} : same a b → same b a
  same_trans {a b c : κ} : same a b → same b c → same a c
  /-- the value that stands for an identifier in expressions -/
  toValue : κ → Value

namespace Identifier

variable {κ : Type}

/-- Identifiers that are equal when they are the same. -/
abbrev ofDecidableEq [DecidableEq κ] (toValue : κ → Value) : Identifier κ where
  same a b := a = b
  same_symm h := decide_eq_true (of_decide_eq_true h).symm
  same_trans h h' := decide_eq_true ((of_decide_eq_true h).trans (of_decide_eq_true h'))
  toValue := toValue

instance : Identifier Int64 := ofDecidableEq fun n => .ofInt n.toInt

instance : Identifier Int32 := ofDecidableEq fun n => .ofInt n.toInt

instance : Identifier UInt64 := ofDecidableEq fun n => .ofNat n.toNat

instance : Identifier Uuid := ofDecidableEq .uuid

instance : Identifier String := ofDecidableEq .text

instance : Identifier Value := ofDecidableEq id

end Identifier

/-- Equal identifiers are those of equal values, and the values are all of one kind. -/
class LawfulIdentifier (κ : Type) [Identifier κ] : Prop where
  same_iff (a b : κ) : Identifier.same a b ↔ Identifier.toValue a = Identifier.toValue b
  kind_eq (a b : κ) : (Identifier.toValue a).kind = (Identifier.toValue b).kind

end RowSpec
