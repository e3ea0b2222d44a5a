import RowSpec.Proofs.Value.Numerals
import RowSpec.Record.Keyed

/-!
# Lawful identifiers

Integers, `Uuid` and texts are equal as identifiers just if the values are that stand for them.

* `Value.ofInt_injective`            integers of different numbers have different values;
* `LawfulIdentifier.ofDecidableEq`   distinct identifiers with distinct values of one kind;
* the instances of `LawfulIdentifier`.
-/

namespace RowSpec

theorem Value.ofInt_injective : Function.Injective Value.ofInt := by
  intro m n h
  have hrat := congrArg Decimal.toRat (Value.number.inj h)
  rw [Decimal.ofInt, Decimal.ofInt, Decimal.toRat_make, Decimal.toRat_make] at hrat
  simpa using hrat

namespace LawfulIdentifier

theorem ofDecidableEq {κ : Type} [DecidableEq κ] {toValue : κ → Value}
    (hinj : Function.Injective toValue) {kind : Kind} (hkind : ∀ a, (toValue a).kind = kind) :
    @LawfulIdentifier κ (.ofDecidableEq toValue) :=
  let _ : Identifier κ := .ofDecidableEq toValue
  { same_iff := fun _ _ => decide_eq_true_iff.trans hinj.eq_iff.symm
    kind_eq := fun a b => (hkind a).trans (hkind b).symm }

instance : LawfulIdentifier Int64 :=
  ofDecidableEq (fun _ _ h => Int64.toInt_inj.mp (Value.ofInt_injective h)) fun _ => rfl

instance : LawfulIdentifier Int32 :=
  ofDecidableEq (fun _ _ h => Int32.toInt_inj.mp (Value.ofInt_injective h)) fun _ => rfl

instance : LawfulIdentifier UInt64 :=
  ofDecidableEq (fun _ _ h => UInt64.toNat_inj.mp (Int.ofNat_inj.mp (Value.ofInt_injective h)))
    fun _ => rfl

instance : LawfulIdentifier Uuid := ofDecidableEq (fun _ _ => Value.uuid.inj) fun _ => rfl

instance : LawfulIdentifier String := ofDecidableEq (fun _ _ => Value.text.inj) fun _ => rfl

instance {κ : Type} [Identifier κ] [LawfulIdentifier κ] :
    LawfulIdentifier (Entity.Id (KeyedBy κ)) :=
  inferInstanceAs (LawfulIdentifier κ)

/-- Values are of several kinds. -/
example : ¬ LawfulIdentifier Value := fun h => absurd (h.kind_eq .null (.bool true)) (by decide)

end LawfulIdentifier

end RowSpec
