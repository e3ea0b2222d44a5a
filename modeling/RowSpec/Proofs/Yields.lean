import RowSpec.Error.Field

/-!
# Results and faults

What a computation that may fail is worth: its result when nothing is at fault, and one of the
faults otherwise.

* `eq_ok_of_bind`   a computation after another succeeds when both do;
* `Yields`          `x` gives `a`, unless there is a fault;
* `Yields.unique`   two computations of the same result with one fault at most;
* `Yields.bind`     one computation after another: the faults of both;
* `Yields.imp`      other names for the faults and the result.
-/

namespace RowSpec

variable {ε ε' α β : Type} {x : Except ε α} {a : α} {fault : ε → Prop}

theorem eq_ok_of_bind {f : α → Except ε β} {b : β} (h : x >>= f = .ok b) :
    ∃ a, x = .ok a ∧ f a = .ok b := by
  cases x with
  | error e => cases h
  | ok a => exact ⟨a, rfl, h⟩

/-- When `x` succeeds, nothing is at fault and the result is `a`; its error is one of the faults. -/
def Yields (x : Except ε α) (fault : ε → Prop) (a : α) : Prop :=
  match x with
  | .ok b => (∀ e, ¬ fault e) ∧ b = a
  | .error e => fault e

namespace Yields

theorem ok (a : α) : Yields (.ok a : Except ε α) (fun _ => False) a := ⟨fun _ => id, rfl⟩

theorem error {e : ε} (h : fault e) : Yields (.error e) fault a := h

theorem eq_ok_iff (h : Yields x fault a) {b : α} : x = .ok b ↔ (∀ e, ¬ fault e) ∧ b = a := by
  cases x with
  | ok c =>
    constructor
    · intro hb
      cases hb
      exact h
    · rintro ⟨_, rfl⟩
      rw [h.2]
  | error e =>
    constructor
    · intro hb
      cases hb
    · rintro ⟨hnone, _⟩
      exact absurd h (hnone e)

theorem of_eq_error (h : Yields x fault a) {e : ε} (he : x = .error e) : fault e := by
  subst he
  exact h

theorem exists_error_iff (h : Yields x fault a) : (∃ e, x = .error e) ↔ ∃ e, fault e := by
  cases x with
  | ok b =>
    constructor
    · rintro ⟨e, ⟨⟩⟩
    · rintro ⟨e, he⟩
      exact absurd he (h.1 e)
  | error e =>
    constructor
    · exact fun _ => ⟨e, h⟩
    · exact fun _ => ⟨e, rfl⟩

/-- Where there is one fault at most, the computation is known. -/
theorem unique (hx : Yields x fault a) {y : Except ε α} (hy : Yields y fault a)
    (hfault : ∀ e e', fault e → fault e' → e = e') : x = y := by
  cases x with
  | ok b => exact (hy.eq_ok_iff.mpr hx).symm
  | error e =>
    cases y with
    | ok b => exact absurd hx (hy.1 e)
    | error e' => rw [hfault e e' hx hy]

theorem imp (h : Yields x fault a) {fault' : ε → Prop} {a' : α} (hf : ∀ e, fault e → fault' e)
    (hok : (∀ e, ¬ fault e) → (∀ e, ¬ fault' e) ∧ a = a') : Yields x fault' a' := by
  cases x with
  | ok b =>
    obtain ⟨hnone, rfl⟩ := h
    exact hok hnone
  | error e => exact hf e h

theorem congr (h : Yields x fault a) {fault' : ε → Prop} (hf : ∀ e, fault e ↔ fault' e) :
    Yields x fault' a :=
  h.imp (fun e => (hf e).mp) fun hnone => ⟨fun e he => hnone e ((hf e).mpr he), rfl⟩

theorem bind (h : Yields x fault a) {f : α → Except ε β} {fault' : ε → Prop} {b : β}
    (hf : (∀ e, ¬ fault e) → Yields (f a) fault' b) :
    Yields (x >>= f) (fun e => fault e ∨ fault' e) b := by
  cases x with
  | ok c =>
    obtain ⟨hnone, rfl⟩ := h
    refine (hf hnone).imp (fun _ => .inr) fun hnone' => ⟨?_, rfl⟩
    exact fun e he => he.elim (hnone e) (hnone' e)
  | error e => exact .inl h

theorem map (h : Yields x fault a) (f : α → β) :
    Yields (x >>= fun b => pure (f b)) fault (f a) := by
  cases x with
  | ok b =>
    obtain ⟨hnone, rfl⟩ := h
    exact ⟨hnone, rfl⟩
  | error e => exact h

/-- the faults under other names -/
theorem mapError (h : Yields x fault a) (g : ε → ε') :
    Yields (x.mapError g) (fun e' => ∃ e, fault e ∧ g e = e') a := by
  cases x with
  | ok b =>
    obtain ⟨hnone, rfl⟩ := h
    exact ⟨fun _ ⟨e, he, _⟩ => hnone e he, rfl⟩
  | error e => exact ⟨e, h, rfl⟩

theorem mapOk (h : Yields x fault a) (f : α → β) : Yields (x.map f) fault (f a) := by
  cases x with
  | ok b =>
    obtain ⟨hnone, rfl⟩ := h
    exact ⟨hnone, rfl⟩
  | error e => exact h

end Yields

end RowSpec
