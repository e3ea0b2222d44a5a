import RowSpec.Proofs.Value.Numerals
import RowSpec.Value.Order

/-!
# The sort order of values is a total order

* `Kind.rank`              the place of a kind among the kinds;
* `Value.sortOrder_eq`     values are ordered by the places of their kinds, then inside a kind;
* `Std.TransCmp`, `Std.LawfulEqCmp` for `sortOrder`: it is transitive, turning it round swaps its
                           answers, and it calls equal only what is equal;
* `Value.compare?_eq_some_iff`   values of one kind are compared as they are sorted;
* `Value.sortOrder_number`   numbers are ordered as numbers, at whatever scale they are given;
* `Value.sortOrder_total_order`   all of it in one statement.
-/

namespace RowSpec

open Std (LawfulEqCmp OrientedCmp ReflCmp TransCmp TransOrd)

/-! ## parts -/

instance : TransCmp Uuid.compare := inferInstanceAs (TransCmp (compareOn Uuid.toNat))

instance : LawfulEqCmp Uuid.compare where
  compare_self := ReflCmp.compare_self
  eq_of_compare {a b} h := by
    have hn : a.toNat = b.toNat := compare_eq_iff_eq.mp h
    cases a
    cases b
    subst hn
    rfl

instance : TransCmp Date.compare :=
  inferInstanceAs (TransCmp (compareLex (compareOn Date.year)
    (compareLex (compareOn Date.month) (compareOn Date.day))))

instance : LawfulEqCmp Date.compare where
  compare_self := ReflCmp.compare_self
  eq_of_compare {a b} h := by
    obtain ⟨hy, h⟩ := Ordering.then_eq_eq.mp h
    obtain ⟨hm, hd⟩ := Ordering.then_eq_eq.mp h
    replace hy := compare_eq_iff_eq.mp hy
    replace hm := compare_eq_iff_eq.mp hm
    replace hd := compare_eq_iff_eq.mp hd
    cases a
    cases b
    subst hy hm hd
    rfl

instance : TransCmp Time.compare :=
  inferInstanceAs (TransCmp (compareLex (compareOn Time.hour) (compareLex (compareOn Time.minute)
    (compareLex (compareOn Time.second) (compareOn Time.nano)))))

instance : LawfulEqCmp Time.compare where
  compare_self := ReflCmp.compare_self
  eq_of_compare {a b} h := by
    obtain ⟨hh, h⟩ := Ordering.then_eq_eq.mp h
    obtain ⟨hm, h⟩ := Ordering.then_eq_eq.mp h
    obtain ⟨hs, hn⟩ := Ordering.then_eq_eq.mp h
    replace hh := compare_eq_iff_eq.mp hh
    replace hm := compare_eq_iff_eq.mp hm
    replace hs := compare_eq_iff_eq.mp hs
    replace hn := compare_eq_iff_eq.mp hn
    cases a
    cases b
    subst hh hm hs hn
    rfl

instance : TransCmp Instant.compare := by
  let _ : Ord Date := ⟨Date.compare⟩
  let _ : Ord Time := ⟨Time.compare⟩
  have hd : TransOrd Date := inferInstanceAs (TransCmp Date.compare)
  have ht : TransOrd Time := inferInstanceAs (TransCmp Time.compare)
  exact inferInstanceAs (TransCmp (compareLex (compareOn Instant.date) (compareOn Instant.time)))

instance : LawfulEqCmp Instant.compare where
  compare_self := ReflCmp.compare_self
  eq_of_compare {a b} h := by
    obtain ⟨hd, ht⟩ := Ordering.then_eq_eq.mp h
    replace hd := LawfulEqCmp.eq_of_compare hd
    replace ht := LawfulEqCmp.eq_of_compare ht
    cases a
    cases b
    subst hd ht
    rfl

/-! ## kinds -/

/-- null first, the others by their names -/
def Kind.rank : Kind → Nat
  | null => 0
  | bool => 1
  | date => 2
  | instant => 3
  | number => 4
  | text => 5
  | time => 6
  | uuid => 7

theorem Kind.rank_injective : Function.Injective rank := by
  intro a b h
  cases a <;> cases b <;> first | rfl | cases h

theorem Kind.compare_name {a b : Kind} (ha : a ≠ null) (hb : b ≠ null) :
    Ord.compare a.name b.name = Ord.compare a.rank b.rank := by
  cases a <;> cases b <;> first | exact absurd rfl ha | exact absurd rfl hb | decide

namespace Value

theorem kind_eq_null {v : Value} : v.kind = .null ↔ v = .null := by
  cases v <;> simp [kind]

/-- the order of two values of one kind; values of different kinds are not told apart -/
def orderInKind (a b : Value) : Ordering := (a.compare? b).getD .eq

theorem sortOrder_eq (a b : Value) :
    a.sortOrder b = (Ord.compare a.kind.rank b.kind.rank).then (a.orderInKind b) := by
  unfold sortOrder
  by_cases ha : a = null
  · rw [if_pos ha, ha]
    cases b <;> rfl
  · rw [if_neg ha]
    by_cases hb : b = null
    · rw [if_pos hb, hb]
      cases a <;> first | rfl | exact absurd rfl ha
    · rw [if_neg hb]
      have hsome := compare?_isSome a b
      by_cases hk : a.kind = b.kind
      · have hrank : Ord.compare b.kind.rank b.kind.rank = .eq := Nat.compare_eq_eq.mpr rfl
        rw [hk, hrank, Ordering.eq_then]
        obtain ⟨o, ho⟩ := Option.isSome_iff_exists.mp (hsome.trans (decide_eq_true hk))
        rw [orderInKind, ho]
        rfl
      · have hnone : a.compare? b = none := by
          rw [← Option.not_isSome_iff_eq_none, hsome]
          simpa using hk
        have hne : Ord.compare a.kind.rank b.kind.rank ≠ .eq := fun h =>
          hk (Kind.rank_injective (compare_eq_iff_eq.mp h))
        rw [orderInKind, hnone, Option.getD_none, Option.getD_none,
          Kind.compare_name (fun h => ha (kind_eq_null.mp h)) (fun h => hb (kind_eq_null.mp h)),
          Ordering.then_eq]

theorem orderInKind_swap (a b : Value) : a.orderInKind b = (b.orderInKind a).swap := by
  cases a with
  | null => cases b <;> rfl
  | bool x =>
    cases b with
    | bool y => exact @OrientedCmp.eq_swap _ (Ord.compare : Bool → Bool → Ordering) _ x y
    | _ => rfl
  | number x =>
    cases b with
    | number y => exact @OrientedCmp.eq_swap _ Decimal.compare _ x y
    | _ => rfl
  | uuid x =>
    cases b with
    | uuid y => exact @OrientedCmp.eq_swap _ Uuid.compare _ x y
    | _ => rfl
  | instant x =>
    cases b with
    | instant y => exact @OrientedCmp.eq_swap _ Instant.compare _ x y
    | _ => rfl
  | date x =>
    cases b with
    | date y => exact @OrientedCmp.eq_swap _ Date.compare _ x y
    | _ => rfl
  | time x =>
    cases b with
    | time y => exact @OrientedCmp.eq_swap _ Time.compare _ x y
    | _ => rfl
  | text x =>
    cases b with
    | text y => exact @OrientedCmp.eq_swap _ (Ord.compare : String → String → Ordering) _ x y
    | _ => rfl

theorem orderInKind_trans {a b c : Value} (hab : a.kind = b.kind) (hbc : b.kind = c.kind)
    (h1 : (a.orderInKind b).isLE) (h2 : (b.orderInKind c).isLE) : (a.orderInKind c).isLE := by
  cases a with
  | null => cases c <;> rfl
  | bool x =>
    cases b with
    | bool y =>
      cases c with
      | bool z => exact @TransCmp.isLE_trans _ (Ord.compare : Bool → Bool → Ordering) _ x y z h1 h2
      | _ => cases hbc
    | _ => cases hab
  | number x =>
    cases b with
    | number y =>
      cases c with
      | number z => exact @TransCmp.isLE_trans _ Decimal.compare _ x y z h1 h2
      | _ => cases hbc
    | _ => cases hab
  | uuid x =>
    cases b with
    | uuid y =>
      cases c with
      | uuid z => exact @TransCmp.isLE_trans _ Uuid.compare _ x y z h1 h2
      | _ => cases hbc
    | _ => cases hab
  | instant x =>
    cases b with
    | instant y =>
      cases c with
      | instant z => exact @TransCmp.isLE_trans _ Instant.compare _ x y z h1 h2
      | _ => cases hbc
    | _ => cases hab
  | date x =>
    cases b with
    | date y =>
      cases c with
      | date z => exact @TransCmp.isLE_trans _ Date.compare _ x y z h1 h2
      | _ => cases hbc
    | _ => cases hab
  | time x =>
    cases b with
    | time y =>
      cases c with
      | time z => exact @TransCmp.isLE_trans _ Time.compare _ x y z h1 h2
      | _ => cases hbc
    | _ => cases hab
  | text x =>
    cases b with
    | text y =>
      cases c with
      | text z =>
        exact @TransCmp.isLE_trans _ (Ord.compare : String → String → Ordering) _ x y z h1 h2
      | _ => cases hbc
    | _ => cases hab

theorem eq_of_orderInKind {a b : Value} (hab : a.kind = b.kind) (h : a.orderInKind b = .eq) :
    a = b := by
  cases a with
  | null =>
    cases b with
    | null => rfl
    | _ => cases hab
  | bool x =>
    cases b with
    | bool y =>
      have hxy := @LawfulEqCmp.eq_of_compare _ (Ord.compare : Bool → Bool → Ordering) _ x y h
      exact congrArg bool hxy
    | _ => cases hab
  | number x =>
    cases b with
    | number y => exact congrArg number (@LawfulEqCmp.eq_of_compare _ Decimal.compare _ x y h)
    | _ => cases hab
  | uuid x =>
    cases b with
    | uuid y => exact congrArg uuid (@LawfulEqCmp.eq_of_compare _ Uuid.compare _ x y h)
    | _ => cases hab
  | instant x =>
    cases b with
    | instant y => exact congrArg instant (@LawfulEqCmp.eq_of_compare _ Instant.compare _ x y h)
    | _ => cases hab
  | date x =>
    cases b with
    | date y => exact congrArg date (@LawfulEqCmp.eq_of_compare _ Date.compare _ x y h)
    | _ => cases hab
  | time x =>
    cases b with
    | time y => exact congrArg time (@LawfulEqCmp.eq_of_compare _ Time.compare _ x y h)
    | _ => cases hab
  | text x =>
    cases b with
    | text y =>
      have hxy := @LawfulEqCmp.eq_of_compare _ (Ord.compare : String → String → Ordering) _ x y h
      exact congrArg text hxy
    | _ => cases hab

instance : TransCmp sortOrder where
  eq_swap {a b} := by
    have hr : Ord.compare a.kind.rank b.kind.rank = (Ord.compare b.kind.rank a.kind.rank).swap :=
      OrientedCmp.eq_swap
    rw [sortOrder_eq, sortOrder_eq b a, Ordering.swap_then, ← orderInKind_swap a b, hr]
  isLE_trans {a b c} hab hbc := by
    rw [sortOrder_eq, Ordering.isLE_then_iff_and] at hab hbc ⊢
    obtain ⟨hab, hab'⟩ := hab
    obtain ⟨hbc, hbc'⟩ := hbc
    refine ⟨TransCmp.isLE_trans hab hbc, ?_⟩
    rcases hab' with hlt | hab'
    · exact .inl (TransCmp.lt_of_lt_of_isLE hlt hbc)
    · rcases hbc' with hlt | hbc'
      · exact .inl (TransCmp.lt_of_isLE_of_lt hab hlt)
      · -- the ranks are in order; where they are all equal, so are the kinds
        by_cases hk : a.kind = b.kind
        · by_cases hk' : b.kind = c.kind
          · exact .inr (orderInKind_trans hk hk' hab' hbc')
          · exact .inl (TransCmp.lt_of_isLE_of_lt hab (rank_lt hk' hbc))
        · exact .inl (TransCmp.lt_of_lt_of_isLE (rank_lt hk hab) hbc)
where
  rank_lt {a b : Value} (hk : a.kind ≠ b.kind)
      (h : (Ord.compare a.kind.rank b.kind.rank).isLE) :
      Ord.compare a.kind.rank b.kind.rank = .lt := by
    rcases Ordering.isLE_iff_eq_lt_or_eq_eq.mp h with h | h
    · exact h
    · exact absurd (Kind.rank_injective (compare_eq_iff_eq.mp h)) hk

instance : LawfulEqCmp sortOrder where
  compare_self := ReflCmp.compare_self
  eq_of_compare {a b} h := by
    rw [sortOrder_eq] at h
    obtain ⟨hr, ho⟩ := Ordering.then_eq_eq.mp h
    exact eq_of_orderInKind (Kind.rank_injective (compare_eq_iff_eq.mp hr)) ho

/-! ## comparing and sorting -/

theorem sortOrder_of_kind_eq {a b : Value} (h : a.kind = b.kind) :
    a.sortOrder b = a.orderInKind b := by
  have hrank : Ord.compare a.kind.rank b.kind.rank = .eq := by
    rw [h]
    exact Nat.compare_eq_eq.mpr rfl
  rw [sortOrder_eq, hrank, Ordering.eq_then]

theorem compare?_eq_some_iff {a b : Value} {o : Ordering} :
    a.compare? b = some o ↔ a.kind = b.kind ∧ a.sortOrder b = o := by
  have hsome : (a.compare? b).isSome = true ↔ a.kind = b.kind := by
    rw [compare?_isSome, decide_eq_true_iff]
  constructor
  · intro h
    have hkind : a.kind = b.kind := hsome.mp (by rw [h]; rfl)
    refine ⟨hkind, ?_⟩
    rw [sortOrder_of_kind_eq hkind, orderInKind, h]
    rfl
  · rintro ⟨hkind, rfl⟩
    obtain ⟨o, ho⟩ := Option.isSome_iff_exists.mp (hsome.mpr hkind)
    rw [sortOrder_of_kind_eq hkind, orderInKind, ho]
    rfl

theorem sortOrder_eq_eq_iff {a b : Value} : a.sortOrder b = .eq ↔ a = b := by
  constructor
  · exact LawfulEqCmp.eq_of_compare
  · rintro rfl
    exact ReflCmp.compare_self

theorem compare?_eq_some_eq_iff {a b : Value} : a.compare? b = some .eq ↔ a = b := by
  rw [compare?_eq_some_iff, sortOrder_eq_eq_iff]
  constructor
  · exact fun h => h.2
  · rintro rfl
    exact ⟨rfl, rfl⟩

theorem sortOrder_number (a b : Decimal) :
    (number a).sortOrder (number b) = Ord.compare a.toRat b.toRat := by
  have hkind : (number a).kind = (number b).kind := rfl
  rw [sortOrder_of_kind_eq hkind]
  exact Decimal.compare_eq a b

/-- **The sort order is a total order on all values**: turning it round swaps its answers, it is
transitive, and it calls equal only what is equal, which for numbers of any coefficients and scales
means numerically. Where two values can be compared, sorting and comparing agree. -/
theorem sortOrder_total_order :
    (∀ a b : Value, a.sortOrder b = (b.sortOrder a).swap) ∧
    (∀ a b c : Value, (a.sortOrder b).isLE → (b.sortOrder c).isLE → (a.sortOrder c).isLE) ∧
    (∀ a b : Value, a.sortOrder b = .eq ↔ a = b) ∧
    (∀ m s n t : Int, (number (.make m s)).sortOrder (number (.make n t)) =
      Ord.compare (m * (10 : ℚ) ^ (-s)) (n * (10 : ℚ) ^ (-t))) ∧
    (∀ (a b : Value) (o : Ordering), a.compare? b = some o → a.sortOrder b = o) ∧
    ∀ a b : Value, a.compare? b = some .eq ↔ a = b := by
  refine ⟨fun a b => OrientedCmp.eq_swap, fun a b c => TransCmp.isLE_trans,
    fun a b => sortOrder_eq_eq_iff, ?_, fun a b o h => (compare?_eq_some_iff.mp h).2,
    fun a b => compare?_eq_some_eq_iff⟩
  intro m s n t
  rw [sortOrder_number, Decimal.toRat_make, Decimal.toRat_make]

/-- A null, a number and a text are in order, as are two equal numbers of different scales. -/
theorem sortOrder_of_unlike_kinds :
    let one : Value := number (.make 1000 3)
    (null.sortOrder one).isLE ∧ (one.sortOrder (text "")).isLE ∧ (null.sortOrder (text "")).isLE ∧
      one.compare? (number (.make 1 0)) = some .eq ∧ one.sortOrder (number (.make 1 0)) = .eq := by
  intro one
  obtain ⟨-, htrans, -, -, hcompare, -⟩ := sortOrder_total_order
  have hnull : (null.sortOrder one).isLE := by decide
  have htext : (one.sortOrder (text "")).isLE := by decide
  have hone : one.compare? (number (.make 1 0)) = some .eq := by decide
  exact ⟨hnull, htext, htrans _ _ _ hnull htext, hone, hcompare _ _ _ hone⟩

end Value

end RowSpec
