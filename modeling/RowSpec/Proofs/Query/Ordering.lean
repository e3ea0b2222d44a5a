import RowSpec.Proofs.Query.Grouping
import RowSpec.Proofs.Sorting
import RowSpec.Proofs.Value.Order

/-!
# Ordering rows

* `rowOrder`             the lexicographic order of rows by sort keys, each in its direction;
* `preordered_inOrder`   it is transitive and total;
* `orderRows`            the rows sorted by keys;
* `sortBy_yields`        sorting by keys, and the row that lacks one of their fields.
-/

namespace RowSpec

open Std (LawfulEqCmp OrientedCmp ReflCmp TransCmp)

variable {ρ : Type} [Record ρ]

/-! ## order of rows -/

def rowOrder : List SortKey → ρ → ρ → Ordering
  | [], _, _ => .eq
  | k :: ks, a, b =>
    (k.direction.orient (Record.keyValue k.field a) (Record.keyValue k.field b)).then
      (rowOrder ks a b)

/-- Whether the order lets `a` stand before `b`. -/
def inOrder (keys : List SortKey) (a b : ρ) : Bool := (rowOrder keys a b).isLE

instance (d : Direction) : TransCmp d.orient where
  eq_swap {a b} := by
    cases d with
    | asc => exact @OrientedCmp.eq_swap _ Value.sortOrder _ a b
    | desc => exact @OrientedCmp.eq_swap _ Value.sortOrder _ b a
  isLE_trans {a b c} hab hbc := by
    cases d with
    | asc => exact @TransCmp.isLE_trans _ Value.sortOrder _ a b c hab hbc
    | desc => exact @TransCmp.isLE_trans _ Value.sortOrder _ c b a hbc hab

instance (d : Direction) : LawfulEqCmp d.orient where
  compare_self := ReflCmp.compare_self
  eq_of_compare {a b} h := by
    cases d with
    | asc => exact @LawfulEqCmp.eq_of_compare _ Value.sortOrder _ a b h
    | desc => exact (@LawfulEqCmp.eq_of_compare _ Value.sortOrder _ b a h).symm

theorem rowOrder_swap (keys : List SortKey) (a b : ρ) :
    rowOrder keys a b = (rowOrder keys b a).swap := by
  induction keys with
  | nil => rfl
  | cons k ks ih =>
    rw [rowOrder, rowOrder, Ordering.swap_then, ← ih,
      ← @OrientedCmp.eq_swap _ k.direction.orient _ _ _]

theorem inOrder_cons {k : SortKey} {ks : List SortKey} {a b : ρ} :
    inOrder (k :: ks) a b ↔
      (k.direction.orient (Record.keyValue k.field a) (Record.keyValue k.field b)).isLE ∧
        (k.direction.orient (Record.keyValue k.field a) (Record.keyValue k.field b) = .lt ∨
          inOrder ks a b) :=
  Ordering.isLE_then_iff_and

theorem inOrder_trans (keys : List SortKey) (a b c : ρ) (hab : inOrder keys a b)
    (hbc : inOrder keys b c) : inOrder keys a c := by
  induction keys with
  | nil => rfl
  | cons k ks ih =>
    obtain ⟨hab, hab'⟩ := inOrder_cons.mp hab
    obtain ⟨hbc, hbc'⟩ := inOrder_cons.mp hbc
    refine inOrder_cons.mpr ⟨TransCmp.isLE_trans hab hbc, ?_⟩
    rcases hab' with hlt | hab'
    · exact .inl (TransCmp.lt_of_lt_of_isLE hlt hbc)
    · rcases hbc' with hlt | hbc'
      · exact .inl (TransCmp.lt_of_isLE_of_lt hab hlt)
      · exact .inr (ih hab' hbc')

theorem inOrder_total (keys : List SortKey) (a b : ρ) : inOrder keys a b || inOrder keys b a := by
  unfold inOrder
  rw [rowOrder_swap keys b a]
  cases rowOrder keys a b <;> rfl

theorem preordered_inOrder (keys : List SortKey) : Preordered (inOrder (ρ := ρ) keys) :=
  ⟨inOrder_trans keys, inOrder_total keys⟩

/-- More keys only tell apart what was tied. -/
theorem inOrder_of_append {keys more : List SortKey} {a b : ρ} (h : inOrder (keys ++ more) a b) :
    inOrder keys a b := by
  induction keys with
  | nil => rfl
  | cons k ks ih =>
    obtain ⟨hle, hrest⟩ := inOrder_cons.mp h
    exact inOrder_cons.mpr ⟨hle, hrest.imp_right ih⟩

/-- rows sorted, those equal on all keys in the order they had -/
def orderRows (keys : List SortKey) (rows : List ρ) : List ρ := rows.mergeSort (inOrder keys)

theorem mem_orderRows {keys : List SortKey} {rows : List ρ} (row : ρ) :
    row ∈ orderRows keys rows ↔ row ∈ rows := List.mem_mergeSort

theorem orderRows_nil (rows : List ρ) : orderRows [] rows = rows :=
  List.mergeSort_of_pairwise (List.pairwise_of_forall fun _ _ => rfl)

theorem orderRows_orderRows (keys more : List SortKey) (rows : List ρ) :
    orderRows (keys ++ more) (orderRows keys rows) = orderRows (keys ++ more) rows :=
  (preordered_inOrder keys).mergeSort_mergeSort (preordered_inOrder (keys ++ more))
    (fun _ _ => inOrder_of_append) rows

/-! ## sorting by keys -/

/-- the values that rows are sorted by -/
def sortValues (keys : List SortKey) (row : ρ) : List Value :=
  keys.map fun k => Record.keyValue k.field row

theorem compareKeys_sortValues (keys : List SortKey) (a b : ρ) :
    compareKeys keys (sortValues keys a) (sortValues keys b) = rowOrder keys a b := by
  induction keys with
  | nil => rfl
  | cons k ks ih =>
    show Ordering.then _ (compareKeys ks (sortValues ks a) (sortValues ks b)) = _
    rw [ih]
    rfl

theorem keyValues_yields (row : ρ) (keys : List SortKey) :
    Yields (keyValues row keys) (fun e => ∃ k ∈ keys, Lacks k.field [row] e)
      (sortValues keys row) := by
  induction keys with
  | nil =>
    refine (Yields.ok []).imp (fun _ => False.elim) fun _ => ⟨?_, rfl⟩
    rintro e ⟨_, ⟨⟩, _⟩
  | cons k ks ih =>
    rw [keyValues]
    cases hv : Record.field row k.field with
    | none =>
      rw [Record.fetch_of_none hv]
      exact Yields.error ⟨k, List.mem_cons_self, rfl, row, List.mem_cons_self, hv⟩
    | some v =>
      rw [Record.fetch_of_some hv]
      refine (ih.map (v :: ·)).imp ?_ fun hnone => ⟨?_, ?_⟩
      · rintro e ⟨k', hk', h⟩
        exact ⟨k', List.mem_cons_of_mem k hk', h⟩
      · rintro e ⟨k', hk', h⟩
        rcases List.mem_cons.mp hk' with rfl | hk'
        · obtain ⟨_, _, ⟨⟩, _⟩ := (lacks_cons_of_some hv).mp h
        · exact hnone e ⟨k', hk', h⟩
      · show _ = Record.keyValue k.field row :: sortValues ks row
        rw [Record.keyValue, hv]
        rfl

theorem withKeys_yields (keys : List SortKey) (rows : List ρ) :
    Yields (withKeys keys rows) (fun e => ∃ k ∈ keys, Lacks k.field rows e)
      (rows.map fun row => (sortValues keys row, row)) := by
  induction rows with
  | nil =>
    refine (Yields.ok []).imp (fun _ => False.elim) fun _ => ⟨?_, rfl⟩
    rintro e ⟨_, _, _, _, ⟨⟩, _⟩
  | cons row rows ih =>
    rw [withKeys]
    have hrow := keyValues_yields row keys
    refine (hrow.bind fun _ => ih.map ((_, row) :: ·)).imp ?_ fun hnone => ⟨?_, rfl⟩
    · rintro e (⟨k, hk, h⟩ | ⟨k, hk, h⟩)
      · obtain ⟨he, r, hr, hf⟩ := h
        rw [List.mem_singleton] at hr
        exact ⟨k, hk, he, r, hr ▸ List.mem_cons_self, hf⟩
      · exact ⟨k, hk, h.cons row⟩
    · rintro e ⟨k, hk, he, r, hr, hf⟩
      rcases List.mem_cons.mp hr with rfl | hr
      · exact hnone e (.inl ⟨k, hk, he, r, List.mem_cons_self, hf⟩)
      · exact hnone e (.inr ⟨k, hk, he, r, hr, hf⟩)

/-- **Sorting by keys**, whose fields every row must have. -/
theorem sortBy_yields (keys : List SortKey) (rows : List ρ) :
    Yields (sortBy keys rows) (fun e => ∃ k ∈ keys, Lacks k.field rows e)
      (orderRows keys rows) := by
  have hsorted := (withKeys_yields keys rows).map fun keyed =>
    (keyed.mergeSort fun a b => compareKeys keys a.1 b.1 != .gt).map (·.2)
  refine hsorted.imp (fun _ => id) fun hnone => ⟨hnone, ?_⟩
  have hle : ∀ a ∈ rows, ∀ b ∈ rows, inOrder keys a b =
      (compareKeys keys (sortValues keys a) (sortValues keys b) != .gt) := by
    intro a _ b _
    rw [compareKeys_sortValues, inOrder]
    cases rowOrder keys a b <;> rfl
  rw [← List.map_mergeSort (f := fun row => (sortValues keys row, row)) hle, List.map_map]
  exact List.map_id _

end RowSpec
