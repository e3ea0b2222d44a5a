import Mathlib.Data.List.Sort

/-!
# Stable sorts

What a stable sort by a total preorder does, and why an earlier sort by a coarser order leaves no
trace in it.

* `Preordered le`                      `le` is transitive and total;
* `Preordered.filter_mergeSort`        elements tied with each other keep their order;
* `Preordered.eq_of_filter_tied`       a sorted list is known by its runs of tied elements;
* `Preordered.mergeSort_eq`            so a list of the same runs has the same sort;
* `Preordered.mergeSort_mergeSort`     a sort after a sort by a coarser order.
-/

namespace RowSpec

variable {α : Type*} {le le' : α → α → Bool}

structure Preordered (le : α → α → Bool) : Prop where
  trans : ∀ a b c, le a b → le b c → le a c
  total : ∀ a b, le a b || le b a

/-- neither comes before the other -/
def tied (le : α → α → Bool) (a b : α) : Bool := le a b && le b a

theorem tied_iff {a b : α} : tied le a b ↔ le a b ∧ le b a := by
  unfold tied; exact Bool.and_eq_true_iff

namespace Preordered

theorem refl (h : Preordered le) (a : α) : le a a := by
  have ht := h.total a a
  rwa [Bool.or_self] at ht

theorem tied_refl (h : Preordered le) (a : α) : tied le a a := tied_iff.mpr ⟨h.refl a, h.refl a⟩

/-- elements tied with `x` are tied with each other -/
theorem pairwise_filter_tied (h : Preordered le) (x : α) (l : List α) :
    (l.filter (tied le x)).Pairwise (fun a b => le a b) := by
  apply List.pairwise_of_forall_mem_list
  intro a ha b hb
  have h1 := (tied_iff.mp (List.mem_filter.mp ha).2).2
  have h2 := (tied_iff.mp (List.mem_filter.mp hb).2).1
  exact h.trans a x b h1 h2

/-- **Stability**: the elements tied with `x` keep their order. -/
theorem filter_mergeSort (h : Preordered le) (x : α) (l : List α) :
    (l.mergeSort le).filter (tied le x) = l.filter (tied le x) := by
  have hsub : (l.filter (tied le x)).Sublist (l.mergeSort le) :=
    List.sublist_mergeSort h.trans h.total (h.pairwise_filter_tied x l) List.filter_sublist
  have hsub' := hsub.filter (tied le x)
  rw [List.filter_filter] at hsub'
  simp only [Bool.and_self] at hsub'
  have hlen : ((l.mergeSort le).filter (tied le x)).length = (l.filter (tied le x)).length :=
    ((List.mergeSort_perm l le).filter (tied le x)).length_eq
  exact (hsub'.eq_of_length hlen.symm).symm

theorem pairwise_mergeSort (h : Preordered le) (l : List α) :
    (l.mergeSort le).Pairwise (fun a b => le a b) :=
  List.pairwise_mergeSort h.trans h.total l

/-- Two sorted lists with the same runs of tied elements are equal. -/
theorem eq_of_filter_tied (h : Preordered le) {s t : List α}
    (hs : s.Pairwise (fun a b => le a b)) (ht : t.Pairwise (fun a b => le a b))
    (hst : ∀ x, s.filter (tied le x) = t.filter (tied le x)) : s = t := by
  induction s generalizing t with
  | nil =>
    cases t with
    | nil => rfl
    | cons b t =>
      have hb := hst b
      rw [List.filter_cons_of_pos (h.tied_refl b)] at hb
      cases hb
  | cons a s ih =>
    have ha := hst a
    rw [List.filter_cons_of_pos (h.tied_refl a)] at ha
    cases t with
    | nil => cases ha
    | cons b t =>
      -- each head stands first in the other list's run, so the heads are tied
      have hab : le a b := by
        have hb := hst b
        rw [List.filter_cons_of_pos (l := t) (h.tied_refl b)] at hb
        have hmem : b ∈ a :: s := (List.mem_filter.mp (hb ▸ List.mem_cons_self)).1
        rcases List.mem_cons.mp hmem with rfl | hm
        · exact h.refl _
        · exact (List.pairwise_cons.mp hs).1 b hm
      have hba : le b a := by
        have hmem : a ∈ b :: t := (List.mem_filter.mp (ha ▸ List.mem_cons_self)).1
        rcases List.mem_cons.mp hmem with rfl | hm
        · exact h.refl _
        · exact (List.pairwise_cons.mp ht).1 a hm
      rw [List.filter_cons_of_pos (tied_iff.mpr ⟨hab, hba⟩)] at ha
      obtain rfl : a = b := (List.cons.inj ha).1
      have hrest : ∀ x, s.filter (tied le x) = t.filter (tied le x) := by
        intro x
        have hx := hst x
        rw [List.filter_cons, List.filter_cons] at hx
        split at hx
        · exact (List.cons.inj hx).2
        · exact hx
      rw [ih (List.pairwise_cons.mp hs).2 (List.pairwise_cons.mp ht).2 hrest]

theorem mergeSort_eq (h : Preordered le) {l m : List α}
    (hlm : ∀ x, l.filter (tied le x) = m.filter (tied le x)) : l.mergeSort le = m.mergeSort le := by
  apply h.eq_of_filter_tied (h.pairwise_mergeSort l) (h.pairwise_mergeSort m)
  intro x
  rw [h.filter_mergeSort, h.filter_mergeSort, hlm]

/-- **A sort hides an earlier one** by an order that it refines. -/
theorem mergeSort_mergeSort (h : Preordered le) (h' : Preordered le')
    (refines : ∀ a b, le' a b → le a b) (l : List α) :
    (l.mergeSort le).mergeSort le' = l.mergeSort le' := by
  apply h'.mergeSort_eq
  intro x
  have hfine : ∀ m : List α,
      m.filter (tied le' x) = (m.filter (tied le x)).filter (tied le' x) := by
    intro m
    rw [List.filter_filter]
    apply List.filter_congr
    intro y _
    by_cases hy : tied le' x y
    · obtain ⟨h1, h2⟩ := tied_iff.mp hy
      rw [hy, tied_iff.mpr ⟨refines x y h1, refines y x h2⟩, Bool.and_self]
    · rw [Bool.not_eq_true] at hy
      rw [hy, Bool.false_and]
  rw [hfine, h.filter_mergeSort, ← hfine]

end Preordered

end RowSpec
