import Mathlib.Data.List.Basic
import Mathlib.Data.List.Induction

/-!
# First appearances

Of the elements of a list, each where it appears first.

* `eraseDups_concat`           one element more is new, or changes nothing;
* `nodup_eraseDups`            no element appears twice;
* `pairwise_idxOf_eraseDups`   first appearances keep their order;
* `mem_before_eraseDups`       so what appears earlier stands before.
-/

namespace RowSpec

variable {κ : Type*} [DecidableEq κ]

theorem eraseDups_concat (l : List κ) (a : κ) :
    (l ++ [a]).eraseDups = if a ∈ l then l.eraseDups else l.eraseDups ++ [a] := by
  rw [List.eraseDups_append]
  by_cases h : a ∈ l
  · have hnone : [a].removeAll l = [] := by simp [List.removeAll, h]
    rw [if_pos h, hnone, List.eraseDups_nil, List.append_nil]
  · have hall : [a].removeAll l = [a] := by simp [List.removeAll, h]
    rw [if_neg h, hall]
    rfl

theorem nodup_eraseDups (l : List κ) : l.eraseDups.Nodup := by
  induction l using List.reverseRecOn with
  | nil => exact List.nodup_nil
  | append_singleton l a ih =>
    rw [eraseDups_concat]
    split
    · exact ih
    · rename_i h
      refine List.nodup_append.mpr ⟨ih, List.pairwise_singleton _ a, ?_⟩
      rintro b hb _ (_ | ⟨_, ⟨⟩⟩) rfl
      exact h (List.mem_eraseDups.mp hb)

/-- First occurrences keep their order. -/
theorem pairwise_idxOf_eraseDups (l : List κ) :
    l.eraseDups.Pairwise fun a b => l.idxOf a < l.idxOf b := by
  induction l using List.reverseRecOn with
  | nil => exact .nil
  | append_singleton l a ih =>
    have hmem : ∀ b ∈ l.eraseDups, b ∈ l := fun b => List.mem_eraseDups.mp
    have hkeep : ∀ b ∈ l.eraseDups, (l ++ [a]).idxOf b = l.idxOf b := fun b hb =>
      List.idxOf_append_of_mem (hmem b hb)
    have hold : l.eraseDups.Pairwise fun b c => (l ++ [a]).idxOf b < (l ++ [a]).idxOf c :=
      ih.imp_of_mem fun hb hc h => by rwa [hkeep _ hb, hkeep _ hc]
    rw [eraseDups_concat]
    split
    · exact hold
    · rename_i hnew
      refine List.pairwise_append.mpr ⟨hold, List.pairwise_singleton _ a, fun b hb c hc => ?_⟩
      have hlt := List.idxOf_lt_length_of_mem (hmem b hb)
      rw [List.mem_singleton.mp hc, hkeep b hb, List.idxOf_append_of_notMem hnew]
      omega

theorem mem_before_eraseDups {l before after : List κ} {a b : κ}
    (h : l.eraseDups = before ++ b :: after) (ha : a ∈ l) (hlt : l.idxOf a < l.idxOf b) :
    a ∈ before := by
  have horder := pairwise_idxOf_eraseDups l
  have hmem : a ∈ l.eraseDups := List.mem_eraseDups.mpr ha
  rw [h] at horder hmem
  refine (List.mem_append.mp hmem).resolve_right fun hmem => ?_
  rcases List.mem_cons.mp hmem with rfl | hmem
  · exact Nat.lt_irrefl _ hlt
  · have hgt := (List.pairwise_cons.mp (List.pairwise_append.mp horder).2.1).1 a hmem
    omega

theorem eraseDups_sublist (l : List κ) : l.eraseDups.Sublist l := by
  induction l using List.reverseRecOn with
  | nil => exact .slnil
  | append_singleton l a ih =>
    rw [eraseDups_concat]
    split
    · exact ih.trans (List.sublist_append_left l [a])
    · exact ih.append_right [a]

end RowSpec
