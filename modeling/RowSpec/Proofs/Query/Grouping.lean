import Mathlib.Data.List.Basic
import RowSpec.Proofs.FirstAppearances
import RowSpec.Proofs.Yields
import RowSpec.Query.Basic

/-!
# Gathering rows

Rows of one key are put together, keys in order of first appearance and the rows of a key in the
order they had.

* `gatherBy`           the rows gathered by a key;
* `groupsOf_concat`    one row more joins the group of its key, or opens one;
* `foldl_joinGroup`    joining rows one by one makes the groups;
* `cluster_yields`     gathering by a field, and the row that has no such field.
-/

namespace RowSpec

variable {ρ : Type}

/-! ## gathering -/

def gatherBy {κ : Type} [DecidableEq κ] (key : ρ → κ) (rows : List ρ) : List ρ :=
  (rows.map key).eraseDups.flatMap fun k => rows.filter (key · = k)

theorem mem_gatherBy {κ : Type} [DecidableEq κ] {key : ρ → κ} {rows : List ρ} {row : ρ} :
    row ∈ gatherBy key rows ↔ row ∈ rows := by
  rw [gatherBy, List.mem_flatMap]
  constructor
  · rintro ⟨k, _, hk⟩
    exact (List.mem_filter.mp hk).1
  · intro hrow
    refine ⟨key row, List.mem_eraseDups.mpr (List.mem_map_of_mem hrow), ?_⟩
    exact List.mem_filter.mpr ⟨hrow, decide_eq_true rfl⟩

/-! ## joining rows to groups -/

theorem joinGroup_of_mem {key : Value} {row : ρ} {keys : List Value} {members : Value → List ρ}
    (hn : keys.Nodup) (hk : key ∈ keys) :
    joinGroup key row (keys.map fun k => (k, members k)) =
      keys.map fun k => (k, members k ++ if key = k then [row] else []) := by
  induction keys with
  | nil => cases hk
  | cons k keys ih =>
    obtain ⟨hfresh, hn⟩ := List.nodup_cons.mp hn
    rw [List.map_cons, joinGroup, List.map_cons]
    by_cases h : k = key
    · subst h
      rw [if_pos rfl, if_pos rfl]
      congr 1
      apply List.map_congr_left
      intro k' hk'
      have hne : k ≠ k' := fun he => hfresh (he ▸ hk')
      rw [if_neg hne, List.append_nil]
    · have hk : key ∈ keys := (List.mem_cons.mp hk).resolve_left (Ne.symm h)
      rw [if_neg h, if_neg (Ne.symm h), List.append_nil, ih hn hk]

theorem joinGroup_of_not_mem {key : Value} {row : ρ} {groups : List (Value × List ρ)}
    (hk : key ∉ groups.map (·.1)) :
    joinGroup key row groups = groups ++ [(key, [row])] := by
  induction groups with
  | nil => rfl
  | cons g groups ih =>
    obtain ⟨k, members⟩ := g
    rw [List.map_cons, List.mem_cons, not_or] at hk
    rw [joinGroup, if_neg (Ne.symm hk.1), ih hk.2, List.cons_append]

/-- the groups of rows that come with their keys -/
def groupsOf (keyed : List (Value × ρ)) : List (Value × List ρ) :=
  (keyed.map (·.1)).eraseDups.map fun k => (k, (keyed.filter (·.1 = k)).map (·.2))

theorem groupsOf_concat (keyed : List (Value × ρ)) (key : Value) (row : ρ) :
    groupsOf (keyed ++ [(key, row)]) = joinGroup key row (groupsOf keyed) := by
  have hmembers : ∀ k, ((keyed ++ [(key, row)]).filter (·.1 = k)).map (·.2) =
      (keyed.filter (·.1 = k)).map (·.2) ++ if key = k then [row] else [] := by
    intro k
    rw [List.filter_append, List.map_append]
    by_cases h : key = k <;> simp [h]
  rw [groupsOf, List.map_append, List.map_singleton, eraseDups_concat]
  by_cases h : key ∈ keyed.map (·.1)
  · rw [if_pos h, groupsOf, joinGroup_of_mem (nodup_eraseDups _) (List.mem_eraseDups.mpr h)]
    exact List.map_congr_left fun k _ => by rw [hmembers]
  · have hfresh : key ∉ (groupsOf keyed).map (·.1) := by
      simpa [groupsOf, Function.comp_def] using h
    rw [if_neg h, joinGroup_of_not_mem hfresh, List.map_append, groupsOf]
    congr 1
    · apply List.map_congr_left
      intro k hk
      have hne : key ≠ k := fun he => h (List.mem_eraseDups.mp (he ▸ hk))
      rw [hmembers, if_neg hne, List.append_nil]
    · have hnone : keyed.filter (·.1 = key) = [] := by
        rw [List.filter_eq_nil_iff]
        intro kr hkr he
        exact h (List.mem_map.mpr ⟨kr, hkr, of_decide_eq_true he⟩)
      rw [List.map_singleton, hmembers, hnone, if_pos rfl]
      rfl

theorem foldl_joinGroup (keyed : List (Value × ρ)) :
    keyed.foldl (fun groups kr => joinGroup kr.1 kr.2 groups) [] = groupsOf keyed := by
  induction keyed using List.reverseRecOn with
  | nil => rfl
  | append_singleton keyed kr ih =>
    rw [List.foldl_append, ih, groupsOf_concat]
    rfl

theorem flatMap_groupsOf (key : ρ → Value) (rows : List ρ) :
    (groupsOf (rows.map fun row => (key row, row))).flatMap (·.2) = gatherBy key rows := by
  rw [groupsOf, List.map_map, List.flatMap_map, gatherBy]
  congr 1
  funext k
  show ((rows.map _).filter _).map _ = _
  rw [List.filter_map, List.map_map]
  exact List.map_id _

theorem length_joinGroup (key : Value) (row : ρ) (groups : List (Value × List ρ)) :
    ((joinGroup key row groups).flatMap (·.2)).length = (groups.flatMap (·.2)).length + 1 := by
  induction groups with
  | nil => rfl
  | cons g rest ih =>
    obtain ⟨k, members⟩ := g
    rw [joinGroup, List.flatMap_cons, List.length_append]
    by_cases h : k = key
    · rw [if_pos h, List.flatMap_cons, List.length_append, List.length_append]
      exact Nat.add_right_comm members.length 1 _
    · rw [if_neg h, List.flatMap_cons, List.length_append, ih]
      exact (Nat.add_assoc members.length _ 1).symm

theorem length_foldl_joinGroup (keyed : List (Value × ρ)) (groups : List (Value × List ρ)) :
    ((keyed.foldl (fun groups kr => joinGroup kr.1 kr.2 groups) groups).flatMap (·.2)).length =
      (groups.flatMap (·.2)).length + keyed.length := by
  induction keyed generalizing groups with
  | nil => rfl
  | cons kr keyed ih =>
    rw [List.foldl_cons, ih, length_joinGroup, List.length_cons]
    omega

/-- Gathering loses no row and makes none. -/
theorem length_gatherBy (key : ρ → Value) (rows : List ρ) :
    (gatherBy key rows).length = rows.length := by
  rw [← flatMap_groupsOf, ← foldl_joinGroup, length_foldl_joinGroup, List.length_map]
  exact Nat.zero_add _

/-! ## gathering by a field -/

variable [Record ρ]

/-- the value of a field, null where the row has no such field -/
def Record.keyValue (name : String) (row : ρ) : Value := (Record.field row name).getD .null

/-- A row has no field of this name. -/
def Lacks (name : String) (rows : List ρ) (e : FieldError) : Prop :=
  e = .unknown name ∧ ∃ row ∈ rows, Record.field row name = none

theorem Lacks.unique {name : String} {rows : List ρ} (e e' : FieldError) (h : Lacks name rows e)
    (h' : Lacks name rows e') : e = e' := h.1.trans h'.1.symm

theorem Lacks.cons {name : String} {rows : List ρ} {e : FieldError} (h : Lacks name rows e)
    (row : ρ) : Lacks name (row :: rows) e := by
  obtain ⟨he, r, hr, hf⟩ := h
  exact ⟨he, r, List.mem_cons_of_mem row hr, hf⟩

theorem lacks_cons_of_some {name : String} {rows : List ρ} {row : ρ} {v : Value} {e : FieldError}
    (hv : Record.field row name = some v) : Lacks name (row :: rows) e ↔ Lacks name rows e := by
  constructor
  · rintro ⟨he, r, hr, hf⟩
    rcases List.mem_cons.mp hr with rfl | hr
    · rw [hv] at hf
      cases hf
    · exact ⟨he, r, hr, hf⟩
  · intro h
    exact h.cons row

theorem lacks_congr {name : String} {rows rows' : List ρ} (h : ∀ row, row ∈ rows ↔ row ∈ rows')
    {e : FieldError} : Lacks name rows e ↔ Lacks name rows' e := by
  rw [Lacks, Lacks]
  simp only [h]

/-- Keys go with their rows. -/
theorem withKey_yields (name : String) (rows : List ρ) :
    Yields (withKey name rows) (Lacks name rows)
      (rows.map fun row => (Record.keyValue name row, row)) := by
  induction rows with
  | nil =>
    refine (Yields.ok []).imp (fun _ => False.elim) fun _ => ⟨?_, rfl⟩
    rintro e ⟨_, _, ⟨⟩, _⟩
  | cons row rows ih =>
    rw [withKey]
    cases hv : Record.field row name with
    | none =>
      rw [Record.fetch_of_none hv]
      exact Yields.error ⟨rfl, row, List.mem_cons_self, hv⟩
    | some v =>
      rw [Record.fetch_of_some hv]
      refine (ih.map ((v, row) :: ·)).imp (fun e h => h.cons row) fun hnone => ⟨?_, ?_⟩
      · intro e he
        exact hnone e ((lacks_cons_of_some hv).mp he)
      · rw [List.map_cons, Record.keyValue, hv]
        rfl

/-- **Gathering by a field**, which every row must have. -/
theorem cluster_yields (name : String) (rows : List ρ) :
    Yields (cluster name rows) (Lacks name rows) (gatherBy (Record.keyValue name) rows) := by
  have hgroups := (withKey_yields name rows).map fun keyed =>
    (keyed.foldl (fun groups kr => joinGroup kr.1 kr.2 groups) []).flatMap (·.2)
  rw [foldl_joinGroup, flatMap_groupsOf] at hgroups
  exact hgroups

end RowSpec
