import RowSpec.Proofs.Yields
import RowSpec.Record.Keyed
import RowSpec.Store.Table

/-!
# Identifiers of rows

Only an insert asks whether an identifier is taken. No other write needs to: an update puts a row in
the place of one of an equal identifier, which is distinct from all others as that one was, and bulk
changes keep the identifiers if assignments do.

* `ids`, `DistinctIds`       the identifiers of rows;
* `FixedIds`                 entities that no assignment gives another identifier;
* `DistinctIds.replaceRow`, `ids_reviseWhere`, `ids_dropWhere`   the identifiers after changes;
* `DistinctIds.apply`        no write makes two rows share one.
-/

namespace RowSpec

variable {ε : Type} [Entity ε]

def ids (rows : List ε) : List (Entity.Id ε) := rows.map Entity.id

/-- No two identifiers are equal. -/
def DistinctIds (rows : List ε) : Prop := (ids rows).Pairwise fun i j => (i == j) = false

/-- No assignment changes an identifier. -/
def FixedIds (ε : Type) [Entity ε] : Prop :=
  ∀ (row : ε) (name : String) (v : Value) (row' : ε),
    Record.setField row name v = .ok row' → Entity.id row' = Entity.id row

theorem KeyedBy.fixedIds {κ : Type} [Identifier κ] : FixedIds (KeyedBy κ) := by
  intro row name v row' h
  change row.assign name v = .ok row' at h
  unfold KeyedBy.assign at h
  split at h
  · cases h
  · split at h
    · cases h
    · split at h
      · cases h
        rfl
      · cases h

/-! ## changes of rows -/

theorem distinctIds_cons {row : ε} {rest : List ε} : DistinctIds (row :: rest) ↔
    (∀ other ∈ rest, hasId (Entity.id other) row = false) ∧ DistinctIds rest :=
  List.pairwise_cons.trans (and_congr_left' List.forall_mem_map)

theorem DistinctIds.concat {rows : List ε} (h : DistinctIds rows) {new : ε}
    (hfree : rows.any (hasId (Entity.id new)) = false) : DistinctIds (rows ++ [new]) := by
  rw [DistinctIds, ids, List.map_append, List.pairwise_append]
  refine ⟨h, List.pairwise_singleton _ _, fun i hi j hj => ?_⟩
  obtain ⟨row, hrow, rfl⟩ := List.mem_map.mp hi
  rw [List.mem_singleton.mp hj]
  exact Bool.eq_false_iff.mpr (List.any_eq_false.mp hfree row hrow)

theorem mem_replaceRow {new row : ε} {rows : List ε} (h : row ∈ replaceRow new rows) :
    row = new ∨ row ∈ rows := by
  induction rows with
  | nil => cases h
  | cons first rest ih =>
    rw [replaceRow] at h
    split at h <;> rcases List.mem_cons.mp h with rfl | h
    · exact .inl rfl
    · exact .inr (List.mem_cons_of_mem first h)
    · exact .inr List.mem_cons_self
    · exact (ih h).imp_right (List.mem_cons_of_mem first)

/-- A row gives way to one of an equal identifier only. -/
theorem DistinctIds.replaceRow (new : ε) {rows : List ε} (h : DistinctIds rows) :
    DistinctIds (replaceRow new rows) := by
  induction rows with
  | nil => exact h
  | cons row rest ih =>
    obtain ⟨hrow, hrest⟩ := distinctIds_cons.mp h
    rw [RowSpec.replaceRow]
    split
    · rename_i hid
      exact distinctIds_cons.mpr
        ⟨fun other hother => (BEq.congr_left hid).symm.trans (hrow other hother), hrest⟩
    · rename_i hid
      refine distinctIds_cons.mpr ⟨fun other hother => ?_, ih hrest⟩
      rcases mem_replaceRow hother with rfl | hother
      · exact Bool.eq_false_iff.mpr hid
      · exact hrow other hother

theorem id_assignAll (hfixed : FixedIds ε) {as : List Assignment} {row row' : ε}
    (h : assignAll as row = .ok row') : Entity.id row' = Entity.id row := by
  induction as generalizing row with
  | nil =>
    cases h
    rfl
  | cons a as ih =>
    obtain ⟨new, hnew, hrest⟩ := eq_ok_of_bind h
    exact (ih hrest).trans (hfixed row a.field a.value new hnew)

section
variable {chosen : ε → Except FieldError Bool} {rows rows' : List ε} {n : Nat}

theorem ids_reviseWhere {change : ε → Except FieldError ε}
    (hchange : ∀ row row', change row = .ok row' → Entity.id row' = Entity.id row)
    (h : reviseWhere chosen change rows = .ok (rows', n)) : ids rows' = ids rows := by
  induction rows generalizing rows' n with
  | nil =>
    cases h
    rfl
  | cons row rest ih =>
    obtain ⟨b, -, h⟩ := eq_ok_of_bind h
    cases b with
    | true =>
      obtain ⟨new, hnew, h⟩ := eq_ok_of_bind h
      obtain ⟨⟨others, m⟩, hrest, h⟩ := eq_ok_of_bind h
      cases h
      rw [ids, ids, List.map_cons, List.map_cons, hchange row new hnew]
      exact congrArg (Entity.id row :: ·) (ih hrest)
    | false =>
      obtain ⟨⟨others, m⟩, hrest, h⟩ := eq_ok_of_bind h
      cases h
      exact congrArg (Entity.id row :: ·) (ih hrest)

theorem ids_dropWhere (h : dropWhere chosen rows = .ok (rows', n)) :
    (ids rows').Sublist (ids rows) := by
  induction rows generalizing rows' n with
  | nil =>
    cases h
    exact .slnil
  | cons row rest ih =>
    obtain ⟨b, -, h⟩ := eq_ok_of_bind h
    obtain ⟨⟨others, m⟩, hrest, h⟩ := eq_ok_of_bind h
    cases b with
    | true =>
      cases h
      exact (ih hrest).cons _
    | false =>
      cases h
      exact (ih hrest).cons_cons _

end

/-! ## writes -/

omit [Entity ε] in
theorem ofBulk_eq_ok {r : Except FieldError (List ε × Nat)} {rows : List ε} {effect : Effect ε}
    (h : ofBulk r = .ok (rows, effect)) : ∃ n, r = .ok (rows, n) := by
  cases r with
  | error e => cases h
  | ok r =>
    obtain ⟨rows', n⟩ := r
    cases h
    exact ⟨n, rfl⟩

/-- **A write** leaves distinct identifiers distinct. -/
theorem DistinctIds.apply (hfixed : FixedIds ε) {t : Table ε} (h : DistinctIds t.rows)
    {w : Write ε} {rows : List ε} {effect : Effect ε} (hw : t.apply w = .ok (rows, effect)) :
    DistinctIds rows := by
  cases w with
  | insert row =>
    rw [Table.apply] at hw
    split at hw
    · cases hw
    · rename_i hfree
      cases hw
      exact h.concat (Bool.eq_false_iff.mpr hfree)
  | update row =>
    cases hw
    exact h.replaceRow row
  | delete id =>
    cases hw
    exact List.Pairwise.sublist (List.filter_sublist.map _) h
  | updateWhere c =>
    obtain ⟨n, hn⟩ := ofBulk_eq_ok hw
    rw [DistinctIds, ids_reviseWhere (fun _ _ => id_assignAll hfixed) hn]
    exact h
  | deleteWhere c =>
    obtain ⟨n, hn⟩ := ofBulk_eq_ok hw
    exact List.Pairwise.sublist (ids_dropWhere hn) h

end RowSpec
