import RowSpec.Proofs.Store.Bulk
import RowSpec.Proofs.Workspace.FailedWrites

/-!
# Bulk changes of a repository

A repository counts, deletes and updates by specification. All three see the table through the same
session, and the rows that they mean are those that the criteria of the specification fetch.

* `Storage.table_putRows`        rows are found where they were put;
* `Storage.view_putRows`         what others see of them;
* `Storage.table_putRows_seen`   rows put back change no table that can be seen;
* `Table.Fault`                  an evaluation that fails on a row in sight;
* `Repository.count_yields`, `Table.deleteWhere_yields`, `Table.updateWhere_yields`   what the three
                                 report;
* `bulk_changes_as_counted`      deleting and updating do to the rows what counting announces.
-/

namespace RowSpec

/-! ## rows put through a session -/

namespace Storage

variable {ε : Type} {st st' : Storage ε} {through : Option SessionId} {k : TableId}

theorem table_congr {s : SessionId} (htables : st'.tables k = st.tables k)
    (hcopy : st'.copy s k = st.copy s k) : st'.table (some s) k = st.table (some s) k := by
  cases h : st.copy s k with
  | none => rw [table_of_copy_none h, table_of_copy_none (hcopy.trans h), htables]
  | some rows => rw [table_of_copy h, table_of_copy (hcopy.trans h), htables]

theorem table_setTable {s : SessionId} (h : (st.sessions s).staged = none) (t : Table ε) :
    (st.setTable k t).table (some s) k = t := by
  show Session.table (st.sessions s) _ k = t
  rw [Session.table_of_not_inTransaction h]
  exact replace_same ..

theorem table_putRows (st : Storage ε) (through : Option SessionId) (k : TableId) (rows : List ε) :
    (st.putRows through k rows).table through k = (st.table through k).withRows rows := by
  cases through with
  | none => exact replace_same ..
  | some s =>
    cases hs : (st.sessions s).staged with
    | none =>
      have hseen : st.table (some s) k = st.tables k :=
        Session.table_of_not_inTransaction hs st.tables k
      rw [putRows_unstaged hs, table_setTable hs, hseen]
    | some staged =>
      obtain ⟨htables, hcopy⟩ := copy_putRows hs k rows
      have hput := hcopy k
      rw [if_pos rfl] at hput
      rw [table_of_copy hput, htables]
      cases hseen : st.copy s k with
      | none => rw [table_of_copy_none hseen]
      | some old => rw [table_of_copy hseen, Table.withRows_withRows]

/-- Rows put past all sessions are seen without a copy. -/
theorem view_setTable (st : Storage ε) (k : TableId) (rows : List ε) (other : Option SessionId)
    (j : TableId) :
    (st.setTable k ((st.tables k).withRows rows)).table other j = st.table other j ∨
      j = k ∧ st.table other k = st.tables k ∧
        (st.setTable k ((st.tables k).withRows rows)).table other k =
          (st.tables k).withRows rows := by
  by_cases hj : j = k
  · subst hj
    have hput : (st.setTable j ((st.tables j).withRows rows)).tables j =
        (st.tables j).withRows rows := replace_same ..
    cases other with
    | none => exact .inr ⟨rfl, rfl, hput⟩
    | some s =>
      cases hs : st.copy s j with
      | none =>
        exact .inr ⟨rfl, table_of_copy_none hs, (table_of_copy_none (copy_congr rfl ▸ hs)).trans hput⟩
      | some copied =>
        left
        rw [table_of_copy hs, table_of_copy (copy_congr rfl ▸ hs), hput, Table.withRows_withRows]
  · left
    have hother : (st.setTable k ((st.tables k).withRows rows)).tables j = st.tables j :=
      replace_other _ _ hj
    cases other with
    | none => exact hother
    | some s => exact table_congr hother (copy_congr rfl)

/-- After rows were put, a table is seen as before, or it was seen as their session has seen it and
is seen with these rows. -/
theorem view_putRows (st : Storage ε) (through : Option SessionId) (k : TableId) (rows : List ε)
    (other : Option SessionId) (j : TableId) :
    (st.putRows through k rows).table other j = st.table other j ∨
      j = k ∧ st.table other k = st.table through k ∧
        (st.putRows through k rows).table other k = (st.table through k).withRows rows := by
  cases through with
  | none => exact st.view_setTable k rows other j
  | some s =>
    cases hs : (st.sessions s).staged with
    | none =>
      have hseen : st.table (some s) k = st.tables k :=
        Session.table_of_not_inTransaction hs st.tables k
      rw [putRows_unstaged hs, hseen]
      exact st.view_setTable k rows other j
    | some staged =>
      obtain ⟨htables, hcopy⟩ := copy_putRows hs k rows
      cases other with
      | none => exact .inl (congrFun htables j)
      | some i =>
        by_cases hi : i = s
        · subst hi
          by_cases hj : j = k
          · exact .inr ⟨hj, rfl, st.table_putRows ..⟩
          · exact .inl (table_congr (congrFun htables j) ((hcopy j).trans (if_neg hj)))
        · refine .inl (table_congr (congrFun htables j) (copy_congr ?_))
          rw [putRows_sessions_other fun h => hi (Option.some.inj h).symm]

/-- A copy with the rows of its table is seen as the table. -/
theorem table_putRows_seen (st : Storage ε) (through other : Option SessionId) (k j : TableId) :
    (st.putRows through k (st.table through k).rows).table other j = st.table other j := by
  rcases st.view_putRows through k (st.table through k).rows other j with h | ⟨rfl, hseen, h⟩
  · exact h
  · rw [h, hseen, Table.withRows_rows]

end Storage

/-! ## tables -/

theorem ofBulk_yields {ε : Type} {bulk : Except FieldError (List ε × Nat)}
    {fault : FieldError → Prop} {rows : List ε} {n : Nat} (h : Yields bulk fault (rows, n)) :
    Yields (ofBulk bulk) (fun e => ∃ e', fault e' ∧ .field e' = e)
      (rows, (.affected n : Effect ε)) := by
  have hbulk : ofBulk bulk =
      (bulk.mapError StorageError.field).map fun r => (r.1, .affected r.2) := by
    cases bulk <;> rfl
  rw [hbulk]
  exact (h.mapError StorageError.field).mapOk fun r => (r.1, Effect.affected r.2)

variable {ε : Type} [Entity ε]

namespace Table

variable {t : Table ε} {f : Facets} {w : Write ε}

/-- An evaluation fails on a row of the table. -/
def Fault (t : Table ε) (f : Facets) (e : FieldError) : Prop :=
  ∃ row ∈ t.rows, f.FailsOn t.filters row e

/-- the rows that meet all clauses -/
def selected (t : Table ε) (f : Facets) : List ε := t.rows.filter (f.selects t.filters)

/-- the other rows -/
def others (t : Table ε) (f : Facets) : List ε := t.rows.filter (!f.selects t.filters ·)

theorem run_yields (t : Table ε) (f : Facets) :
    Yields (criteriaQuery f t.query).run (t.Fault f) (t.selected f) :=
  f.run_criteriaQuery_yields t.filters t.rows

theorem deleteWhere_yields (t : Table ε) (f : Facets) :
    Yields (t.apply (.deleteWhere f.deleteCommand)) (fun e => ∃ e', t.Fault f e' ∧ .field e' = e)
      (t.others f, .affected (t.selected f).length) :=
  ofBulk_yields (dropWhere_yields (f.targets_yields t.filters) t.rows)

/-- An update also fails on a selected row that cannot be assigned. -/
def UpdateFault (t : Table ε) (f : Facets) (assignments : List Assignment) (e : FieldError) : Prop :=
  ∃ row ∈ t.rows, f.FailsOn t.filters row e ∨
    f.selects t.filters row ∧ assignAll assignments row = .error e

/-- the row after the assignments, or as it is if one of them fails -/
def assigned (assignments : List Assignment) (row : ε) : ε :=
  (assignAll assignments row).toOption.getD row

theorem assignAll_yields (assignments : List Assignment) (row : ε) :
    Yields (assignAll assignments row) (assignAll assignments row = .error ·)
      (assigned assignments row) := by
  unfold assigned
  cases assignAll assignments row with
  | error e => exact Yields.error rfl
  | ok new => exact ⟨fun e => nofun, rfl⟩

theorem updateWhere_yields_of {c : UpdateCommand} {fault : ε → FieldError → Prop}
    {target : ε → Bool}
    (h : ∀ row, Yields (c.toDeleteCommand.targets t.filters row) (fault row) (target row)) :
    Yields (t.apply (.updateWhere c))
      (fun e => ∃ e', (∃ row ∈ t.rows, fault row e' ∨
        target row ∧ assignAll c.assignments row = .error e') ∧ .field e' = e)
      (t.rows.map fun row => if target row then assigned c.assignments row else row,
        .affected (t.rows.filter target).length) :=
  ofBulk_yields (reviseWhere_yields h (assignAll_yields c.assignments) t.rows)

theorem updateWhere_yields (t : Table ε) (f : Facets) (assignments : List Assignment) :
    Yields (t.apply (.updateWhere ⟨f.deleteCommand, assignments⟩))
      (fun e => ∃ e', t.UpdateFault f assignments e' ∧ .field e' = e)
      (t.rows.map fun row => if f.selects t.filters row then assigned assignments row else row,
        .affected (t.selected f).length) :=
  updateWhere_yields_of (f.targets_yields t.filters)

theorem rowsAfter_of_ok {rows : List ε} {effect : Effect ε} (h : t.apply w = .ok (rows, effect)) :
    t.rowsAfter w = rows := by
  rw [rowsAfter, h]

theorem rowsAfter_of_error {e : StorageError} (h : t.apply w = .error e) :
    t.rowsAfter w = t.rows := by
  rw [rowsAfter, h]

/-- No row that is left meets the clauses. -/
theorem others_yields (h : ∀ e, ¬ t.Fault f e) :
    (criteriaQuery f (t.withRows (t.others f)).query).run = .ok [] := by
  refine (run_yields (t.withRows (t.others f)) f).eq_ok_iff.mpr ⟨?_, ?_⟩
  · rintro e ⟨row, hrow, he⟩
    exact h e ⟨row, List.mem_of_mem_filter hrow, he⟩
  · refine (List.filter_eq_nil_iff.mpr fun row hrow => ?_).symm
    have hother := (List.mem_filter.mp hrow).2
    rw [Bool.not_eq_true'] at hother
    exact Bool.eq_false_iff.mp hother

end Table

/-! ## reports -/

namespace Repository

variable {r : Repository} {st : Storage ε} {f : Facets}

/-- what the repository sees -/
def seen (r : Repository) (st : Storage ε) : Table ε := st.table r.session r.table

theorem change_result (r : Repository) (st : Storage ε) (c : Change ε) :
    (r.change st c false).2.result =
      (((r.seen st).apply (c.write r.clock)).map (·.2)).mapError .storage := by
  rw [change, Storage.write, if_neg Bool.false_ne_true, seen]
  cases (st.table r.session r.table).apply (c.write r.clock) <;> rfl

theorem seen_change (r : Repository) (st : Storage ε) (c : Change ε) :
    r.seen (r.change st c false).1 =
      (r.seen st).withRows ((r.seen st).rowsAfter (c.write r.clock)) := by
  rw [change_live]
  exact st.table_putRows ..

/-- A change that fails can be seen in no table. -/
theorem table_change_of_error {c : Change ε} {e : StorageError}
    (h : (r.seen st).apply (c.write r.clock) = .error e) (through : Option SessionId)
    (k : TableId) : (r.change st c false).1.table through k = st.table through k := by
  have hrows := Table.rowsAfter_of_error h
  rw [seen] at hrows
  rw [change_live, hrows]
  exact st.table_putRows_seen ..

theorem count_result (r : Repository) (st : Storage ε) (spec : Specification ε) :
    ((r.reader st).count spec false).result =
      (((criteriaQuery spec.toFacets (r.seen st).query).run.mapError .field).map
        List.length).mapError .storage := by
  rw [← Query.fetch_live]
  rfl

theorem count_yields (r : Repository) (st : Storage ε) (spec : Specification ε) :
    Yields ((r.reader st).count spec false).result
      (fun e => ∃ e', (r.seen st).Fault spec.toFacets e' ∧ .storage (.field e') = e)
      ((r.seen st).selected spec.toFacets).length := by
  rw [count_result]
  apply ((((r.seen st).run_yields spec.toFacets).mapError StorageError.field).mapOk
    List.length |>.mapError RepoError.storage).congr
  intro e
  simp

/-- A bulk change goes with the count of a specification: it succeeds when counting does, reports
the number counted and leaves these rows; when counting fails, all tables stay as they are seen. -/
structure AsCounted (r : Repository) (st : Storage ε) (spec : Specification ε) (c : Change ε)
    (rows : List ε) : Prop where
  report : ∀ effect, (r.change st c false).2.result = .ok effect ↔
    ∃ n, ((r.reader st).count spec false).result = .ok n ∧ effect = .affected n
  rows : ∀ n, ((r.reader st).count spec false).result = .ok n →
    (r.seen (r.change st c false).1).rows = rows
  untouched : ∀ e, ((r.reader st).count spec false).result = .error e →
    ∀ through k, (r.change st c false).1.table through k = st.table through k

theorem asCounted_of_yields {spec : Specification ε} {c : Change ε} {rows : List ε}
    {fault : StorageError → Prop}
    (h : Yields ((r.seen st).apply (c.write r.clock)) fault
      (rows, .affected ((r.seen st).selected spec.toFacets).length))
    (hfault : (∀ e, ¬ fault e) ↔ ∀ e, ¬ (r.seen st).Fault spec.toFacets e) :
    r.AsCounted st spec c rows := by
  have hcount := r.count_yields st spec
  -- both succeed on the same tables
  have hokay : (∃ n, ((r.reader st).count spec false).result = .ok n) ↔ ∀ e, ¬ fault e := by
    rw [hfault]
    constructor
    · rintro ⟨n, hn⟩ e he
      exact (hcount.eq_ok_iff.mp hn).1 _ ⟨e, he, rfl⟩
    · intro hnone
      exact ⟨_, hcount.eq_ok_iff.mpr ⟨fun _ ⟨e', he', _⟩ => hnone e' he', rfl⟩⟩
  refine ⟨fun effect => ?_, fun n hn => ?_, fun e he => ?_⟩
  · have hreport := (h.mapOk (·.2)).mapError RepoError.storage
    rw [change_result, hreport.eq_ok_iff]
    constructor
    · rintro ⟨hnone, rfl⟩
      have hnone' : ∀ e, ¬ fault e := fun e he => hnone _ ⟨e, he, rfl⟩
      obtain ⟨n, hn⟩ := hokay.mpr hnone'
      exact ⟨n, hn, congrArg Effect.affected (hcount.eq_ok_iff.mp hn).2.symm⟩
    · rintro ⟨n, hn, rfl⟩
      have hnone := hokay.mp ⟨n, hn⟩
      exact ⟨fun _ ⟨e', he', _⟩ => hnone e' he',
        congrArg Effect.affected (hcount.eq_ok_iff.mp hn).2⟩
  · rw [seen_change, Table.rowsAfter_of_ok (h.eq_ok_iff.mpr ⟨hokay.mp ⟨n, hn⟩, rfl⟩)]
    rfl
  · cases happly : (r.seen st).apply (c.write r.clock) with
    | ok out =>
      obtain ⟨n, hn⟩ := hokay.mpr (h.eq_ok_iff.mp happly).1
      rw [hn] at he
      cases he
    | error e' => exact table_change_of_error happly

theorem asCounted_deleteBy (r : Repository) (st : Storage ε) (spec : Specification ε) :
    r.AsCounted st spec (.deleteBy spec) ((r.seen st).others spec.toFacets) := by
  refine asCounted_of_yields ((r.seen st).deleteWhere_yields spec.toFacets) ⟨?_, ?_⟩
  · exact fun hnone e he => hnone _ ⟨e, he, rfl⟩
  · exact fun hnone _ ⟨e', he', _⟩ => hnone e' he'

theorem asCounted_updateBy {spec : Specification ε} {assignments : List Assignment}
    (hassign : ∀ rows, (criteriaQuery spec.toFacets (r.seen st).query).fetch false = .ok rows →
      ∀ row ∈ rows, ∃ new, assignAll assignments row = .ok new) :
    r.AsCounted st spec (.updateBy ⟨spec, assignments⟩) ((r.seen st).rows.map fun row =>
      if spec.selects (r.seen st).filters row then Table.assigned assignments row else row) := by
  refine asCounted_of_yields ((r.seen st).updateWhere_yields spec.toFacets assignments) ⟨?_, ?_⟩
  · rintro hnone e ⟨row, hrow, he⟩
    exact hnone _ ⟨e, ⟨row, hrow, .inl he⟩, rfl⟩
  · rintro hnone _ ⟨e, ⟨row, hrow, he | ⟨hselects, he⟩⟩, rfl⟩
    · exact hnone e ⟨row, hrow, he⟩
    · -- the rows selected are fetched, and can all be assigned
      have hrun := ((r.seen st).run_yields spec.toFacets).eq_ok_iff.mpr ⟨hnone, rfl⟩
      have hfetch : (criteriaQuery spec.toFacets (r.seen st).query).fetch false =
          .ok ((r.seen st).selected spec.toFacets) := by
        rw [Query.fetch_live, hrun]
        rfl
      obtain ⟨new, hnew⟩ := hassign _ hfetch row (List.mem_filter.mpr ⟨hrow, hselects⟩)
      rw [hnew] at he
      cases he

/-- **Bulk changes mean the rows that are read.** Deleting and updating by a specification succeed
when counting does and report its number; the criteria fetch the selected rows, as many as counted,
and these are deleted, so that none is counted afterwards. -/
theorem bulk_changes_as_counted (r : Repository) (st : Storage ε) (spec : Specification ε)
    (assignments : List Assignment)
    (hassign : ∀ rows, (criteriaQuery spec.toFacets (r.seen st).query).fetch false = .ok rows →
      ∀ row ∈ rows, ∃ new, assignAll assignments row = .ok new) :
    r.AsCounted st spec (.deleteBy spec) ((r.seen st).others spec.toFacets) ∧
    r.AsCounted st spec (.updateBy ⟨spec, assignments⟩) ((r.seen st).rows.map fun row =>
      if spec.selects (r.seen st).filters row then Table.assigned assignments row else row) ∧
    ∀ n, ((r.reader st).count spec false).result = .ok n →
      (criteriaQuery spec.toFacets (r.seen st).query).fetch false =
        .ok ((r.seen st).selected spec.toFacets) ∧
      ((r.seen st).selected spec.toFacets).length = n ∧
      ((r.reader (r.change st (.deleteBy spec) false).1).count spec false).result = .ok 0 := by
  have hdelete := r.asCounted_deleteBy st spec
  refine ⟨hdelete, asCounted_updateBy hassign, fun n hn => ?_⟩
  obtain ⟨hnone, hlength⟩ := (r.count_yields st spec).eq_ok_iff.mp hn
  have hnofault : ∀ e, ¬ (r.seen st).Fault spec.toFacets e := fun e he => hnone _ ⟨e, he, rfl⟩
  refine ⟨?_, hlength.symm, ?_⟩
  · rw [Query.fetch_live, ((r.seen st).run_yields spec.toFacets).eq_ok_iff.mpr ⟨hnofault, rfl⟩]
    rfl
  · have hafter : r.seen (r.change st (.deleteBy spec) false).1 =
        (r.seen st).withRows ((r.seen st).others spec.toFacets) := by
      rw [← hdelete.rows n hn, seen_change]
      rfl
    rw [count_result, hafter, Table.others_yields hnofault]
    rfl

/-- Of three jobs, the two of one team; the default filter hides a third. -/
theorem bulk_changes_of_jobs :
    let jobs := [sampleJob 1 1 true, sampleJob 2 2 true, sampleJob 3 1 false, sampleJob 4 1 true]
    let st : Storage Keyed := {
      tables := fun _ =>
        { rows := jobs, filters := [.compare (.field "id") .ne (.value (.number (.ofInt 4)))] } }
    let spec : Specification Keyed :=
      { predicates := [.compare (.field "team") .eq (.value (.number (.ofInt 1)))] }
    let r := jobsThrough "s1"
    ((r.reader st).count spec false).result = .ok 2 ∧
      (r.seen (r.change st (.deleteBy spec) false).1).rows =
        [sampleJob 2 2 true, sampleJob 4 1 true] ∧
      (r.seen (r.change st (.updateBy ⟨spec, [⟨"done", .bool true⟩]⟩) false).1).rows =
        [sampleJob 1 1 true, sampleJob 2 2 true, sampleJob 3 1 true, sampleJob 4 1 true] := by
  intro jobs st spec r
  have hfetch : (criteriaQuery spec.toFacets (r.seen st).query).fetch false =
      .ok [sampleJob 1 1 true, sampleJob 3 1 false] := by cbv
  have hcount : ((r.reader st).count spec false).result = .ok 2 := by cbv
  have hassign : ∀ rows, (criteriaQuery spec.toFacets (r.seen st).query).fetch false = .ok rows →
      ∀ row ∈ rows, ∃ new, assignAll [⟨"done", .bool true⟩] row = .ok new := by
    rw [hfetch]
    rintro rows ⟨⟩ row hrow
    rcases List.mem_pair.mp hrow with rfl | rfl
    · exact ⟨sampleJob 1 1 true, by cbv⟩
    · exact ⟨sampleJob 3 1 true, by cbv⟩
  obtain ⟨hdelete, hupdate, -⟩ := bulk_changes_as_counted r st spec _ hassign
  exact ⟨hcount, (hdelete.rows 2 hcount).trans (by cbv), (hupdate.rows 2 hcount).trans (by cbv)⟩

end Repository

end RowSpec
