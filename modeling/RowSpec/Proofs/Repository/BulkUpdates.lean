import RowSpec.Proofs.Repository.BulkChanges
import RowSpec.Proofs.Store.Assignments

/-!
# Bulk updates

A bulk update tests and revises all rows before it puts any of them back. So it is done on all
target rows, or on none.

* `Repository.Revises`         what comes of a change that revises its target rows;
* `Revises.views`              the rows of every table before and after, whoever sees it;
* `revises_of_targets`         this holds for every command, once its test for targets is known;
* `Revised`                    a row that holds the values set last;
* `updateBy_all_or_nothing`    bulk updates by specification, after any setting of values.
-/

namespace RowSpec

variable {ε : Type} [Entity ε]

/-- Fields hold the value that was set for them last, or else the value of the row before. -/
def Revised (sets : List Assignment) (row new : ε) : Prop :=
  ∀ name, Record.field new name = (lastValue sets name).or (Record.field row name)

/-- Rows that were revised, where no target row refuses a value. -/
theorem Table.forall₂_assigned {assignments : List Assignment} {target : ε → Bool} {rows : List ε}
    (h : ∀ row ∈ rows, target row → ∀ e, ¬ Rejects assignments row e) :
    List.Forall₂ (fun row new => if target row then assignAll assignments row = .ok new
        else new = row)
      rows (rows.map fun row => if target row then assigned assignments row else row) := by
  rw [List.forall₂_map_right_iff, List.forall₂_same]
  intro row hrow
  cases htarget : target row with
  | false => rfl
  | true =>
    refine (assignAll_yields assignments row).eq_ok_iff.mpr ⟨fun e he => ?_, rfl⟩
    exact h row hrow htarget e (rejects_iff.mpr he)

namespace Repository

variable {r : Repository} {st : Storage ε} {c : Change ε} {fault : ε → FieldError → Prop}
  {target : ε → Bool} {revised revised' : ε → ε → Prop}

/-! ## revisions -/

/-- The change fails when some row is at fault, and can then be seen in no table. Otherwise it
revises the target rows and counts them; the other rows, their order and other tables stay. -/
structure Revises (r : Repository) (st : Storage ε) (c : Change ε)
    (fault : ε → FieldError → Prop) (target : ε → Bool) (revised : ε → ε → Prop) : Prop where
  fails : (∃ e, (r.change st c false).2.result = .error e) ↔
    ∃ row ∈ (r.seen st).rows, ∃ e, fault row e
  reason : ∀ e, (r.change st c false).2.result = .error e →
    ∃ row ∈ (r.seen st).rows, ∃ e', fault row e' ∧ .storage (.field e') = e
  untouched : ∀ e, (r.change st c false).2.result = .error e →
    ∀ through k, (r.change st c false).1.table through k = st.table through k
  report : ∀ effect, (r.change st c false).2.result = .ok effect →
    effect = .affected ((r.seen st).rows.filter target).length
  rows : ∀ effect, (r.change st c false).2.result = .ok effect →
    List.Forall₂ (fun row new => if target row then revised row new else new = row)
      (r.seen st).rows (r.seen (r.change st c false).1).rows
  elsewhere : ∀ through k, k ≠ r.table →
    (r.change st c false).1.table through k = st.table through k

theorem Revises.imp (h : r.Revises st c fault target revised)
    (himp : ∀ row new, revised row new → revised' row new) :
    r.Revises st c fault target revised' where
  fails := h.fails
  reason := h.reason
  untouched := h.untouched
  report := h.report
  rows effect heffect := by
    refine (h.rows effect heffect).imp fun row new hnew => ?_
    cases htarget : target row with
    | true =>
      rw [htarget] at hnew
      exact himp row new hnew
    | false =>
      rw [htarget] at hnew
      exact hnew
  elsewhere := h.elsewhere

theorem Revises.not_fault (h : r.Revises st c fault target revised) {effect : Effect ε}
    (heffect : (r.change st c false).2.result = .ok effect) {row : ε}
    (hrow : row ∈ (r.seen st).rows) (e : FieldError) : ¬ fault row e := by
  intro he
  obtain ⟨e', he'⟩ := h.fails.mpr ⟨row, hrow, e, he⟩
  rw [heffect] at he'
  cases he'

/-- After a change, a table is seen as before, or it was and is seen as the repository sees it. -/
theorem view_change (r : Repository) (st : Storage ε) (c : Change ε) (through : Option SessionId)
    (k : TableId) :
    (r.change st c false).1.table through k = st.table through k ∨
      k = r.table ∧ st.table through k = r.seen st ∧
        (r.change st c false).1.table through k = r.seen (r.change st c false).1 := by
  rw [seen_change, change_live]
  rcases st.view_putRows r.session r.table _ through k with h | ⟨rfl, hseen, h⟩
  · exact .inl h
  · exact .inr ⟨rfl, hseen, h⟩

theorem table_change_other (r : Repository) (st : Storage ε) (c : Change ε)
    (through : Option SessionId) {k : TableId} (hk : k ≠ r.table) :
    (r.change st c false).1.table through k = st.table through k :=
  (r.view_change st c through k).resolve_right fun h => hk h.1

/-- How the rows of every table evolve, whoever sees it. -/
theorem Revises.views (h : r.Revises st c fault target revised) {evolves : ε → ε → Prop}
    (hsame : ∀ row, evolves row row)
    (hnew : ∀ row new, (if target row then revised row new else new = row) → evolves row new)
    (through : Option SessionId) (k : TableId) :
    List.Forall₂ evolves (st.table through k).rows
      ((r.change st c false).1.table through k).rows := by
  have hunchanged : ∀ rows : List ε, List.Forall₂ evolves rows rows := fun _ =>
    List.forall₂_same.mpr fun row _ => hsame row
  rcases r.view_change st c through k with hview | ⟨-, hbefore, hafter⟩
  · rw [hview]
    exact hunchanged _
  · cases hresult : (r.change st c false).2.result with
    | error e =>
      rw [h.untouched e hresult]
      exact hunchanged _
    | ok effect =>
      rw [hbefore, hafter]
      exact (h.rows effect hresult).imp hnew

theorem change_eq_error_iff {e : RepoError} :
    (r.change st c false).2.result = .error e ↔
      ∃ e', (r.seen st).apply (c.write r.clock) = .error e' ∧ .storage e' = e := by
  rw [change_result]
  cases (r.seen st).apply (c.write r.clock) with
  | error e' =>
    constructor
    · rintro ⟨⟩
      exact ⟨e', rfl, rfl⟩
    · rintro ⟨_, ⟨⟩, rfl⟩
      rfl
  | ok out => exact ⟨nofun, fun ⟨_, h, _⟩ => nomatch h⟩

theorem change_eq_ok_iff {effect : Effect ε} :
    (r.change st c false).2.result = .ok effect ↔
      ∃ rows, (r.seen st).apply (c.write r.clock) = .ok (rows, effect) := by
  rw [change_result]
  cases (r.seen st).apply (c.write r.clock) with
  | error e' => exact ⟨nofun, fun ⟨_, h⟩ => nomatch h⟩
  | ok out =>
    constructor
    · rintro ⟨⟩
      exact ⟨out.1, rfl⟩
    · rintro ⟨rows, ⟨⟩⟩
      rfl

/-- **A command revises its target rows**, whatever tells them apart. -/
theorem revises_of_targets {command : UpdateCommand}
    (hwrite : c.write r.clock = .updateWhere command)
    (h : ∀ row, Yields (command.toDeleteCommand.targets (r.seen st).filters row) (fault row)
      (target row)) :
    r.Revises st c (fun row e => fault row e ∨ target row ∧ Rejects command.assignments row e)
      target fun row new => assignAll command.assignments row = .ok new := by
  have happly := (r.seen st).updateWhere_yields_of h
  simp only [← rejects_iff] at happly
  rw [← hwrite] at happly
  refine ⟨?_, fun e he => ?_, fun e he => ?_, fun effect he => ?_, fun effect he => ?_, ?_⟩
  · have hfails := happly.exists_error_iff
    constructor
    · rintro ⟨e, he⟩
      obtain ⟨e', he', -⟩ := change_eq_error_iff.mp he
      obtain ⟨-, e'', ⟨row, hrow, hfault⟩, -⟩ := hfails.mp ⟨e', he'⟩
      exact ⟨row, hrow, e'', hfault⟩
    · rintro ⟨row, hrow, e, hfault⟩
      obtain ⟨e', he'⟩ := hfails.mpr ⟨.field e, e, ⟨row, hrow, hfault⟩, rfl⟩
      exact ⟨.storage e', change_eq_error_iff.mpr ⟨e', he', rfl⟩⟩
  · obtain ⟨e', he', rfl⟩ := change_eq_error_iff.mp he
    obtain ⟨e'', ⟨row, hrow, hfault⟩, rfl⟩ := happly.of_eq_error he'
    exact ⟨row, hrow, e'', hfault, rfl⟩
  · obtain ⟨e', he', -⟩ := change_eq_error_iff.mp he
    exact table_change_of_error he'
  · obtain ⟨rows, hrows⟩ := change_eq_ok_iff.mp he
    exact congrArg Prod.snd (happly.eq_ok_iff.mp hrows).2
  · obtain ⟨rows, hrows⟩ := change_eq_ok_iff.mp he
    obtain ⟨hnone, heq⟩ := happly.eq_ok_iff.mp hrows
    have hmap : rows = (r.seen st).rows.map _ := congrArg Prod.fst heq
    rw [seen_change, Table.rowsAfter_of_ok hrows]
    show List.Forall₂ _ _ rows
    rw [hmap]
    exact Table.forall₂_assigned fun row hrow htarget e he =>
      hnone (.field e) ⟨e, ⟨row, hrow, .inr ⟨htarget, he⟩⟩, rfl⟩
  · exact fun through k hk => r.table_change_other st c through hk

/-! ## updates -/

/-- **An update is done on all target rows or on none.** It fails exactly when on some row an
evaluation fails, or a target row refuses one of the values set last. Otherwise the target rows
hold the values set last and are counted. -/
theorem updateBy_all_or_nothing [LawfulRecord ε] (r : Repository) (st : Storage ε)
    (criteria : Specification ε) (sets : List Assignment) :
    r.Revises st (.updateBy ((⟨criteria, []⟩ : Update ε).setAll sets))
      (fun row e => criteria.FailsOn (r.seen st).filters row e ∨
        criteria.selects (r.seen st).filters row ∧ Rejects (finalSets sets) row e)
      (criteria.selects (r.seen st).filters) (Revised sets) ∧
    (FieldsApart ε → ∀ row : ε, (∃ e, Rejects (finalSets sets) row e) ↔
      ∃ name v, lastValue sets name = some v ∧ ∃ e, Record.setField row name v = .error e) := by
  refine ⟨?_, fun hapart row => exists_rejects_finalSets_iff hapart sets⟩
  have hwrite : (Change.updateBy ((⟨criteria, []⟩ : Update ε).setAll sets)).write r.clock =
      .updateWhere ⟨criteria.deleteCommand, finalSets sets⟩ := by
    rw [Change.write, Update.command, Update.criteria_setAll, Update.assignments_setAll]
  refine (revises_of_targets hwrite (criteria.targets_yields (r.seen st).filters)).imp ?_
  intro row new hnew name
  rw [field_assignAll hnew, lastValue_finalSets]

/-- The jobs of one team are moved to another one, but none of them if an identifier is set with it,
which is read-only. -/
theorem updateBy_jobs :
    let jobs := [sampleJob 1 1 true, sampleJob 2 2 true, sampleJob 3 1 false]
    let st : Storage Keyed := { tables := fun _ => { rows := jobs } }
    let criteria : Specification Keyed :=
      { predicates := [.compare (.field "team") .eq (.value (.number (.ofInt 1)))] }
    let five : Value := .number (.ofInt 5)
    let moved (sets : List Assignment) :=
      (jobsThrough "s1").change st (.updateBy ((⟨criteria, []⟩ : Update Keyed).setAll sets)) false
    List.Forall₂ (fun row new => if criteria.selects [] row then
        Revised [⟨"team", .null⟩, ⟨"done", .bool false⟩, ⟨"team", five⟩] row new else new = row) jobs
      ((jobsThrough "s1").seen
        (moved [⟨"team", .null⟩, ⟨"done", .bool false⟩, ⟨"team", five⟩]).1).rows ∧
    (∃ e, (moved [⟨"team", five⟩, ⟨"id", five⟩]).2.result = .error e) ∧
    ∀ through k, (moved [⟨"team", five⟩, ⟨"id", five⟩]).1.table through k = st.table through k := by
  intro jobs st criteria five moved
  obtain ⟨hok, -⟩ := updateBy_all_or_nothing (jobsThrough "s1") st criteria
    [⟨"team", .null⟩, ⟨"done", .bool false⟩, ⟨"team", five⟩]
  obtain ⟨hfault, hrejects⟩ := updateBy_all_or_nothing (jobsThrough "s1") st criteria
    [⟨"team", five⟩, ⟨"id", five⟩]
  have hreadOnly : ∃ e, Rejects (finalSets [⟨"team", five⟩, ⟨"id", five⟩]) (sampleJob 1 1 true) e :=
    (hrejects KeyedBy.fieldsApart _).mpr ⟨"id", five, rfl, .readOnly "id", by cbv⟩
  obtain ⟨e, he⟩ := hreadOnly
  obtain ⟨e', he'⟩ := hfault.fails.mpr ⟨sampleJob 1 1 true, .head _, e, .inr ⟨by cbv, he⟩⟩
  exact ⟨hok.rows (.affected 2) (by cbv), ⟨e', he'⟩, hfault.untouched e' he'⟩

end Repository

end RowSpec
