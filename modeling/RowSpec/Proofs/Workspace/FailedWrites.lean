import RowSpec.Proofs.Workspace.Copies
import RowSpec.Proofs.Yields

/-!
# Writes that change nothing

A write that fails, or reports that it has changed nothing, leaves the rows as they were. Yet if it
is the first write of a transaction to its table, the session keeps a copy of the table from then
on, and does not see any more what others write.

* `Table.rowsAfter_eq`      the rows stay as they were;
* `Storage.putRows_seen`    rows put back where they were seen;
* `Workspace.TakesCopy`     the write makes the session's copy;
* `leavesNoTrace_iff`       the write can be told by later calls exactly then.
-/

namespace RowSpec

variable {ε : Type} [Entity ε]

/-! ## rows -/

theorem replaceRow_of_missing {new : ε} {rows : List ε}
    (h : rows.any (hasId (Entity.id new)) = false) : replaceRow new rows = rows := by
  induction rows with
  | nil => rfl
  | cons row rest ih =>
    obtain ⟨hrow, hrest⟩ := Bool.or_eq_false_iff.mp h
    rw [replaceRow, if_neg (by rw [hrow]; exact Bool.false_ne_true), ih hrest]

theorem withoutId_of_missing {id : Entity.Id ε} {rows : List ε} (h : rows.any (hasId id) = false) :
    withoutId id rows = rows := by
  unfold withoutId
  rw [List.filter_eq_self]
  intro row hrow
  rw [List.any_eq_false.mp h row hrow |> Bool.eq_false_iff.mpr]
  rfl

section
variable {chosen : ε → Except FieldError Bool} {rows rows' : List ε}

omit [Entity ε] in
theorem reviseWhere_none {change : ε → Except FieldError ε}
    (h : reviseWhere chosen change rows = .ok (rows', 0)) : rows' = rows := by
  induction rows generalizing rows' with
  | nil =>
    cases h
    rfl
  | cons row rest ih =>
    rw [reviseWhere] at h
    obtain ⟨b, _, h⟩ := eq_ok_of_bind h
    cases b with
    | true =>
      -- the row that is changed is counted
      obtain ⟨new, _, h⟩ := eq_ok_of_bind h
      obtain ⟨⟨rows'', n⟩, _, h⟩ := eq_ok_of_bind h
      cases h
    | false =>
      obtain ⟨⟨rows'', n⟩, hrest, h⟩ := eq_ok_of_bind h
      cases h
      rw [ih hrest]

omit [Entity ε] in
theorem dropWhere_none (h : dropWhere chosen rows = .ok (rows', 0)) : rows' = rows := by
  induction rows generalizing rows' with
  | nil =>
    cases h
    rfl
  | cons row rest ih =>
    rw [dropWhere] at h
    obtain ⟨b, _, h⟩ := eq_ok_of_bind h
    obtain ⟨⟨rows'', n⟩, hrest, h⟩ := eq_ok_of_bind h
    cases b with
    | true => cases h
    | false =>
      cases h
      rw [ih hrest]

end

theorem Table.rowsAfter_ofBulk {t : Table ε} {w : Write ε}
    {bulk : Except FieldError (List ε × Nat)} (hw : t.apply w = ofBulk bulk)
    (hnone : ∀ rows, bulk = .ok (rows, 0) → rows = t.rows)
    (h : ∀ rows effect, t.apply w = .ok (rows, effect) → effect.isNothing = true) :
    t.rowsAfter w = t.rows := by
  unfold rowsAfter
  rw [hw] at h ⊢
  cases bulk with
  | error e => rfl
  | ok r =>
    obtain ⟨rows, n⟩ := r
    have hn : n = 0 := of_decide_eq_true (h rows (.affected n) rfl)
    subst hn
    exact hnone rows rfl

/-- A write that succeeds and has changed nothing, or else fails. -/
theorem Table.rowsAfter_eq {t : Table ε} {w : Write ε}
    (h : ∀ rows effect, t.apply w = .ok (rows, effect) → effect.isNothing = true) :
    t.rowsAfter w = t.rows := by
  cases w with
  | insert row =>
    by_cases hany : t.rows.any (hasId (Entity.id row)) = true
    · have hdup : t.apply (.insert row) =
        .error (.failed (.duplicateKey t.idField (Entity.idValue row))) := if_pos hany
      unfold rowsAfter
      rw [hdup]
    · exact absurd (h _ _ (if_neg hany)) Bool.false_ne_true
  | update row =>
    have hmissing : t.rows.any (hasId (Entity.id row)) = false := by
      simpa [Effect.isNothing] using h _ _ rfl
    exact replaceRow_of_missing hmissing
  | delete id =>
    have hmissing : t.rows.any (hasId id) = false := by
      simpa [Effect.isNothing] using h _ _ rfl
    exact withoutId_of_missing hmissing
  | updateWhere c => exact rowsAfter_ofBulk rfl (fun _ => reviseWhere_none) h
  | deleteWhere c => exact rowsAfter_ofBulk rfl (fun _ => dropWhere_none) h

/-! ## the place of the rows -/

omit [Entity ε] in
/-- Rows put back where they were seen leave everything as it was, unless they make a copy. -/
theorem Storage.putRows_seen {st : Storage ε} {through : Option SessionId} {k : TableId}
    (h : ∀ s, through = some s → (st.sessions s).staged ≠ none → st.copy s k ≠ none) :
    st.putRows through k (st.table through k).rows = st := by
  have hdirect : st.setTable k ((st.tables k).withRows (st.tables k).rows) = st := by
    rw [setTable, Table.withRows_rows, replace_self]
  cases through with
  | none => exact hdirect
  | some s =>
    cases hs : (st.sessions s).staged with
    | none =>
      have hcopy : st.copy s k = none := by
        unfold copy
        rw [hs]
        rfl
      rw [putRows_unstaged hs, table_of_copy_none hcopy]
      exact hdirect
    | some staged =>
      obtain ⟨rows, hcopy⟩ :=
        Option.ne_none_iff_exists'.mp (h s rfl (by rw [hs]; exact Option.some_ne_none _))
      have hk : staged k = some rows := by
        unfold copy at hcopy
        rw [hs] at hcopy
        exact hcopy
      have hself : { st.sessions s with staged := some staged } = st.sessions s := by
        rw [← hs]
      rw [putRows_staged hs, table_of_copy hcopy]
      show st.setSession s { st.sessions s with staged := some (replace staged k (some rows)) } = st
      rw [← hk, replace_self, hself, Storage.setSession, replace_self]

/-! ## traces -/

/-- An error, or the report that nothing has changed. -/
def Outcome.isNothing : Outcome ε → Bool
  | .changed (.error _) => true
  | .changed (.ok effect) => effect.isNothing
  | _ => false

namespace Workspace

variable {ws : Workspace ε} {r : Repository} {c : Change ε} {cancelled : Bool}

/-- Whatever is done next, every call gives what it gives without the action, and so do the tables
at every point. -/
def LeavesNoTrace (ws : Workspace ε) (a : Action ε) : Prop :=
  ∀ rest, (ws.perform a).1.outcomes rest = ws.outcomes rest ∧
    ((ws.perform a).1.after rest).storage.tables = (ws.after rest).storage.tables

/-- The first write to its table in a transaction of the session. -/
def TakesCopy (ws : Workspace ε) : Action ε → Prop
  | .change r _ cancelled => cancelled = false ∧ ∃ s, r.session = some s ∧
      (ws.storage.sessions s).staged ≠ none ∧ ws.storage.copy s r.table = none
  | _ => False

/-- A write that reports nothing puts the rows back that it saw. -/
theorem change_of_isNothing (h : (ws.perform (.change r c cancelled)).2.2.isNothing = true)
    (hlive : cancelled = false) :
    (r.change ws.storage c cancelled).1 = ws.storage.putRows r.session r.table
      (ws.storage.table r.session r.table).rows := by
  subst hlive
  rw [Repository.change_live, Table.rowsAfter_eq]
  intro rows effect he
  have hreport : (r.change ws.storage c false).2.result = .ok effect := by
    unfold Repository.change Storage.write
    rw [if_neg Bool.false_ne_true, he]
  unfold perform at h
  simpa [Outcome.isNothing, hreport] using h

theorem perform_of_not_takesCopy
    (h : (ws.perform (.change r c cancelled)).2.2.isNothing = true)
    (hcopy : ¬ ws.TakesCopy (.change r c cancelled)) :
    (ws.perform (.change r c cancelled)).1 = ws := by
  have hstorage : (r.change ws.storage c cancelled).1 = ws.storage := by
    cases cancelled with
    | true => exact Repository.change_cancelled r ws.storage c
    | false =>
      rw [change_of_isNothing h rfl]
      exact Storage.putRows_seen fun s hs hstaged hnone => hcopy ⟨rfl, s, hs, hstaged, hnone⟩
  show ({ ws with storage := (r.change ws.storage c cancelled).1 } : Workspace ε) = ws
  rw [hstorage]

/-- the specification of all rows -/
def everyRow : Specification ε := { ignoreQueryFilters := true }

omit [Entity ε] in
theorem criteria_everyRow : (everyRow : Specification ε).criteria = [] := by
  simp [everyRow, Facets.criteria, Facets.searchExprs, Facets.groupNumbers]

theorem dropWhere_everyRow (filters : List Expr) (rows : List ε) :
    dropWhere ((everyRow : Specification ε).deleteCommand.targets filters) rows =
      .ok ([], rows.length) := by
  have htarget : ∀ row : ε,
      (everyRow : Specification ε).deleteCommand.targets filters row = .ok true := by
    intro row
    rw [Facets.deleteCommand, Facets.predicate?, criteria_everyRow]
    rfl
  induction rows with
  | nil => rfl
  | cons row rest ih =>
    rw [dropWhere, htarget, ih]
    rfl

/-- Another write that the number of rows tells. -/
theorem exists_telling_change [Nonempty ε] (t : Table ε) (clock : Instant) :
    ∃ c : Change ε, (t.rowsAfter (c.write clock)).length ≠ t.rows.length := by
  cases hrows : t.rows with
  | nil =>
    obtain ⟨row⟩ := ‹Nonempty ε›
    refine ⟨.insert row, ?_⟩
    have hnew : t.apply (.insert row) = .ok (t.rows ++ [row], .inserted row) := by
      refine if_neg ?_
      rw [hrows]
      exact Bool.false_ne_true
    show (t.rowsAfter (.insert row)).length ≠ _
    unfold Table.rowsAfter
    rw [hnew, hrows]
    exact Nat.one_ne_zero
  | cons row rest =>
    refine ⟨.deleteBy everyRow, ?_⟩
    have hall : t.apply (.deleteWhere (everyRow : Specification ε).deleteCommand) =
        .ok ([], .affected t.rows.length) := by
      rw [Table.apply, dropWhere_everyRow]
      rfl
    show (t.rowsAfter (.deleteWhere everyRow.deleteCommand)).length ≠ _
    unfold Table.rowsAfter
    rw [hall]
    exact Nat.zero_ne_add_one _

theorem fetch_everyRow (t : Table ε) :
    (criteriaQuery (everyRow : Specification ε).toFacets t.query).fetch false = .ok t.rows := by
  have hdirectives : (everyRow : Specification ε).criteriaDirectives = [.ignoreQueryFilters] := by
    rw [Facets.criteriaDirectives, criteria_everyRow]
    rfl
  have hignores : (t.query.shape [.ignoreQueryFilters]).ignoresQueryFilters = true := by
    simp [Query.ignoresQueryFilters, Query.shape, Table.query]
  unfold criteriaQuery Query.fetch Query.run
  rw [hdirectives, hignores]
  rfl

theorem count_everyRow (ws : Workspace ε) (r : Repository) :
    (ws.perform (.read r (.count everyRow) false)).2.2 =
      .found (.ok (.count (ws.storage.table r.session r.table).rows.length)) := by
  have hfetch := fetch_everyRow (ws.storage.table r.session r.table)
  have hcount : ((r.reader ws.storage).count everyRow false).result =
      .ok (ws.storage.table r.session r.table).rows.length := by
    show (((criteriaQuery _ (ws.storage.table r.session r.table).query).fetch false).map
      List.length).mapError _ = _
    rw [hfetch]
    rfl
  show Outcome.found (((r.reader ws.storage).count everyRow false).result.map .count) = _
  rw [hcount]
  rfl

/-- A copy can be told from the table when another write has passed by. -/
theorem not_leavesNoTrace_of_takesCopy [Nonempty ε]
    (h : (ws.perform (.change r c cancelled)).2.2.isNothing = true)
    (hcopy : ws.TakesCopy (.change r c cancelled)) :
    ¬ ws.LeavesNoTrace (.change r c cancelled) := by
  obtain ⟨hlive, s, hs, hstaged, hnone⟩ := hcopy
  obtain ⟨staged, hstaged⟩ := Option.ne_none_iff_exists'.mp hstaged
  obtain ⟨d, hd⟩ := exists_telling_change (ws.storage.tables r.table) r.clock
  let past : Repository := { r with session := none }
  have hseen := Storage.table_of_copy_none hnone
  have hstorage : (ws.perform (.change r c cancelled)).1.storage =
      ws.storage.putRows (some s) r.table (ws.storage.tables r.table).rows := by
    show (r.change ws.storage c cancelled).1 = _
    rw [change_of_isNothing h hlive, hs, hseen]
  obtain ⟨htables, hcopies⟩ :=
    Storage.copy_putRows hstaged r.table (ws.storage.tables r.table).rows
  have hcopied := (hcopies r.table).trans (if_pos rfl)
  rw [← hstorage] at htables hcopied
  -- past the session, the other write puts the same rows into the table in both runs
  have hpast : ∀ v : Workspace ε, v.storage.tables = ws.storage.tables →
      (v.perform (.change past d false)).1.storage.tables r.table =
        (ws.storage.tables r.table).withRows
          ((ws.storage.tables r.table).rowsAfter (d.write r.clock)) ∧
      (v.perform (.change past d false)).1.storage.copy s r.table = v.storage.copy s r.table := by
    intro v hv
    refine ⟨?_, ?_⟩
    · show (past.change v.storage d false).1.tables r.table = _
      rw [Storage.tables_change_direct _ rfl, hv]
      exact replace_same ..
    · show (past.change v.storage d false).1.copy s r.table = _
      rw [Repository.change_live]
      have hother : (v.storage.putRows none past.table
          ((v.storage.table none past.table).rowsAfter (d.write r.clock))).sessions s =
            v.storage.sessions s := v.storage.putRows_sessions_other (fun h => by cases h) _ _
      exact Storage.copy_congr (congrArg Session.staged hother)
  intro htrace
  have houtcomes := (htrace [.change past d false,
    .read r (.count everyRow) false]).1
  have hcount := (List.cons.inj (List.cons.inj houtcomes).2).1
  rw [count_everyRow, count_everyRow, hs] at hcount
  obtain ⟨hwith, hwithCopy⟩ := hpast _ htables
  obtain ⟨hwithout, hwithoutCopy⟩ := hpast ws rfl
  rw [Storage.table_of_copy (hwithCopy.trans hcopied),
    Storage.table_of_copy_none (hwithoutCopy.trans hnone), hwithout] at hcount
  have hlength := Finding.count.inj (Except.ok.inj (Outcome.found.inj hcount))
  exact hd hlength.symm

/-- **A write that fails or changes nothing** can be told from no write at all exactly if it is the
first of a transaction to its table. -/
theorem leavesNoTrace_iff [Nonempty ε]
    (h : (ws.perform (.change r c cancelled)).2.2.isNothing = true) :
    ws.LeavesNoTrace (.change r c cancelled) ↔ ¬ ws.TakesCopy (.change r c cancelled) := by
  refine ⟨fun htrace hcopy => not_leavesNoTrace_of_takesCopy h hcopy htrace, fun hcopy rest => ?_⟩
  rw [perform_of_not_takesCopy h hcopy]
  exact ⟨rfl, rfl⟩

/-- A deletion that finds nothing, outside of a transaction. -/
theorem pairOfUnits_noTrace :
    let a : Action Keyed := .change (jobsThrough "s1") (.delete (jobOf 1).id) false
    (pairOfUnits.perform a).2.2.isNothing = true ∧ pairOfUnits.LeavesNoTrace a := by
  intro a
  have hnothing : (pairOfUnits.perform a).2.2.isNothing = true := by decide
  have hcopy : ¬ pairOfUnits.TakesCopy a := by
    rintro ⟨_, s, _, hstaged, _⟩
    exact hstaged rfl
  have : Nonempty Keyed := ⟨jobOf 1⟩
  exact ⟨hnothing, (leavesNoTrace_iff hnothing).mpr hcopy⟩

/-- The same in a transaction: its commit takes away what the other unit has inserted meanwhile. -/
theorem pairOfUnits_trace :
    let begun := (pairOfUnits.call "u1" (.gated .begin) false).1
    let a : Action Keyed := .change (jobsThrough "s1") (.delete (jobOf 1).id) false
    (begun.perform a).2.2.isNothing = true ∧ ¬ begun.LeavesNoTrace a := by
  intro begun a
  refine ⟨by decide, fun htrace => ?_⟩
  let rest : List (Action Keyed) := [.change (jobsThrough "s2") (.insert (jobOf 1)) false,
    .call "u1" (.gated .commit) false]
  have htables := congrFun (htrace rest).2 "jobs"
  have hwith : (((begun.perform a).1.after rest).storage.tables "jobs").rows = [] := by decide
  have hwithout : ((begun.after rest).storage.tables "jobs").rows = [jobOf 1] := by decide
  rw [htables, hwithout] at hwith
  cases hwith

end Workspace

end RowSpec
