import RowSpec.Proofs.Workspace.Settled

/-!
# Copies of tables

A session in a transaction has copies of the tables that were written through it. A table is seen
through the session as its copy, if there is one.

* `Storage.copy`            the copy of a table;
* `Action.touches`, `Action.writes`   what an action has to do with a table, through a session;
* `Action.direct`           the same action past the session;
* `perform_direct`          what it finds and what it writes;
* `Settled.perform_tables`  an action may give a table other rows, and nothing else.
-/

namespace RowSpec

/-! ## tables as a session sees them -/

namespace Storage

variable {ε : Type} {st : Storage ε} {s : SessionId} {k : TableId}

def copy (st : Storage ε) (s : SessionId) (k : TableId) : Option (List ε) :=
  (st.sessions s).staged.bind fun staged => staged k

theorem copy_congr {st' : Storage ε} (h : (st'.sessions s).staged = (st.sessions s).staged) :
    st'.copy s k = st.copy s k := by
  unfold copy
  rw [h]

theorem table_of_copy_none (h : st.copy s k = none) : st.table (some s) k = st.tables k := by
  show Session.publish _ _ k = _
  cases hs : (st.sessions s).staged with
  | none => rfl
  | some staged =>
    unfold copy at h
    rw [hs] at h
    show Session.publish staged st.tables k = _
    unfold Session.publish
    rw [show staged k = none from h]

theorem table_of_copy {rows : List ε} (h : st.copy s k = some rows) :
    st.table (some s) k = (st.tables k).withRows rows := by
  obtain ⟨staged, hs, hk⟩ := Option.bind_eq_some_iff.mp h
  show Session.publish ((st.sessions s).staged.getD fun _ => none) _ k = _
  rw [hs]
  show Session.publish staged _ k = _
  unfold Session.publish
  rw [hk]

/-- Where rows are put through a session in a transaction. -/
theorem copy_putRows {staged : TableId → Option (List ε)}
    (h : (st.sessions s).staged = some staged) (k : TableId) (rows : List ε) :
    (st.putRows (some s) k rows).tables = st.tables ∧
      ∀ j, (st.putRows (some s) k rows).copy s j = if j = k then some rows else st.copy s j := by
  rw [putRows_staged h]
  refine ⟨rfl, fun j => ?_⟩
  have hcopy : st.copy s j = staged j := by
    unfold copy
    rw [h]
    rfl
  have hput : (st.setSession s { st.sessions s with
      staged := some (replace staged k (some rows)) }).copy s j =
        replace staged k (some rows) j := by
    unfold copy setSession
    dsimp only
    rw [replace_same]
    rfl
  rw [hput, hcopy]
  rfl

/-- Rows put through other sessions, or past all of them. -/
theorem putRows_sessions_other {through : Option SessionId} (h : through ≠ some s) (k : TableId)
    (rows : List ε) : (st.putRows through k rows).sessions s = st.sessions s := by
  cases through with
  | none => rfl
  | some i =>
    have hne : s ≠ i := fun he => h (congrArg some he.symm)
    cases hi : (st.sessions i).staged with
    | none =>
      rw [putRows_unstaged hi]
      rfl
    | some staged =>
      rw [putRows_staged hi]
      exact replace_other _ _ hne

theorem putRows_tables (st : Storage ε) (through : Option SessionId) (k : TableId)
    (rows : List ε) (j : TableId) :
    ∃ rows', (st.putRows through k rows).tables j = (st.tables j).withRows rows' := by
  have hdirect : ∃ rows', (st.setTable k ((st.tables k).withRows rows)).tables j =
      (st.tables j).withRows rows' := by
    by_cases hj : j = k
    · subst hj
      exact ⟨rows, replace_same ..⟩
    · exact ⟨(st.tables j).rows, replace_other _ _ hj⟩
  cases through with
  | none => exact hdirect
  | some i =>
    cases hi : (st.sessions i).staged with
    | none =>
      rw [putRows_unstaged hi]
      exact hdirect
    | some staged =>
      rw [putRows_staged hi]
      exact ⟨(st.tables j).rows, rfl⟩

end Storage

/-! ## actions and tables -/

namespace Action

variable {ε : Type} [Entity ε]

/-- a reading or a change of the table through the session -/
def touches (s : SessionId) (k : TableId) : Action ε → Bool
  | .read r _ _ | .change r _ _ => r.session = some s && r.table = k
  | _ => false

/-- a change with a live token -/
def writes (s : SessionId) (k : TableId) : Action ε → Bool
  | .change r _ cancelled => (r.session = some s && r.table = k) && !cancelled
  | _ => false

/-- the same past every session -/
def direct : Action ε → Action ε
  | .read r question cancelled => .read { r with session := none } question cancelled
  | .change r c cancelled => .change { r with session := none } c cancelled
  | a => a

theorem touches_of_writes {s : SessionId} {k : TableId} {a : Action ε} (h : a.writes s k = true) :
    a.touches s k = true := by
  cases a with
  | change r c cancelled => exact (Bool.and_eq_true_iff.mp h).1
  | _ => cases h

end Action

section
variable {ε : Type} [Entity ε]

/-- What a change reports comes from the table that the repository sees. -/
theorem Repository.change_report (r : Repository) (session : Option SessionId)
    {st st' : Storage ε} (h : st.table r.session r.table = st'.table session r.table)
    (c : Change ε) (cancelled : Bool) :
    (r.change st c cancelled).2 = (change { r with session } st' c cancelled).2 := by
  unfold change Storage.write
  dsimp only
  rw [h]
  cases cancelled with
  | true => rfl
  | false =>
    cases (st'.table session r.table).apply (c.write r.clock) with
    | error e => rfl
    | ok result => rfl

omit [Entity ε] in
theorem Repository.reader_direct {r : Repository} {s : SessionId} (hr : r.session = some s)
    {st st' : Storage ε} (h : st.table (some s) r.table = st'.tables r.table) :
    r.reader st = reader { r with session := none } st' := by
  unfold reader
  rw [hr, h]
  rfl

theorem Storage.tables_change_direct (st : Storage ε) {r : Repository} (hr : r.session = none)
    (c : Change ε) :
    (r.change st c false).1.tables = replace st.tables r.table
      ((st.tables r.table).withRows ((st.tables r.table).rowsAfter (c.write r.clock))) := by
  rw [Repository.change_live, hr, Storage.putRows_past]
  rfl

end

namespace Workspace

variable {ε : Type} [Entity ε] {ws lone : Workspace ε} {s : SessionId} {k : TableId} {a : Action ε}

/-- **Past the session**, an action finds in the table what it finds in the session's, if these are
alike. -/
theorem perform_direct (ha : a.touches s k = true)
    (hseen : ws.storage.table (some s) k = lone.storage.tables k) :
    (ws.perform a).2 = (lone.perform a.direct).2 := by
  cases a with
  | call i c cancelled => cases ha
  | rejectCommit s' => cases ha
  | read r question cancelled =>
    obtain ⟨hs, hk⟩ := Bool.and_eq_true_iff.mp ha
    obtain rfl := of_decide_eq_true hk
    have hreader := Repository.reader_direct (of_decide_eq_true hs) hseen
    show (_, Outcome.found _) = _
    rw [hreader]
    rfl
  | change r c cancelled =>
    obtain ⟨hs, hk⟩ := Bool.and_eq_true_iff.mp ha
    have hreport : (r.change ws.storage c cancelled).2 =
        (Repository.change { r with session := none } lone.storage c cancelled).2 := by
      refine r.change_report none ?_ c cancelled
      rw [of_decide_eq_true hs, of_decide_eq_true hk, hseen]
      rfl
    show ((r.change ws.storage c cancelled).2.events,
      Outcome.changed (r.change ws.storage c cancelled).2.result) = _
    rw [hreport]
    rfl

/-- What the action writes there. -/
theorem perform_direct_tables (lone : Workspace ε) (ha : a.touches s k = true) :
    (a.writes s k = false ∧ (lone.perform a.direct).1.storage.tables k = lone.storage.tables k) ∨
    a.writes s k = true ∧ ∃ r c, a = .change r c false ∧ r.session = some s ∧ r.table = k ∧
      (lone.perform a.direct).1.storage.tables k = (lone.storage.tables k).withRows
        ((lone.storage.tables k).rowsAfter (c.write r.clock)) := by
  cases a with
  | call i c cancelled => cases ha
  | rejectCommit s' => cases ha
  | read r question cancelled => exact .inl ⟨rfl, rfl⟩
  | change r c cancelled =>
    obtain ⟨hs, hk⟩ := Bool.and_eq_true_iff.mp ha
    cases cancelled with
    | true =>
      refine .inl ⟨Bool.and_false _, ?_⟩
      show (Repository.change { r with session := none } lone.storage c true).1.tables k = _
      rw [Repository.change_cancelled]
    | false =>
      refine .inr ⟨?_, r, c, rfl, of_decide_eq_true hs, of_decide_eq_true hk, ?_⟩
      · exact Bool.and_eq_true_iff.mpr ⟨ha, rfl⟩
      · show (Repository.change { r with session := none } lone.storage c false).1.tables k = _
        rw [Storage.tables_change_direct _ rfl]
        obtain rfl := of_decide_eq_true hk
        exact replace_same ..

end Workspace

/-! ## rows that come and go -/

theorem Session.publish_tables {ε : Type} (staged : TableId → Option (List ε))
    (tables : TableId → Table ε) (k : TableId) :
    ∃ rows, Session.publish staged tables k = (tables k).withRows rows := by
  unfold Session.publish
  cases staged k with
  | none => exact ⟨(tables k).rows, rfl⟩
  | some rows => exact ⟨rows, rfl⟩

theorem CallEffect.tables_cases {ε : Type} {p p' : Standing ε} {cancelled : Bool} {c : UnitCall}
    {reply : Option (Reply Repository Transaction)} (h : CallEffect p p' cancelled c reply) :
    p'.tables = p.tables ∨
      p'.tables = Session.publish (p.session.staged.getD fun _ => none) p.tables := by
  cases h with
  | quiet _ still => exact .inl still.tables
  | begun _ _ _ _ _ _ _ tables => exact .inl tables
  | committed _ _ _ _ _ _ tables => exact .inr tables
  | rolledBack _ _ _ _ _ _ tables => exact .inl tables
  | lost _ _ _ _ _ _ _ tables => exact .inl tables
  | ended _ _ _ _ _ _ tables => exact .inl tables

namespace Workspace

variable {ε : Type} [Entity ε] {ws : Workspace ε}

theorem Settled.perform_tables (h : ws.Settled) (a : Action ε) (k : TableId) :
    ∃ rows, (ws.perform a).1.storage.tables k = (ws.storage.tables k).withRows rows := by
  have hself : ∃ rows, ws.storage.tables k = (ws.storage.tables k).withRows rows :=
    ⟨(ws.storage.tables k).rows, rfl⟩
  cases a with
  | read r question cancelled => exact hself
  | rejectCommit s => exact hself
  | change r c cancelled =>
    show ∃ rows, (r.change ws.storage c cancelled).1.tables k = _
    cases cancelled with
    | true =>
      rw [Repository.change_cancelled]
      exact hself
    | false =>
      rw [Repository.change_live]
      exact ws.storage.putRows_tables r.session r.table _ k
  | call i c cancelled =>
    show ∃ rows, (ws.call i c cancelled).1.storage.tables k = _
    cases hu : ws.units i with
    | none =>
      rw [call_of_none hu]
      exact hself
    | some u =>
      obtain ⟨v, hv⟩ := call_effect hu (h.rest i u hu) (h.remote u.session) c cancelled
      have htables : (ws.call i c cancelled).1.storage.tables = ws.storage.tables ∨
          (ws.call i c cancelled).1.storage.tables = Session.publish
            ((ws.storage.sessions u.session).staged.getD fun _ => none) ws.storage.tables :=
        hv.effect.tables_cases
      rcases htables with he | he
      · rw [he]
        exact hself
      · rw [he]
        exact Session.publish_tables _ _ k

end Workspace

end RowSpec
