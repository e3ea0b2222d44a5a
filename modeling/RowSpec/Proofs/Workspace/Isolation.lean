import RowSpec.Proofs.Workspace.Copies

/-!
# Isolation

From its first write on, a transaction works on a table as if it were alone, on a copy of its own.
Its commit puts the copy in the place of the table.

* `Workspace.Lasts`      a run in which the transaction of a unit does not end;
* `Workspace.alone`      the run of the transaction's accesses to one table, past the session;
* `Workspace.Mirrors`    the session's copy is the table of that run;
* `Within.mirrors_after` the copy stays so, whatever the other units do;
* `transaction_isolated` what the transaction finds, and what its commit leaves behind.
-/

namespace RowSpec

/-! ## calls within a transaction -/

section
variable {ε : Type} {p p' : Standing ε} {cancelled : Bool} {c : UnitCall}
  {reply : Option (Reply Repository Transaction)}

theorem CallEffect.still_of_lasting (h : CallEffect p p' cancelled c reply)
    (htx : p.unit.transaction ≠ none) (hc : c.shuts = false)
    (hrollback : c ≠ .gated .rollback)
    (hcommit : c = .gated .commit → ∀ x, reply ≠ some (.ok x)) : p.Still p' := by
  cases h with
  | quiet _ still => exact still
  | begun _ _ free => exact absurd free htx
  | committed => exact absurd rfl (hcommit rfl _)
  | rolledBack => exact absurd rfl hrollback
  | lost => exact absurd rfl hrollback
  | ended _ fits => rcases fits with rfl | rfl <;> cases hc

theorem CallEffect.commit_cases (h : CallEffect p p' cancelled (.gated .commit) reply)
    (hopen : p.unit.disposed = false) (htx : p.unit.transaction ≠ none) :
    if (cancelled || p.session.rejectsCommit) = true then
      ∃ e, reply = some (.error e) ∧ p.Still p'
    else
      ∃ x, reply = some (.ok x) ∧
        p'.tables = Session.publish (p.session.staged.getD fun _ => none) p.tables := by
  cases h with
  | quiet cause still =>
    cases cause with
    | shut _ _ hd => exact absurd (hopen.symm.trans hd) Bool.false_ne_true
    | refused _ _ fits =>
      rcases fits with ⟨⟨⟩⟩ | ⟨_, free⟩
      exact absurd free htx
    | rejected _ e cause _ =>
      rw [if_pos cause]
      exact ⟨e, rfl, still⟩
    | pendingSaved free => exact absurd free htx
  | committed _ live _ _ _ _ tables =>
    rw [if_neg (Bool.eq_false_iff.mp live)]
    exact ⟨_, rfl, tables⟩
  | ended _ fits => rcases fits with ⟨⟨⟩⟩ | ⟨⟨⟩⟩

theorem CallEffect.begun_of_ok {x : Product Repository Transaction}
    (h : CallEffect p p' cancelled (.gated .begin) (some (.ok x)))
    (hfree : p.unit.hasTransaction = false) :
    p.unit.disposed = false ∧ p'.unit.transaction ≠ none ∧
      p'.session.staged = some fun _ => none := by
  cases h with
  | quiet cause _ =>
    cases cause with
    | shut _ _ _ denied =>
      obtain ⟨e, he⟩ := denied .begin rfl fun h => by cases h
      cases he
    | active tx opened held =>
      unfold UnitOfWork.hasTransaction at hfree
      rw [opened, held] at hfree
      cases hfree
  | begun tx opened _ _ _ held staged =>
    refine ⟨opened, ?_, staged⟩
    rw [held]
    exact Option.some_ne_none _
  | ended _ fits => rcases fits with ⟨⟨⟩⟩ | ⟨⟨⟩⟩

end

namespace Workspace

variable {ε : Type} {ws lone : Workspace ε} {i : UnitId} {s : SessionId} {k : TableId}

/-- A transaction ends with its first commit that succeeds, with a rollback, or with its unit. -/
def EndsTransaction [Entity ε] (ws : Workspace ε) (i : UnitId) : Action ε → Prop
  | .call j c cancelled => j = i ∧ (c.shuts = true ∨ c = .gated .rollback ∨
      c = .gated .commit ∧ ∃ x, (ws.call j c cancelled).2.2 = some (.ok x))
  | _ => False

/-- The unit, over the session, has a transaction. -/
structure Within (ws : Workspace ε) (i : UnitId) (s : SessionId) : Prop where
  settled : ws.Settled
  unit : ∃ u, ws.Hosts i s u ∧ u.unit.transaction ≠ none

theorem Within.staged (h : ws.Within i s) :
    ∃ staged, (ws.storage.sessions s).staged = some staged := by
  obtain ⟨u, hu, htx⟩ := h.unit
  rw [← hu.session]
  exact Option.ne_none_iff_exists'.mp (h.settled.held i u hu.unit htx)

/-- A call on the unit that does not end its transaction. -/
theorem Within.call_own (h : ws.Within i s) {c : UnitCall} {cancelled : Bool}
    (hc : ¬ (c.shuts = true ∨ c = .gated .rollback ∨
      c = .gated .commit ∧ ∃ x, (ws.call i c cancelled).2.2 = some (.ok x))) :
    (∃ v, (ws.call i c cancelled).1.Hosts i s v ∧ v.unit.transaction ≠ none) ∧
      ((ws.call i c cancelled).1.storage.sessions s).staged = (ws.storage.sessions s).staged := by
  obtain ⟨u, hu, htx⟩ := h.unit
  have hshuts : c.shuts = false := Bool.eq_false_iff.mpr fun he => hc (.inl he)
  obtain ⟨v, hv, heffect⟩ := h.settled.call_own hu hshuts cancelled
  have hstill := heffect.still_of_lasting htx hshuts (fun he => hc (.inr (.inl he)))
    fun he x hx => hc (.inr (.inr ⟨he, x, hx⟩))
  refine ⟨⟨v, hv, ?_⟩, ?_⟩
  · show ((ws.call i c cancelled).1.standing v).unit.transaction ≠ none
    rw [hstill.transaction]
    exact htx
  · have hsession := hstill.staged
    unfold standing at hsession
    rw [hu.session, hv.session] at hsession
    exact hsession

/-- A commit of the transaction. -/
theorem Within.commit (h : ws.Within i s) (cancelled : Bool) :
    let ended := ws.call i (.gated .commit) cancelled
    if (cancelled || (ws.storage.sessions s).rejectsCommit) = true then
      ∃ e, ended.2.2 = some (.error e) ∧ ended.1.storage.tables = ws.storage.tables ∧
        ∀ s', (ended.1.storage.sessions s').staged = (ws.storage.sessions s').staged
    else
      ∃ x, ended.2.2 = some (.ok x) ∧
        ∀ k, ended.1.storage.tables k = ws.storage.table (some s) k := by
  obtain ⟨u, hu, htx⟩ := h.unit
  obtain ⟨v, hv⟩ := call_effect hu.unit (h.settled.rest i u hu.unit)
    (h.settled.remote u.session) (.gated .commit) cancelled
  have hends := hv.effect.commit_cases hu.opened htx
  unfold standing at hends
  dsimp only at hends
  rw [hv.session, hu.session] at hends
  intro ended
  split at hends
  · rename_i hcause
    obtain ⟨e, he, hstill⟩ := hends
    rw [if_pos hcause]
    refine ⟨e, he, hstill.tables, fun s' => ?_⟩
    by_cases hs : s' = s
    · rw [hs]
      exact hstill.staged
    · rw [hv.others s' (hu.session ▸ hs)]
  · rename_i hlive
    obtain ⟨x, hx, htables⟩ := hends
    rw [if_neg hlive]
    exact ⟨x, hx, fun k => congrFun htables k⟩

variable [Entity ε]

/-! ## actions within a transaction -/

theorem Within.perform (h : ws.Within i s) {a : Action ε} (ha : ¬ ws.EndsTransaction i a) :
    (ws.perform a).1.Within i s := by
  refine ⟨h.settled.perform a, ?_⟩
  obtain ⟨u, hu, htx⟩ := h.unit
  cases a with
  | read r question cancelled => exact ⟨u, hu, htx⟩
  | change r c cancelled => exact ⟨u, ⟨hu.unit, hu.session, hu.opened⟩, htx⟩
  | rejectCommit s' => exact ⟨u, ⟨hu.unit, hu.session, hu.opened⟩, htx⟩
  | call j c cancelled =>
    by_cases hj : j = i
    · subst hj
      exact (h.call_own fun hends => ha ⟨rfl, hends⟩).1
    · have hunit := (h.settled.call_other hu.unit hj c cancelled).1
      exact ⟨u, ⟨hunit, hu.session, hu.opened⟩, htx⟩

/-- No other access than a write through the session concerns the copy. -/
theorem Within.copy_perform (h : ws.Within i s) {a : Action ε} (ha : ¬ ws.EndsTransaction i a)
    (hw : a.writes s k = false) :
    (ws.perform a).1.storage.copy s k = ws.storage.copy s k := by
  obtain ⟨u, hu, htx⟩ := h.unit
  cases a with
  | read r question cancelled => rfl
  | call j c cancelled =>
    by_cases hj : j = i
    · subst hj
      exact Storage.copy_congr (h.call_own fun hends => ha ⟨rfl, hends⟩).2
    · have hother := (h.settled.call_other hu.unit hj c cancelled).2
      rw [hu.session] at hother
      exact Storage.copy_congr (congrArg Session.staged hother)
  | rejectCommit s' =>
    refine Storage.copy_congr ?_
    show (replace _ _ _ _ : Session ε).staged = _
    by_cases hs : s = s'
    · subst hs
      rw [replace_same]
    · rw [replace_other _ _ hs]
  | change r c cancelled =>
    show (r.change ws.storage c cancelled).1.copy s k = _
    cases cancelled with
    | true => rw [Repository.change_cancelled]
    | false =>
      rw [Repository.change_live]
      by_cases hs : r.session = some s
      · obtain ⟨staged, hstaged⟩ := h.staged
        have hk : k ≠ r.table := by
          rintro rfl
          simp [Action.writes, hs] at hw
        rw [hs, (Storage.copy_putRows hstaged _ _).2, if_neg hk]
      · have hother := ws.storage.putRows_sessions_other hs r.table
          ((ws.storage.table r.session r.table).rowsAfter (c.write r.clock))
        exact Storage.copy_congr (congrArg Session.staged hother)

/-! ## the copy and the lone run -/

/-- The session has a copy of the table, which is the table of `lone`. -/
structure Mirrors (ws lone : Workspace ε) (s : SessionId) (k : TableId) : Prop where
  copied : ws.storage.copy s k ≠ none
  seen : ws.storage.table (some s) k = lone.storage.tables k

/-- A write through the session, made past the session in `lone`. -/
theorem Within.mirrors_of_write (h : ws.Within i s) {a : Action ε} (hw : a.writes s k = true)
    (hseen : ws.storage.table (some s) k = lone.storage.tables k) :
    (ws.perform a).1.Mirrors (lone.perform a.direct).1 s k := by
  rcases perform_direct_tables lone (Action.touches_of_writes hw) with
    ⟨hno, _⟩ | ⟨_, r, c, rfl, hs, rfl, hlone⟩
  · rw [hw] at hno
    cases hno
  · obtain ⟨staged, hstaged⟩ := h.staged
    have hstorage : (ws.perform (.change r c false)).1.storage = ws.storage.putRows (some s)
        r.table ((ws.storage.table (some s) r.table).rowsAfter (c.write r.clock)) := by
      show (r.change ws.storage c false).1 = _
      rw [Repository.change_live, hs]
    obtain ⟨htables, hcopy⟩ := Storage.copy_putRows hstaged r.table
      ((ws.storage.table (some s) r.table).rowsAfter (c.write r.clock))
    have hcopied := (hcopy r.table).trans (if_pos rfl)
    rw [← hstorage] at hcopied htables
    refine ⟨by rw [hcopied]; exact Option.some_ne_none _, ?_⟩
    rw [hlone, ← hseen, Storage.table_of_copy hcopied, htables]
    cases hc : ws.storage.copy s r.table with
    | none => rw [Storage.table_of_copy_none hc]
    | some rows => rw [Storage.table_of_copy hc, Table.withRows_withRows]

/-- **One action** within the transaction. -/
theorem Within.mirrors_perform (h : ws.Within i s) {a : Action ε}
    (ha : ¬ ws.EndsTransaction i a) (hm : ws.Mirrors lone s k) :
    (ws.perform a).1.Mirrors
      (if a.touches s k then (lone.perform a.direct).1 else lone) s k := by
  cases hw : a.writes s k with
  | true =>
    rw [if_pos (Action.touches_of_writes hw)]
    exact h.mirrors_of_write hw hm.seen
  | false =>
    have hlone : (if a.touches s k then (lone.perform a.direct).1 else lone).storage.tables k =
        lone.storage.tables k := by
      split
      · rename_i ht
        rcases perform_direct_tables lone ht with ⟨_, he⟩ | ⟨hyes, _⟩
        · exact he
        · rw [hw] at hyes
          cases hyes
      · rfl
    obtain ⟨rows, hcopy⟩ := Option.ne_none_iff_exists'.mp hm.copied
    have hcopy' := (h.copy_perform ha hw).trans hcopy
    obtain ⟨rows', htables⟩ := h.settled.perform_tables a k
    refine ⟨by rw [hcopy']; exact Option.some_ne_none _, ?_⟩
    rw [hlone, ← hm.seen, Storage.table_of_copy hcopy', Storage.table_of_copy hcopy, htables,
      Table.withRows_withRows]

/-! ## runs within a transaction -/

/-- The transaction of the unit does not end in the run. -/
def Lasts (i : UnitId) : Workspace ε → List (Action ε) → Prop
  | _, [] => True
  | ws, a :: rest => ¬ ws.EndsTransaction i a ∧ Lasts i (ws.perform a).1 rest

theorem Within.after (h : ws.Within i s) {run : List (Action ε)} (hlasts : ws.Lasts i run) :
    (ws.after run).Within i s := by
  induction run generalizing ws with
  | nil => exact h
  | cons a rest ih => exact ih (h.perform hlasts.1) hlasts.2

/-- **A run** within the transaction. -/
theorem Within.mirrors_after (h : ws.Within i s) {run : List (Action ε)}
    (hlasts : ws.Lasts i run) (hm : ws.Mirrors lone s k) :
    (ws.after run).Mirrors
      (lone.after ((run.filter (·.touches s k)).map Action.direct)) s k := by
  induction run generalizing ws lone with
  | nil => exact hm
  | cons a rest ih =>
    have hrest := ih (h.perform hlasts.1) hlasts.2 (h.mirrors_perform hlasts.1 hm)
    rw [List.filter_cons]
    split
    · rename_i ht
      rw [if_pos ht] at hrest
      exact hrest
    · rename_i ht
      rw [if_neg ht] at hrest
      exact hrest

/-- The run with a table of its own: from the first write on, nothing is done but what the session
does with the table, and that is done to the table itself. -/
def alone (s : SessionId) (k : TableId) : Workspace ε → List (Action ε) → Workspace ε
  | ws, [] => ws
  | ws, a :: rest =>
    if a.writes s k then ws.after (((a :: rest).filter (·.touches s k)).map Action.direct)
    else alone s k (ws.perform a).1 rest

theorem Within.alone_cases (h : ws.Within i s) {run : List (Action ε)}
    (hlasts : ws.Lasts i run) (hcopy : ws.storage.copy s k = none) :
    (run.any (·.writes s k) = true ∧ (ws.after run).Mirrors (ws.alone s k run) s k) ∨
    run.any (·.writes s k) = false ∧ (ws.after run).storage.copy s k = none ∧
      ws.alone s k run = ws.after run := by
  induction run generalizing ws with
  | nil => exact .inr ⟨rfl, hcopy, rfl⟩
  | cons a rest ih =>
    rw [List.any_cons]
    cases hw : a.writes s k with
    | true =>
      refine .inl ⟨rfl, ?_⟩
      have hseen := Storage.table_of_copy_none hcopy
      have hrest := (h.perform hlasts.1).mirrors_after hlasts.2 (h.mirrors_of_write hw hseen)
      unfold alone
      rw [if_pos hw, List.filter_cons_of_pos (Action.touches_of_writes hw)]
      exact hrest
    | false =>
      have hrest := ih (h.perform hlasts.1) hlasts.2 ((h.copy_perform hlasts.1 hw).trans hcopy)
      unfold alone
      rw [if_neg (Bool.eq_false_iff.mp hw)]
      exact hrest

/-- What the session sees is the table of the lone run. -/
theorem Within.seen_alone (h : ws.Within i s) {run : List (Action ε)}
    (hlasts : ws.Lasts i run) (hcopy : ws.storage.copy s k = none) :
    (ws.after run).storage.table (some s) k = (ws.alone s k run).storage.tables k := by
  rcases h.alone_cases hlasts hcopy with ⟨_, hm⟩ | ⟨_, hnone, halone⟩
  · exact hm.seen
  · rw [halone]
    exact Storage.table_of_copy_none hnone

/-- **A transaction is isolated.** Whatever the other units do, every reader through the session and
each access to a table answers as it would on a copy taken before the transaction's first write.
A commit puts these copies in the place of the tables written, and leaves the other tables alone;
with a cancelled token, or if it is rejected, it fails and leaves all rows as they are, staged ones
and others. -/
theorem transaction_isolated {start : Workspace ε} (h : start.Opened) {before : List (Action ε)}
    {u : HostedUnit} (hu : (start.after before).units i = some u)
    (hfree : (start.after before).hasTransaction i = false) {cancelled : Bool}
    {x : Product Repository Transaction}
    (hbegin : ((start.after before).call i (.gated .begin) cancelled).2.2 = some (.ok x))
    {during : List (Action ε)}
    (hlasts : ((start.after before).call i (.gated .begin) cancelled).1.Lasts i during) :
    let begun := ((start.after before).call i (.gated .begin) cancelled).1
    let now := begun.after during
    (∀ r : Repository, r.session = some u.session → r.reader now.storage = Repository.reader
      { r with session := none } (begun.alone u.session r.table during).storage) ∧
    (∀ k a, a.touches u.session k = true →
      (now.perform a).2 = ((begun.alone u.session k during).perform a.direct).2) ∧
    ∀ cut,
      let ended := now.call i (.gated .commit) cut
      if (cut || (now.storage.sessions u.session).rejectsCommit) = true then
        ∃ e, ended.2.2 = some (.error e) ∧ ended.1.storage.tables = now.storage.tables ∧
          ∀ s, (ended.1.storage.sessions s).staged = (now.storage.sessions s).staged
      else
        ∃ y, ended.2.2 = some (.ok y) ∧ ∀ k, ended.1.storage.tables k =
          if during.any (·.writes u.session k) then
            (begun.alone u.session k during).storage.tables k
          else now.storage.tables k := by
  intro begun now
  have hsettled := h.settled.after before
  obtain ⟨v, hv⟩ :=
    call_effect hu (hsettled.rest i u hu) (hsettled.remote u.session) (.gated .begin) cancelled
  have heffect := hv.effect
  rw [hbegin] at heffect
  have hunit : u.unit.hasTransaction = false := by
    unfold hasTransaction at hfree
    rw [hu] at hfree
    exact hfree
  obtain ⟨hopen, htx, hstaged⟩ := heffect.begun_of_ok hunit
  have hwithin : begun.Within i u.session := by
    refine ⟨hsettled.call i (.gated .begin) cancelled, v, ⟨?_, hv.session, ?_⟩, htx⟩
    · rw [hv.units, replace_same]
    · exact hv.effect.opened rfl hopen
  have hcopy : ∀ k, begun.storage.copy u.session k = none := by
    intro k
    have hsession : (begun.storage.sessions v.session).staged = some fun _ => none := hstaged
    rw [hv.session] at hsession
    unfold Storage.copy
    rw [hsession]
    rfl
  have hnow := hwithin.after hlasts
  have hseen := fun k => hwithin.seen_alone hlasts (hcopy k)
  refine ⟨fun r hr => Repository.reader_direct hr (hseen r.table),
    fun k a ha => perform_direct ha (hseen k), fun cut => ?_⟩
  have hends := hnow.commit cut
  intro ended
  split
  · rename_i hcause
    rw [if_pos hcause] at hends
    exact hends
  · rename_i hlive
    rw [if_neg hlive] at hends
    obtain ⟨y, hy, htables⟩ := hends
    refine ⟨y, hy, fun k => (htables k).trans ?_⟩
    rcases hwithin.alone_cases hlasts (hcopy k) with ⟨hany, hm⟩ | ⟨hany, hnone, _⟩
    · rw [if_pos hany]
      exact hm.seen
    · rw [if_neg (Bool.eq_false_iff.mp hany)]
      exact Storage.table_of_copy_none hnone

/-- Two inserts, one of them in a transaction, whose commit puts its own row in the place of the
other. -/
theorem pairOfUnits_isolated :
    let begun := (pairOfUnits.call "u1" (.gated .begin) false).1
    let during : List (Action Keyed) :=
      [.change (jobsThrough "s1") (.insert (jobOf 1)) false,
        .change (jobsThrough "s2") (.insert (jobOf 2)) false]
    pairOfUnits.Opened ∧ pairOfUnits.hasTransaction "u1" = false ∧ begun.Lasts "u1" during ∧
      ((begun.after during).storage.tables "jobs").rows = [jobOf 2] ∧
      (((begun.after during).call "u1" (.gated .commit) false).1.storage.tables "jobs").rows =
        [jobOf 1] := by
  intro begun during
  have hu : (pairOfUnits.after []).units "u1" = some { session := "s1", clock := firstSecond } :=
    rfl
  have hfree : (pairOfUnits.after []).hasTransaction "u1" = false := by decide
  have hlasts : begun.Lasts "u1" during := ⟨id, id, trivial⟩
  obtain ⟨_, _, hcommit⟩ := transaction_isolated pairOfUnits_opened hu hfree rfl hlasts
  refine ⟨pairOfUnits_opened, hfree, hlasts, by decide, ?_⟩
  have hends := hcommit false
  rw [if_neg (by decide)] at hends
  obtain ⟨_, _, htables⟩ := hends
  have hrows := congrArg Table.rows (htables "jobs")
  exact hrows.trans (by decide)

end Workspace

end RowSpec
