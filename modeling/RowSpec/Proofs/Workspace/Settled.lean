import RowSpec.Proofs.Workspace.Resolve
import RowSpec.Record.Keyed
import RowSpec.Workspace.Action

/-!
# Workspaces between actions

What holds in a workspace whenever no call is at work: from its opening on, through every run.

* `Storage.putRows_staged`, `Storage.putRows_unstaged`   where a write puts its rows;
* `Workspace.Opened`         units just opened, each over a session of its own, in memory;
* `Workspace.Settled`        the invariant;
* `Settled.perform`          one action keeps it, `Settled.after` a run;
* `Settled.perform_cases`    what an action means to a unit that is open.
-/

namespace RowSpec

/-! ## where rows are put -/

namespace Storage

variable {ε : Type} {st : Storage ε}

theorem putRows_staged {s : SessionId} {staged : TableId → Option (List ε)}
    (h : (st.sessions s).staged = some staged) (k : TableId) (rows : List ε) :
    st.putRows (some s) k rows =
      st.setSession s { st.sessions s with staged := some (replace staged k (some rows)) } := by
  rw [putRows, Option.bind_some, h]
  rfl

theorem putRows_past (k : TableId) (rows : List ε) :
    st.putRows none k rows = st.setTable k ((st.tables k).withRows rows) := rfl

theorem putRows_unstaged {s : SessionId} (h : (st.sessions s).staged = none) (k : TableId)
    (rows : List ε) :
    st.putRows (some s) k rows = st.setTable k ((st.tables k).withRows rows) := by
  rw [putRows, Option.bind_some, h]
  rfl

/-- Putting rows starts and ends no transaction. -/
theorem putRows_sessions (st : Storage ε) (through : Option SessionId) (k : TableId)
    (rows : List ε) (s : SessionId) :
    ((st.putRows through k rows).sessions s).remote = (st.sessions s).remote ∧
      (((st.putRows through k rows).sessions s).staged = none ↔ (st.sessions s).staged = none) := by
  cases through with
  | none => exact ⟨rfl, Iff.rfl⟩
  | some i =>
    cases hi : (st.sessions i).staged with
    | none =>
      rw [putRows_unstaged hi]
      exact ⟨rfl, Iff.rfl⟩
    | some staged =>
      rw [putRows_staged hi]
      show (replace _ _ _ _ : Session ε).remote = _ ∧ ((replace _ _ _ _ : Session ε).staged = _ ↔ _)
      by_cases hs : s = i
      · subst hs
        rw [replace_same, hi]
        exact ⟨rfl, iff_of_false (Option.some_ne_none _) (Option.some_ne_none _)⟩
      · rw [replace_other _ _ hs]
        exact ⟨rfl, Iff.rfl⟩

theorem rejecting_sessions (st : Storage ε) (i s : SessionId) :
    ((st.setSession i { st.sessions i with rejectsCommit := true }).sessions s).remote =
        (st.sessions s).remote ∧
      (((st.setSession i { st.sessions i with rejectsCommit := true }).sessions s).staged = none ↔
        (st.sessions s).staged = none) := by
  show (replace _ _ _ _ : Session ε).remote = _ ∧ ((replace _ _ _ _ : Session ε).staged = _ ↔ _)
  by_cases hs : s = i
  · subst hs
    rw [replace_same]
    exact ⟨rfl, Iff.rfl⟩
  · rw [replace_other _ _ hs]
    exact ⟨rfl, Iff.rfl⟩

end Storage

/-! ## the rows after a write -/

section
variable {ε : Type} [Entity ε]

/-- A write that fails leaves the rows as they were. -/
def Table.rowsAfter (t : Table ε) (w : Write ε) : List ε :=
  match t.apply w with
  | .ok (rows, _) => rows
  | .error _ => t.rows

theorem Storage.write_live (st : Storage ε) (through : Option SessionId) (k : TableId)
    (w : Write ε) :
    (st.write through k w false).1 =
      st.putRows through k ((st.table through k).rowsAfter w) := by
  rw [write, if_neg Bool.false_ne_true, Table.rowsAfter]
  cases (st.table through k).apply w with
  | error e => rfl
  | ok r => rfl

theorem Repository.change_live (r : Repository) (st : Storage ε) (c : Change ε) :
    (r.change st c false).1 =
      st.putRows r.session r.table ((st.table r.session r.table).rowsAfter (c.write r.clock)) := by
  rw [← Storage.write_live, change]
  rcases st.write r.session r.table (c.write r.clock) false with ⟨st', e | effect⟩ <;> rfl

theorem Repository.change_cancelled (r : Repository) (st : Storage ε) (c : Change ε) :
    (r.change st c true).1 = st := by
  rw [change, Storage.write, if_pos rfl]

theorem Repository.change_sessions (r : Repository) (st : Storage ε) (c : Change ε)
    (cancelled : Bool) (s : SessionId) :
    ((r.change st c cancelled).1.sessions s).remote = (st.sessions s).remote ∧
      (((r.change st c cancelled).1.sessions s).staged = none ↔ (st.sessions s).staged = none) := by
  cases cancelled with
  | true =>
    rw [change_cancelled]
    exact ⟨rfl, Iff.rfl⟩
  | false =>
    rw [change_live]
    exact st.putRows_sessions r.session r.table _ s

end

namespace Workspace

variable {ε : Type} {ws : Workspace ε}

/-! ## invariant -/

/-- Units just opened, each over a session of its own; the sessions are in memory. -/
structure Opened (ws : Workspace ε) : Prop where
  remote : ∀ s, (ws.storage.sessions s).remote = none
  staged : ∀ s, (ws.storage.sessions s).staged = none
  fresh : ∀ i u, ws.units i = some u → u.scene = {}
  apart : ∀ i j u v, ws.units i = some u → ws.units j = some v → u.session = v.session → i = j

structure Settled (ws : Workspace ε) : Prop where
  remote : ∀ s, (ws.storage.sessions s).remote = none
  rest : ∀ i u, ws.units i = some u → u.AtRest
  apart : ∀ i j u v, ws.units i = some u → ws.units j = some v → u.session = v.session → i = j
  /-- a unit that has a transaction has a session that is in one -/
  held : ∀ i u, ws.units i = some u → u.unit.transaction ≠ none →
    (ws.storage.sessions u.session).staged ≠ none

theorem Opened.settled (h : ws.Opened) : ws.Settled where
  remote := h.remote
  rest i u hu := by
    have hs := h.fresh i u hu
    refine ⟨?_, ?_, ?_⟩
    · rw [HostedUnit.unit, hs]
    · intro t _
      rw [hs]
    · intro tx htx
      rw [HostedUnit.unit, hs] at htx
      cases htx
  apart := h.apart
  held i u hu htx := by
    rw [HostedUnit.unit, h.fresh i u hu] at htx
    exact absurd rfl htx

end Workspace

/-! ## one action -/

/-- A unit comes by a transaction only when its session does, and the session leaves it with it. -/
theorem CallEffect.held {ε : Type} {p p' : Standing ε} {cancelled : Bool} {c : UnitCall}
    {reply : Option (Reply Repository Transaction)} (h : CallEffect p p' cancelled c reply)
    (hp : p.unit.transaction ≠ none → p.session.staged ≠ none)
    (htx : p'.unit.transaction ≠ none) : p'.session.staged ≠ none := by
  cases h with
  | quiet _ still =>
    rw [still.staged]
    exact hp (still.transaction ▸ htx)
  | begun _ _ _ _ _ _ staged _ =>
    rw [staged]
    exact Option.some_ne_none _
  | committed _ _ _ _ free => exact absurd free htx
  | rolledBack _ _ _ _ free => exact absurd free htx
  | lost _ _ _ _ _ free => exact absurd free htx
  | ended _ _ _ _ free => exact absurd free htx

namespace Workspace

variable {ε : Type} {ws : Workspace ε}

/-- An action that concerns no unit keeps the invariant if transactions neither start nor end. -/
theorem Settled.congr (h : ws.Settled) {ws' : Workspace ε} (hunits : ws'.units = ws.units)
    (hs : ∀ s, (ws'.storage.sessions s).remote = (ws.storage.sessions s).remote ∧
      ((ws'.storage.sessions s).staged = none ↔ (ws.storage.sessions s).staged = none)) :
    ws'.Settled where
  remote s := (hs s).1.trans (h.remote s)
  rest i u hu := h.rest i u (hunits ▸ hu)
  apart i j u v hu hv := h.apart i j u v (hunits ▸ hu) (hunits ▸ hv)
  held i u hu htx := fun hnone => h.held i u (hunits ▸ hu) htx ((hs u.session).2.mp hnone)

/-- **A call** keeps the invariant. -/
theorem Settled.call (h : ws.Settled) (i : UnitId) (c : UnitCall) (cancelled : Bool) :
    (ws.call i c cancelled).1.Settled := by
  cases hu : ws.units i with
  | none => rw [call_of_none hu]; exact h
  | some u =>
    obtain ⟨v, hv⟩ := call_effect hu (h.rest i u hu) (h.remote u.session) c cancelled
    have hunits : ∀ j w, (ws.call i c cancelled).1.units j = some w →
        j = i ∧ w = v ∨ j ≠ i ∧ ws.units j = some w := by
      intro j w hw
      rw [hv.units] at hw
      by_cases hj : j = i
      · subst hj
        rw [replace_same] at hw
        exact .inl ⟨rfl, (Option.some.inj hw).symm⟩
      · rw [replace_other _ _ hj] at hw
        exact .inr ⟨hj, hw⟩
    refine ⟨?_, ?_, ?_, ?_⟩
    · intro s
      by_cases hs : s = u.session
      · rw [hs]
        exact hv.remote
      · rw [hv.others s hs]
        exact h.remote s
    · intro j w hw
      rcases hunits j w hw with ⟨_, rfl⟩ | ⟨_, hw⟩
      · exact hv.rest
      · exact h.rest j w hw
    · intro j k w x hw hx hs
      rcases hunits j w hw with ⟨rfl, rfl⟩ | ⟨hj, hw'⟩ <;>
        rcases hunits k x hx with ⟨rfl, rfl⟩ | ⟨hk, hx'⟩
      · rfl
      · exact h.apart _ _ u x hu hx' (hv.session.symm.trans hs)
      · exact h.apart _ _ w u hw' hu (hs.trans hv.session)
      · exact h.apart j k w x hw' hx' hs
    · intro j w hw htx
      rcases hunits j w hw with ⟨rfl, rfl⟩ | ⟨hj, hw⟩
      · exact hv.effect.held (h.held _ u hu) htx
      · -- another unit, whose session the call has not touched
        have hs : w.session ≠ u.session := fun he => hj (h.apart j i w u hw hu he)
        rw [hv.others w.session hs]
        exact h.held j w hw htx

variable [Entity ε]

/-- **One action** keeps the invariant. -/
theorem Settled.perform (h : ws.Settled) (a : Action ε) : (ws.perform a).1.Settled := by
  cases a with
  | call i c cancelled => exact h.call i c cancelled
  | read r question cancelled => exact h
  | change r c cancelled => exact h.congr rfl (r.change_sessions ws.storage c cancelled)
  | rejectCommit i => exact h.congr rfl (ws.storage.rejecting_sessions i)

/-- **A run** keeps the invariant. -/
theorem Settled.after (h : ws.Settled) (actions : List (Action ε)) :
    (ws.after actions).Settled := by
  induction actions generalizing ws with
  | nil => exact h
  | cons a rest ih => exact ih (h.perform a)

end Workspace

/-! ## units that stay open -/

namespace Workspace

variable {ε : Type} {ws : Workspace ε} {i : UnitId} {s : SessionId} {u : HostedUnit}

/-- A call on another unit touches neither the unit nor its session. -/
theorem Settled.call_other (h : ws.Settled) (hu : ws.units i = some u) {j : UnitId} (hj : j ≠ i)
    (c : UnitCall) (cancelled : Bool) :
    (ws.call j c cancelled).1.units i = some u ∧
      (ws.call j c cancelled).1.storage.sessions u.session = ws.storage.sessions u.session := by
  cases hw : ws.units j with
  | none =>
    rw [call_of_none hw]
    exact ⟨hu, rfl⟩
  | some w =>
    obtain ⟨v, hv⟩ := call_effect hw (h.rest j w hw) (h.remote w.session) c cancelled
    have hs : u.session ≠ w.session := fun he => hj (h.apart j i w u hw hu he.symm)
    refine ⟨?_, hv.others u.session hs⟩
    rw [hv.units, replace_other _ _ hj.symm]
    exact hu

/-- The unit `u` is open, over the session `s`. -/
structure Hosts (ws : Workspace ε) (i : UnitId) (s : SessionId) (u : HostedUnit) : Prop where
  unit : ws.units i = some u
  session : u.session = s
  opened : u.unit.disposed = false

theorem Opened.hosts (h : ws.Opened) (hu : ws.units i = some u) : ws.Hosts i u.session u :=
  ⟨hu, rfl, by rw [HostedUnit.unit, h.fresh i u hu]⟩

def hasTransaction (ws : Workspace ε) (i : UnitId) : Bool :=
  (ws.units i).any (·.unit.hasTransaction)

/-- Whether the session of the unit is in a transaction. -/
def inTransaction (ws : Workspace ε) (i : UnitId) : Bool :=
  (ws.units i).any fun u => (ws.storage.sessions u.session).inTransaction

theorem Hosts.hasTransaction (hu : ws.Hosts i s u) :
    ws.hasTransaction i = u.unit.transaction.isSome := by
  rw [Workspace.hasTransaction, hu.unit, Option.any_some, UnitOfWork.hasTransaction, hu.opened]
  rfl

theorem Hosts.inTransaction (hu : ws.Hosts i s u) :
    ws.inTransaction i = (ws.storage.sessions u.session).staged.isSome := by
  rw [Workspace.inTransaction, hu.unit]
  rfl

end Workspace

def UnitCall.shuts : UnitCall → Bool
  | .gated .close | .dispose => true
  | _ => false

/-- the actions that end a unit -/
def Action.shuts {ε : Type} [Entity ε] (i : UnitId) : Action ε → Bool
  | .call j c _ => j = i && c.shuts
  | _ => false

/-- A unit stays open until it is closed or disposed. -/
theorem CallEffect.opened {ε : Type} {p p' : Standing ε} {cancelled : Bool} {c : UnitCall}
    {reply : Option (Reply Repository Transaction)} (h : CallEffect p p' cancelled c reply)
    (hc : c.shuts = false) (hopen : p.unit.disposed = false) : p'.unit.disposed = false := by
  cases h with
  | quiet _ still => exact still.disposed.trans hopen
  | begun _ _ _ _ hd => exact hd.trans hopen
  | committed _ _ _ hd => exact hd.trans hopen
  | rolledBack _ _ _ hd => exact hd.trans hopen
  | lost _ _ _ _ hd => exact hd.trans hopen
  | ended _ fits => rcases fits with rfl | rfl <;> cases hc

namespace Workspace

variable {ε : Type} {ws : Workspace ε} {i : UnitId} {s : SessionId} {u : HostedUnit}

/-- A call on an open unit that does not end it. -/
theorem Settled.call_own (h : ws.Settled) (hu : ws.Hosts i s u) {c : UnitCall}
    (hc : c.shuts = false) (cancelled : Bool) :
    ∃ v, (ws.call i c cancelled).1.Hosts i s v ∧
      CallEffect (ws.standing u) ((ws.call i c cancelled).1.standing v) cancelled c
        (ws.call i c cancelled).2.2 := by
  obtain ⟨v, hv⟩ :=
    call_effect hu.unit (h.rest i u hu.unit) (h.remote u.session) c cancelled
  refine ⟨v, ⟨?_, hv.session.trans hu.session, hv.effect.opened hc hu.opened⟩, hv.effect⟩
  rw [hv.units, replace_same]

/-- **An action**, seen from an open unit: a call on the unit itself, or an action that neither the
unit nor the transaction of its session takes notice of. -/
theorem Settled.perform_cases [Entity ε] (h : ws.Settled) (hu : ws.Hosts i s u) {a : Action ε}
    (ha : a.shuts i = false) :
    (∃ c cancelled v, a = .call i c cancelled ∧ c.shuts = false ∧
      (ws.perform a).1.Hosts i s v ∧
      CallEffect (ws.standing u) ((ws.perform a).1.standing v) cancelled c
        (ws.call i c cancelled).2.2) ∨
    (∀ c cancelled, a ≠ .call i c cancelled) ∧ (ws.perform a).1.Hosts i s u ∧
      (((ws.perform a).1.storage.sessions s).staged = none ↔
        (ws.storage.sessions s).staged = none) := by
  cases a with
  | call j c cancelled =>
    by_cases hj : j = i
    · subst hj
      have hc : c.shuts = false := by simpa [Action.shuts] using ha
      obtain ⟨v, hv, heffect⟩ := h.call_own hu hc cancelled
      exact .inl ⟨c, cancelled, v, rfl, hc, hv, heffect⟩
    · obtain ⟨hunit, hsession⟩ := h.call_other hu.unit hj c cancelled
      rw [hu.session] at hsession
      refine .inr ⟨?_, ⟨hunit, hu.session, hu.opened⟩, ?_⟩
      · intro _ _ he
        exact hj (Action.call.inj he).1
      · show ((ws.call j c cancelled).1.storage.sessions s).staged = none ↔ _
        rw [hsession]
  | read r question cancelled => exact .inr ⟨fun _ _ h => (by cases h), hu, Iff.rfl⟩
  | change r c cancelled =>
    refine .inr ⟨fun _ _ h => (by cases h), ⟨hu.unit, hu.session, hu.opened⟩, ?_⟩
    exact (r.change_sessions ws.storage c cancelled s).2
  | rejectCommit s' =>
    refine .inr ⟨fun _ _ h => (by cases h), ⟨hu.unit, hu.session, hu.opened⟩, ?_⟩
    exact (ws.storage.rejecting_sessions s' s).2

end Workspace

/-! ## an example -/

def firstSecond : Instant :=
  ⟨⟨1970, 1, 1, by decide, by decide⟩, ⟨0, 0, 0, 0, by decide, by decide, by decide, by decide⟩⟩

/-- Two units that share empty tables. -/
def pairOfUnits : Workspace Keyed where
  clock := firstSecond
  units := fun i =>
    if i = "u1" then some { session := "s1", clock := firstSecond }
    else if i = "u2" then some { session := "s2", clock := firstSecond }
    else none

/-- A repository of jobs that joins the session. -/
def jobsThrough (s : SessionId) : Repository where
  id := 0
  info := ⟨.generic ⟨"job", .long, "id", {}, "jobs", "jobs"⟩ .mutating, "jobs", .long⟩
  table := "jobs"
  session := some s
  limits := {}
  defaults := none
  clock := firstSecond

def jobOf (id : Int) : Keyed := { id := .number (.ofInt id) }

theorem pairOfUnits_units {i : UnitId} {u : HostedUnit} (h : pairOfUnits.units i = some u) :
    i = "u1" ∧ u = { session := "s1", clock := firstSecond } ∨
      i = "u2" ∧ u = { session := "s2", clock := firstSecond } := by
  unfold pairOfUnits at h
  dsimp only at h
  split at h
  · exact .inl ⟨‹_›, (Option.some.inj h).symm⟩
  · split at h
    · exact .inr ⟨‹_›, (Option.some.inj h).symm⟩
    · cases h

theorem pairOfUnits_opened : pairOfUnits.Opened where
  remote _ := rfl
  staged _ := rfl
  fresh i u h := by
    rcases pairOfUnits_units h with ⟨_, rfl⟩ | ⟨_, rfl⟩ <;> rfl
  apart i j u v hu hv hs := by
    rcases pairOfUnits_units hu with ⟨rfl, rfl⟩ | ⟨rfl, rfl⟩ <;>
      rcases pairOfUnits_units hv with ⟨rfl, rfl⟩ | ⟨rfl, rfl⟩
    · rfl
    · exact absurd hs (by decide)
    · exact absurd hs (by decide)
    · rfl

end RowSpec
