import RowSpec.Proofs.Workspace.Running

/-!
# What a call does

The effect of one call on a unit at rest over a session in memory.

* `Standing`          the unit, its session and the tables;
* `Standing.Still`    nothing about the transaction or the rows has changed;
* `Standing.Quiet`    the calls of which this is so;
* `CallEffect`        what each call can do;
* `Serves`            the call has one of the effects, and what else it leaves alone;
* `ends_close_of_held`   a close that rolls a transaction back;
* `serves_begin`, `serves_commit`, `serves_rollback`, `serves_close`, `serves_save`,
  `serves_dispose`    one call each;
* `serves_of_disposed`   any call on a unit that is disposed.
-/

namespace RowSpec

variable {ε : Type}

/-! ## sessions in memory -/

namespace Session

variable {s : Session ε}

theorem begin_of_local (h : s.remote = none) (cancelled : Bool) :
    s.begin cancelled =
      if cancelled then (s, .error .cancelled)
      else if s.inTransaction then (s, .error (.failed .transactionActive))
      else ({ s with staged := some fun _ => none, begun := s.begun + 1 }, .ok ()) := by
  rw [begin, overWire, refusal?, h]
  rfl

theorem save_of_local (h : s.remote = none) (cancelled : Bool) :
    s.save cancelled =
      if cancelled then (s, .error .cancelled) else ({ s with saved := s.saved + 1 }, .ok 0) := by
  rw [save, overWire, refusal?, h]
  rfl

theorem rollback_of_local (h : s.remote = none) (cancelled : Bool) :
    s.rollback cancelled =
      if cancelled then (s, .error .cancelled)
      else ({ s with staged := none, rolledBack := s.rolledBack + 1 }, .ok ()) := by
  rw [rollback, overWire, refusal?, h]
  rfl

end Session

theorem Storage.setSession_self (st : Storage ε) (i : SessionId) :
    st.setSession i (st.sessions i) = st := by
  rw [setSession, replace_self]

namespace Workspace

variable {ws : Workspace ε} {s : SessionId}

/-- What a session has become while it answered, and what is as it was. -/
structure Answered (ws ws' : Workspace ε) (s : SessionId) : Prop where
  units : ws'.units = ws.units
  others : ∀ s', s' ≠ s → ws'.storage.sessions s' = ws.storage.sessions s'
  remote : (ws'.storage.sessions s).remote = none

theorem answered_self (h : (ws.storage.sessions s).remote = none) : ws.Answered ws s :=
  ⟨rfl, fun _ _ => rfl, h⟩

theorem answered_of_replace {ws' : Workspace ε} {x : Session ε} (hu : ws'.units = ws.units)
    (hs : ws'.storage.sessions = replace ws.storage.sessions s x) (hx : x.remote = none) :
    ws.Answered ws' s where
  units := hu
  others s' hne := by rw [hs, replace_other _ _ hne]
  remote := by rw [hs, replace_same, hx]

/-- Beginning fails and leaves everything as it was, or a transaction starts. -/
theorem beginOn_cases (h : (ws.storage.sessions s).remote = none) (cancelled : Bool) :
    (∃ e, ws.beginOn s cancelled = (ws, .error e)) ∨
    (ws.storage.sessions s).staged = none ∧
      ∃ ws' tx, ws.beginOn s cancelled = (ws', .ok tx) ∧ ws.Answered ws' s ∧ tx.session = s ∧
        (ws'.storage.sessions s).staged = some (fun _ => none) ∧
        ws'.storage.tables = ws.storage.tables := by
  have hfail : ∀ e, (ws.storage.sessions s).begin cancelled = (ws.storage.sessions s, .error e) →
      ws.beginOn s cancelled = (ws, .error e) := by
    intro e he
    simp only [beginOn, Storage.begin, Storage.onSession, he, Storage.setSession_self]
  rw [Session.begin_of_local h] at hfail
  cases cancelled with
  | true => exact .inl ⟨_, hfail _ rfl⟩
  | false =>
    cases hs : (ws.storage.sessions s).staged with
    | some staged =>
      refine .inl ⟨.failed .transactionActive, hfail _ ?_⟩
      rw [Session.inTransaction, hs]
      rfl
    | none =>
      have hb := Session.begin_of_local h false
      rw [Session.inTransaction, hs] at hb
      refine .inr ⟨rfl, ?_⟩
      simp only [beginOn, Storage.begin, Storage.onSession, hb]
      refine ⟨_, _, rfl, answered_of_replace rfl rfl h, rfl, ?_, rfl⟩
      exact congrArg Session.staged (replace_same ..)

/-- A save is counted. -/
theorem saveOn_cases (h : (ws.storage.sessions s).remote = none) (cancelled : Bool) :
    ∃ ws' result, ws.saveOn s cancelled = (ws', result) ∧ ws.Answered ws' s ∧
      (ws'.storage.sessions s).staged = (ws.storage.sessions s).staged ∧
      ws'.storage.tables = ws.storage.tables := by
  simp only [saveOn, withStorage, Storage.save, Storage.onSession, Session.save_of_local h]
  cases cancelled with
  | true =>
    refine ⟨_, _, rfl, answered_of_replace rfl rfl h, ?_, rfl⟩
    exact (congrArg Session.staged (replace_same ..)).trans rfl
  | false =>
    refine ⟨_, _, rfl, answered_of_replace rfl rfl h, ?_, rfl⟩
    exact (congrArg Session.staged (replace_same ..)).trans rfl

/-- Rolling back with a cancelled token fails and leaves everything as it was; else it ends the
transaction. -/
theorem rollbackOf_cases (tx : Transaction)
    (h : (ws.storage.sessions tx.session).remote = none) (cancelled : Bool) :
    (cancelled = true ∧ ∃ e, ws.rollbackOf tx cancelled = (ws, .error e)) ∨
    cancelled = false ∧
      ∃ ws', ws.rollbackOf tx cancelled = (ws', .ok ()) ∧ ws.Answered ws' tx.session ∧
        (ws'.storage.sessions tx.session).staged = none ∧
        ws'.storage.tables = ws.storage.tables := by
  simp only [rollbackOf, withStorage, Storage.rollback, Storage.onSession,
    Session.rollback_of_local h]
  cases cancelled with
  | true =>
    refine .inl ⟨rfl, .cancelled, ?_⟩
    simp only [if_true, Storage.setSession_self]
  | false =>
    refine .inr ⟨rfl, _, rfl, answered_of_replace rfl rfl h, ?_, rfl⟩
    exact (congrArg Session.staged (replace_same ..)).trans rfl

/-- Committing fails and keeps the transaction, when the token is cancelled or the commit rejected;
else it puts the copies in the place of the tables. -/
theorem commitOf_cases (tx : Transaction)
    (h : (ws.storage.sessions tx.session).remote = none) (cancelled : Bool) :
    ((cancelled || (ws.storage.sessions tx.session).rejectsCommit) = true ∧
      ∃ ws' e, ws.commitOf tx cancelled = (ws', .error e) ∧ ws.Answered ws' tx.session ∧
        (ws'.storage.sessions tx.session).staged = (ws.storage.sessions tx.session).staged ∧
        ws'.storage.tables = ws.storage.tables) ∨
    (cancelled || (ws.storage.sessions tx.session).rejectsCommit) = false ∧
      ∃ ws', ws.commitOf tx cancelled = (ws', .ok ()) ∧ ws.Answered ws' tx.session ∧
        (ws'.storage.sessions tx.session).staged = none ∧
        ws'.storage.tables = Session.publish
          ((ws.storage.sessions tx.session).staged.getD fun _ => none) ws.storage.tables := by
  simp only [commitOf, withStorage, Storage.commit, Session.commit]
  cases cancelled with
  | true =>
    refine .inl ⟨rfl, _, _, rfl, answered_of_replace rfl rfl h, ?_, rfl⟩
    exact (congrArg Session.staged (replace_same ..)).trans rfl
  | false =>
    cases hr : (ws.storage.sessions tx.session).rejectsCommit with
    | true =>
      refine .inl ⟨rfl, _, _, rfl, answered_of_replace rfl rfl h, ?_, rfl⟩
      exact (congrArg Session.staged (replace_same ..)).trans rfl
    | false =>
      refine .inr ⟨rfl, _, rfl, answered_of_replace rfl rfl h, ?_, rfl⟩
      exact (congrArg Session.staged (replace_same ..)).trans rfl

end Workspace

/-! ## effects -/

/-- what a call on a unit can change of transactions and rows -/
structure Standing (ε : Type) where
  unit : UnitOfWork Repository Transaction
  session : Session ε
  tables : TableId → Table ε

structure Standing.Still (p p' : Standing ε) : Prop where
  disposed : p'.unit.disposed = p.unit.disposed
  transaction : p'.unit.transaction = p.unit.transaction
  staged : p'.session.staged = p.session.staged
  tables : p'.tables = p.tables

/-- The calls that leave transactions and rows alone, with their replies. -/
inductive Standing.Quiet (p : Standing ε) (cancelled : Bool) :
    UnitCall → Option (Reply Repository Transaction) → Prop
  /-- any call on a unit that is disposed -/
  | shut (call : UnitCall) (reply : Option (Reply Repository Transaction))
    (disposed : p.unit.disposed = true)
    (denied : ∀ c, call = .gated c → c ≠ .close → ∃ e, reply = some (.error e)) :
    p.Quiet cancelled call reply
  | resolved (request : Interface) (reply : Option (Reply Repository Transaction)) :
    p.Quiet cancelled (.resolve request) reply
  | saved (reply : Option (Reply Repository Transaction)) : p.Quiet cancelled .save reply
  | active (tx : Transaction) (opened : p.unit.disposed = false)
    (held : p.unit.transaction = some tx) :
    p.Quiet cancelled (.gated .begin) (some (.ok (.transaction tx)))
  /-- a begin that fails, or a commit without a transaction -/
  | refused (call : GateCall) (e : RepoError)
    (fits : call = .begin ∨ call = .commit ∧ p.unit.transaction = none) :
    p.Quiet cancelled (.gated call) (some (.error e))
  | rejected (tx : Transaction) (e : RepoError)
    (cause : (cancelled || p.session.rejectsCommit) = true)
    (held : p.unit.transaction = some tx) :
    p.Quiet cancelled (.gated .commit) (some (.error e))
  /-- a commit without a transaction -/
  | pendingSaved (free : p.unit.transaction = none) :
    p.Quiet cancelled (.gated .commit) (some (.ok .done))
  | nothingToRollBack (free : p.unit.transaction = none) :
    p.Quiet cancelled (.gated .rollback) (some (.ok .done))

/-- Each call, its reply, and how things stood before and after it. -/
inductive CallEffect (p p' : Standing ε) (cancelled : Bool) :
    UnitCall → Option (Reply Repository Transaction) → Prop
  | quiet {call : UnitCall} {reply : Option (Reply Repository Transaction)}
    (cause : p.Quiet cancelled call reply) (still : p.Still p') :
    CallEffect p p' cancelled call reply
  | begun (tx : Transaction) (opened : p.unit.disposed = false) (free : p.unit.transaction = none)
    (unstaged : p.session.staged = none) (disposed : p'.unit.disposed = p.unit.disposed)
    (held : p'.unit.transaction = some tx) (staged : p'.session.staged = some fun _ => none)
    (tables : p'.tables = p.tables) :
    CallEffect p p' cancelled (.gated .begin) (some (.ok (.transaction tx)))
  | committed (tx : Transaction) (live : (cancelled || p.session.rejectsCommit) = false)
    (held : p.unit.transaction = some tx)
    (disposed : p'.unit.disposed = p.unit.disposed) (free : p'.unit.transaction = none)
    (unstaged : p'.session.staged = none)
    (tables : p'.tables =
      Session.publish (p.session.staged.getD fun _ => none) p.tables) :
    CallEffect p p' cancelled (.gated .commit) (some (.ok .done))
  | rolledBack (tx : Transaction) (live : cancelled = false)
    (held : p.unit.transaction = some tx)
    (disposed : p'.unit.disposed = p.unit.disposed) (free : p'.unit.transaction = none)
    (unstaged : p'.session.staged = none) (tables : p'.tables = p.tables) :
    CallEffect p p' cancelled (.gated .rollback) (some (.ok .done))
  /-- a rollback that fails -/
  | lost (tx : Transaction) (e : RepoError) (cut : cancelled = true)
    (held : p.unit.transaction = some tx)
    (disposed : p'.unit.disposed = p.unit.disposed) (free : p'.unit.transaction = none)
    (staged : p'.session.staged = p.session.staged) (tables : p'.tables = p.tables) :
    CallEffect p p' cancelled (.gated .rollback) (some (.error e))
  /-- a close or a disposal -/
  | ended (call : UnitCall) (fits : call = .gated .close ∨ call = .dispose)
    (reply : Option (Reply Repository Transaction)) (disposed : p'.unit.disposed = true)
    (free : p'.unit.transaction = none)
    (staged : p'.session.staged = none ∨ p'.session.staged = p.session.staged)
    (tables : p'.tables = p.tables) : CallEffect p p' cancelled call reply

theorem Standing.Still.refl (p : Standing ε) : p.Still p := ⟨rfl, rfl, rfl, rfl⟩

namespace Workspace

variable {ws ws' : Workspace ε} {i : UnitId} {u : HostedUnit} {cancelled : Bool}

def standing (ws : Workspace ε) (u : HostedUnit) : Standing ε :=
  ⟨u.unit, ws.storage.sessions u.session, ws.storage.tables⟩

/-- A call on the unit `u`, which is `v` afterwards. -/
structure Serves (ws : Workspace ε) (i : UnitId) (u v : HostedUnit) (c : UnitCall)
    (cancelled : Bool) : Prop where
  units : (ws.call i c cancelled).1.units = replace ws.units i (some v)
  session : v.session = u.session
  rest : v.AtRest
  others : ∀ s, s ≠ u.session →
    (ws.call i c cancelled).1.storage.sessions s = ws.storage.sessions s
  remote : ((ws.call i c cancelled).1.storage.sessions u.session).remote = none
  effect : CallEffect (ws.standing u) ((ws.call i c cancelled).1.standing v) cancelled c
    (ws.call i c cancelled).2.2

theorem own_of_free {w : UnitOfWork Repository Transaction} {s : SessionId}
    (h : w.transaction = none) : ∀ tx, w.transaction = some tx → tx.session = s := by
  intro tx htx
  rw [h] at htx
  cases htx

theorem serves_of_ends {c : UnitCall} {w : UnitOfWork Repository Transaction}
    {reply : Reply Repository Transaction} (hrest : u.AtRest)
    (h : ws.Ends i u c cancelled ws' w reply) (ha : ws.Answered ws' u.session)
    (hgate : w.gate = {}) (hown : ∀ tx, w.transaction = some tx → tx.session = u.session)
    (heffect : CallEffect (ws.standing u)
      ⟨w, ws'.storage.sessions u.session, ws'.storage.tables⟩ cancelled c (some reply)) :
    ∃ v, ws.Serves i u v c cancelled := by
  obtain ⟨patience, hws, hreply⟩ := h
  refine ⟨u.atStage cancelled w (.finished reply) patience, ?_, rfl, ⟨hgate, ?_, hown⟩, ?_, ?_, ?_⟩
  · rw [hws, running, setUnit, ha.units]
  · intro t ht
    have hne : t ≠ u.nextTask := Nat.ne_of_gt ht
    exact (replace_other _ _ hne).trans (hrest.fresh t (Nat.le_of_succ_le ht))
  · intro s hs
    rw [hws]
    exact ha.others s hs
  · rw [hws]
    exact ha.remote
  · rw [hws, hreply]
    exact heffect

end Workspace

/-! ## calls at the gate -/

namespace UnitOfWork

variable {ρ τ : Type} {u : UnitOfWork ρ τ}

/-- The unit with one task at its gate. -/
def entered (u : UnitOfWork ρ τ) (t : TaskId) : UnitOfWork ρ τ := { u with gate := ⟨[t]⟩ }

theorem depart_entered (hg : u.gate = {}) (t : TaskId) (reply : Reply ρ τ) (events : List Event) :
    (u.entered t).depart t reply events = ⟨u, .finished reply, events⟩ := by
  have hleave : { u.entered t with gate := (u.entered t).gate.leave t } = u := by
    cases u
    cases hg
    simp [entered, Gate.leave]
  rw [depart, hleave]

theorem arrive_of_empty (hg : u.gate = {}) (t : TaskId) :
    { u with gate := u.gate.arrive t } = u.entered t := by
  rw [hg]
  rfl

theorem approachGate_entered (u : UnitOfWork ρ τ) (t : TaskId) (call : GateCall) :
    (u.entered t).approachGate t call = (u.entered t).proceed t call := by
  rw [approachGate, if_pos (by simp [entered, Gate.lets])]

theorem start_gated (hg : u.gate = {}) (hopen : u.disposed = false) (catalog : Catalog)
    (t : TaskId) (call : GateCall) :
    u.start catalog t (.gated call) = (u.entered t).proceed t call := by
  rw [start, startGated, if_neg (by simp [hopen]), arrive_of_empty hg, approachGate_entered]

theorem start_gated_of_disposed (hg : u.gate = {}) (hd : u.disposed = true) (catalog : Catalog)
    (t : TaskId) (call : GateCall) :
    ∃ reply events, u.start catalog t (.gated call) = ⟨u, .finished reply, events⟩ ∧
      (call ≠ .close → ∃ e, reply = .error e) := by
  have hclosed : (u.entered t).disposed = true := hd
  rw [start, startGated]
  cases call with
  | close => exact ⟨_, _, if_pos ⟨rfl, hd⟩, fun h => absurd rfl h⟩
  | begin | commit | rollback =>
    rw [if_neg (by simp), arrive_of_empty hg, approachGate_entered, proceed, if_pos hclosed]
    exact ⟨_, _, depart_entered hg t _ _, fun _ => ⟨_, rfl⟩⟩

theorem proceed_begin (hg : u.gate = {}) (hopen : u.disposed = false) (t : TaskId) :
    (u.entered t).proceed t .begin =
      match u.transaction with
      | some tx => ⟨u, .finished (.ok (.transaction tx)), [.transactionAlreadyActive]⟩
      | none => ⟨u.entered t, .beginning, []⟩ := by
  rw [proceed, if_neg (by simp [entered, hopen])]
  show (match u.transaction with | some tx => _ | none => _) = _
  cases u.transaction with
  | some tx => exact depart_entered hg t _ _
  | none => rfl

theorem proceed_commit (hopen : u.disposed = false) (t : TaskId) :
    (u.entered t).proceed t .commit =
      match u.transaction with
      | some tx => ⟨(u.entered t).takeTransaction, .committing tx, []⟩
      | none => ⟨u.entered t, .savingPending, []⟩ := by
  rw [proceed, if_neg (by simp [entered, hopen])]
  rfl

theorem proceed_rollback (hg : u.gate = {}) (hopen : u.disposed = false) (t : TaskId) :
    (u.entered t).proceed t .rollback =
      match u.transaction with
      | some tx => ⟨(u.entered t).takeTransaction, .rollingBack tx, []⟩
      | none => ⟨u, .finished (.ok .done), [.nothingToRollBack]⟩ := by
  rw [proceed, if_neg (by simp [entered, hopen])]
  show (match u.transaction with | some tx => _ | none => _) = _
  cases u.transaction with
  | some tx => rfl
  | none => exact depart_entered hg t _ _

theorem endBegin_entered (hg : u.gate = {}) (hopen : u.disposed = false) (t : TaskId) (tx : τ) :
    (u.entered t).endBegin t (.ok tx) =
      ⟨{ u with transaction := some tx }, .finished (.ok (.transaction tx)),
        [.transactionStarted]⟩ := by
  have hkeep : (u.entered t).keepTransaction tx =
      ({ u with transaction := some tx } : UnitOfWork ρ τ).entered t := by
    rw [keepTransaction, if_neg (by simp [entered, hopen])]
    rfl
  rw [endBegin, if_neg (by simp [entered, hopen]), hkeep]
  exact depart_entered (u := { u with transaction := some tx }) hg t _ _

/-- A transaction that was taken is put back. -/
theorem keepTransaction_takeTransaction {tx : τ} (hopen : u.disposed = false)
    (htx : u.transaction = some tx) (t : TaskId) :
    ((u.entered t).takeTransaction).keepTransaction tx = u.entered t := by
  rw [keepTransaction, if_neg (by simp [takeTransaction, entered, hopen])]
  cases u
  cases htx
  rfl

/-- The unit when it has been disposed. -/
def released (u : UnitOfWork ρ τ) : UnitOfWork ρ τ :=
  { u with disposed := true, entries := [], transaction := none }

theorem dispose_of_open (hopen : u.disposed = false) : u.dispose.1 = u.released := by
  rw [dispose, if_neg (by simp [hopen])]
  rfl

theorem departDisposed_entered (hg : u.gate = {}) (hopen : u.disposed = false) (t : TaskId)
    (reply : Reply ρ τ) :
    ∃ events, (u.entered t).departDisposed t reply = ⟨u.released, .finished reply, events⟩ := by
  rw [departDisposed, dispose_of_open (u := u.entered t) hopen]
  exact ⟨_, depart_entered (u := u.released) hg t reply _⟩

theorem proceed_close (hg : u.gate = {}) (hopen : u.disposed = false) (t : TaskId) :
    (∃ tx, u.transaction = some tx ∧ (u.entered t).proceed t .close =
      ⟨(u.entered t).takeTransaction, .closing tx, [.rollingBackOnClose]⟩) ∨
    u.transaction = none ∧
      ∃ events, (u.entered t).proceed t .close = ⟨u.released, .finished (.ok .done), events⟩ := by
  cases htx : u.transaction with
  | some tx =>
    refine .inl ⟨tx, rfl, ?_⟩
    have hentered : (u.entered t).transaction = some tx := htx
    rw [proceed, hentered]
  | none =>
    refine .inr ⟨rfl, ?_⟩
    have hentered : (u.entered t).transaction = none := htx
    rw [proceed, hentered]
    exact departDisposed_entered hg hopen t _

end UnitOfWork

namespace Workspace

variable {ws : Workspace ε} {i : UnitId} {u : HostedUnit}

/-- A session in memory answers at once. -/
theorem delay_of_local {s : SessionId} (h : (ws.storage.sessions s).remote = none) :
    (ws.storage.sessions s).delay = 0 := by
  rw [Session.delay, h]
  rfl

theorem serves_begin (hu : ws.units i = some u) (hrest : u.AtRest)
    (hl : (ws.storage.sessions u.session).remote = none) (hopen : u.unit.disposed = false)
    (cancelled : Bool) : ∃ v, ws.Serves i u v (.gated .begin) cancelled := by
  have hfresh := hrest.fresh u.nextTask (Nat.le_refl _)
  have hstart := UnitOfWork.start_gated hrest.gate hopen ws.catalog u.nextTask .begin
  rw [UnitOfWork.proceed_begin hrest.gate hopen] at hstart
  cases htx : u.unit.transaction with
  | some tx =>
    rw [htx] at hstart
    exact serves_of_ends hrest (ends_of_finished hu hfresh hstart) (answered_self hl) hrest.gate
      hrest.own (.quiet (.active tx hopen htx) (.refl _))
  | none =>
    rw [htx] at hstart
    rcases beginOn_cases hl cancelled with ⟨e, he⟩ | ⟨hs, he⟩
    · have hrespond : ws.respond u cancelled .begin = (ws, .begun (.error e)) := by
        rw [respond, he]
        rfl
      have hends := ends_of_request hu hfresh hstart rfl rfl (delay_of_local hl) hrespond
        (UnitOfWork.depart_entered hrest.gate u.nextTask _ _)
      exact serves_of_ends hrest hends (answered_self hl) hrest.gate hrest.own
        (.quiet (.refused _ _ (.inl rfl)) (.refl _))
    · obtain ⟨ws', tx, he, ha, htx', hstaged, htables⟩ := he
      have hrespond : ws.respond u cancelled .begin = (ws', .begun (.ok tx)) := by
        rw [respond, he]
        rfl
      have hends := ends_of_request hu hfresh hstart rfl rfl (delay_of_local hl) hrespond
        (UnitOfWork.endBegin_entered hrest.gate hopen u.nextTask tx)
      refine serves_of_ends hrest hends ha hrest.gate ?_ ?_
      · intro tx' h
        obtain rfl := Option.some.inj h
        exact htx'
      · exact .begun tx hopen htx hs rfl rfl hstaged htables

theorem serves_commit (hu : ws.units i = some u) (hrest : u.AtRest)
    (hl : (ws.storage.sessions u.session).remote = none) (hopen : u.unit.disposed = false)
    (cancelled : Bool) : ∃ v, ws.Serves i u v (.gated .commit) cancelled := by
  have hfresh := hrest.fresh u.nextTask (Nat.le_refl _)
  have hstart := UnitOfWork.start_gated hrest.gate hopen ws.catalog u.nextTask .commit
  rw [UnitOfWork.proceed_commit hopen] at hstart
  cases htx : u.unit.transaction with
  | none =>
    rw [htx] at hstart
    obtain ⟨ws', result, he, ha, hstaged, htables⟩ := saveOn_cases hl cancelled
    have hrespond : ws.respond u cancelled .save = (ws', .saved result) := by
      rw [respond, he]
      rfl
    have hstill : (ws.standing u).Still
      ⟨u.unit, ws'.storage.sessions u.session, ws'.storage.tables⟩ := ⟨rfl, rfl, hstaged, htables⟩
    cases result with
    | error e =>
      have hends := ends_of_request hu hfresh hstart rfl rfl (delay_of_local hl) hrespond
        (UnitOfWork.depart_entered hrest.gate u.nextTask _ _)
      exact serves_of_ends hrest hends ha hrest.gate hrest.own
        (.quiet (.refused _ _ (.inr ⟨rfl, htx⟩)) hstill)
    | ok n =>
      have hends := ends_of_request hu hfresh hstart rfl rfl (delay_of_local hl) hrespond
        (UnitOfWork.depart_entered hrest.gate u.nextTask _ _)
      exact serves_of_ends hrest hends ha hrest.gate hrest.own (.quiet (.pendingSaved htx) hstill)
  | some tx =>
    rw [htx] at hstart
    obtain ⟨id, s⟩ := tx
    obtain rfl : s = u.session := hrest.own _ htx
    rcases commitOf_cases ⟨id, u.session⟩ hl cancelled with
      ⟨hcause, ws', e, he, ha, hstaged, htables⟩ | ⟨hlive, ws', he, ha, hstaged, htables⟩
    · have hrespond : ws.respond u cancelled (.commit ⟨id, u.session⟩) =
          (ws', .ended (.error e)) := by
        rw [respond, he]
        rfl
      have hanswer : (u.unit.entered u.nextTask).takeTransaction.answer u.nextTask
          (.committing ⟨id, u.session⟩) (.ended (.error e)) =
            ⟨u.unit, .finished (.error (.storage e)), []⟩ := by
        rw [UnitOfWork.answer, UnitOfWork.endCommit,
          UnitOfWork.keepTransaction_takeTransaction hopen htx]
        exact UnitOfWork.depart_entered hrest.gate _ _ _
      have hends := ends_of_request hu hfresh hstart rfl rfl (delay_of_local hl) hrespond hanswer
      exact serves_of_ends hrest hends ha hrest.gate hrest.own
        (.quiet (.rejected _ _ hcause htx) ⟨rfl, rfl, hstaged, htables⟩)
    · have hrespond : ws.respond u cancelled (.commit ⟨id, u.session⟩) =
          (ws', .ended (.ok ())) := by
        rw [respond, he]
        rfl
      have hends := ends_of_request hu hfresh hstart rfl rfl (delay_of_local hl) hrespond
        (UnitOfWork.depart_entered (u := u.unit.takeTransaction) hrest.gate u.nextTask _ _)
      exact serves_of_ends hrest hends ha hrest.gate (own_of_free rfl)
        (.committed _ hlive htx rfl rfl hstaged htables)

theorem serves_rollback (hu : ws.units i = some u) (hrest : u.AtRest)
    (hl : (ws.storage.sessions u.session).remote = none) (hopen : u.unit.disposed = false)
    (cancelled : Bool) : ∃ v, ws.Serves i u v (.gated .rollback) cancelled := by
  have hfresh := hrest.fresh u.nextTask (Nat.le_refl _)
  have hstart := UnitOfWork.start_gated hrest.gate hopen ws.catalog u.nextTask .rollback
  rw [UnitOfWork.proceed_rollback hrest.gate hopen] at hstart
  cases htx : u.unit.transaction with
  | none =>
    rw [htx] at hstart
    exact serves_of_ends hrest (ends_of_finished hu hfresh hstart) (answered_self hl) hrest.gate
      hrest.own (.quiet (.nothingToRollBack htx) (.refl _))
  | some tx =>
    rw [htx] at hstart
    obtain ⟨id, s⟩ := tx
    obtain rfl : s = u.session := hrest.own _ htx
    rcases rollbackOf_cases ⟨id, u.session⟩ hl cancelled with
      ⟨hcut, e, he⟩ | ⟨hlive, ws', he, ha, hstaged, htables⟩
    · have hrespond : ws.respond u cancelled (.rollback ⟨id, u.session⟩) =
          (ws, .ended (.error e)) := by
        rw [respond, he]
        rfl
      -- the transaction was taken out of the unit and is not put back
      have hends := ends_of_request hu hfresh hstart rfl rfl (delay_of_local hl) hrespond
        (UnitOfWork.depart_entered (u := u.unit.takeTransaction) hrest.gate u.nextTask _ _)
      exact serves_of_ends hrest hends (answered_self hl) hrest.gate (own_of_free rfl)
        (.lost _ _ hcut htx rfl rfl rfl rfl)
    · have hrespond : ws.respond u cancelled (.rollback ⟨id, u.session⟩) =
          (ws', .ended (.ok ())) := by
        rw [respond, he]
        rfl
      have hends := ends_of_request hu hfresh hstart rfl rfl (delay_of_local hl) hrespond
        (UnitOfWork.depart_entered (u := u.unit.takeTransaction) hrest.gate u.nextTask _ _)
      exact serves_of_ends hrest hends ha hrest.gate (own_of_free rfl)
        (.rolledBack _ hlive htx rfl rfl hstaged htables)

/-- Closing a unit that has a transaction rolls it back, and does so unless the token is
cancelled. -/
theorem ends_close_of_held (hu : ws.units i = some u) (hrest : u.AtRest)
    (hl : (ws.storage.sessions u.session).remote = none) (hopen : u.unit.disposed = false)
    {tx : Transaction} (htx : u.unit.transaction = some tx) (cancelled : Bool) :
    (∃ e, ws.Ends i u (.gated .close) cancelled ws u.unit.takeTransaction.released (.error e)) ∨
    ∃ ws', ws.Ends i u (.gated .close) cancelled ws' u.unit.takeTransaction.released
        (.ok .done) ∧ ws.Answered ws' u.session ∧
      (ws'.storage.sessions u.session).staged = none ∧
      ws'.storage.tables = ws.storage.tables := by
  have hfresh := hrest.fresh u.nextTask (Nat.le_refl _)
  have hstart := UnitOfWork.start_gated hrest.gate hopen ws.catalog u.nextTask .close
  rcases UnitOfWork.proceed_close hrest.gate hopen u.nextTask with
    ⟨⟨id, s⟩, hheld, hp⟩ | ⟨hfree, _⟩
  · rw [hp] at hstart
    obtain rfl : s = u.session := hrest.own _ hheld
    have hdepart := fun reply => UnitOfWork.departDisposed_entered (u := u.unit.takeTransaction)
      hrest.gate hopen u.nextTask reply
    rcases rollbackOf_cases ⟨id, u.session⟩ hl cancelled with
      ⟨_, e, he⟩ | ⟨_, ws', he, ha, hstaged, htables⟩
    · have hrespond : ws.respond u cancelled (.rollback ⟨id, u.session⟩) =
          (ws, .ended (.error e)) := by
        rw [respond, he]
        rfl
      obtain ⟨events', hanswer⟩ := hdepart (.error (.storage e))
      exact .inl ⟨_, ends_of_request hu hfresh hstart rfl rfl (delay_of_local hl) hrespond hanswer⟩
    · have hrespond : ws.respond u cancelled (.rollback ⟨id, u.session⟩) =
          (ws', .ended (.ok ())) := by
        rw [respond, he]
        rfl
      obtain ⟨events', hanswer⟩ := hdepart (.ok .done)
      exact .inr ⟨ws', ends_of_request hu hfresh hstart rfl rfl (delay_of_local hl) hrespond
        hanswer, ha, hstaged, htables⟩
  · rw [htx] at hfree
    cases hfree

theorem serves_close (hu : ws.units i = some u) (hrest : u.AtRest)
    (hl : (ws.storage.sessions u.session).remote = none) (hopen : u.unit.disposed = false)
    (cancelled : Bool) : ∃ v, ws.Serves i u v (.gated .close) cancelled := by
  have hfresh := hrest.fresh u.nextTask (Nat.le_refl _)
  have hstart := UnitOfWork.start_gated hrest.gate hopen ws.catalog u.nextTask .close
  rcases UnitOfWork.proceed_close hrest.gate hopen u.nextTask with ⟨tx, htx, _⟩ | ⟨_, events, hp⟩
  · rcases ends_close_of_held hu hrest hl hopen htx cancelled with
      ⟨e, hends⟩ | ⟨ws', hends, ha, hstaged, htables⟩
    · exact serves_of_ends hrest hends (answered_self hl) hrest.gate (own_of_free rfl)
        (.ended _ (.inl rfl) _ rfl rfl (.inr rfl) rfl)
    · exact serves_of_ends hrest hends ha hrest.gate (own_of_free rfl)
        (.ended _ (.inl rfl) _ rfl rfl (.inl hstaged) htables)
  · rw [hp] at hstart
    exact serves_of_ends hrest (ends_of_finished hu hfresh hstart) (answered_self hl) hrest.gate
      (own_of_free rfl) (.ended _ (.inl rfl) _ rfl rfl (.inr rfl) rfl)

theorem serves_save (hu : ws.units i = some u) (hrest : u.AtRest)
    (hl : (ws.storage.sessions u.session).remote = none) (hopen : u.unit.disposed = false)
    (cancelled : Bool) : ∃ v, ws.Serves i u v .save cancelled := by
  have hfresh := hrest.fresh u.nextTask (Nat.le_refl _)
  have hstart : u.unit.start ws.catalog u.nextTask .save = ⟨u.unit, .saving, []⟩ := by
    rw [UnitOfWork.start, UnitOfWork.startSave, if_neg (by simp [hopen])]
  obtain ⟨ws', result, he, ha, hstaged, htables⟩ := saveOn_cases hl cancelled
  have hrespond : ws.respond u cancelled .save = (ws', .saved result) := by
    rw [respond, he]
    rfl
  obtain ⟨reply, hanswer⟩ : ∃ reply, u.unit.answer u.nextTask .saving (.saved result) =
      ⟨u.unit, .finished reply, []⟩ := by cases result <;> exact ⟨_, rfl⟩
  have hends := ends_of_request hu hfresh hstart rfl rfl (delay_of_local hl) hrespond hanswer
  exact serves_of_ends hrest hends ha hrest.gate hrest.own
    (.quiet (.saved _) ⟨rfl, rfl, hstaged, htables⟩)

theorem serves_dispose (hu : ws.units i = some u) (hrest : u.AtRest)
    (hl : (ws.storage.sessions u.session).remote = none) (hopen : u.unit.disposed = false)
    (cancelled : Bool) : ∃ v, ws.Serves i u v .dispose cancelled := by
  have hfresh := hrest.fresh u.nextTask (Nat.le_refl _)
  have hstart : u.unit.start ws.catalog u.nextTask .dispose =
      ⟨u.unit.released, .finished (.ok .done), u.unit.dispose.2⟩ := by
    rw [UnitOfWork.start, UnitOfWork.dispose_of_open hopen]
  exact serves_of_ends hrest (ends_of_finished hu hfresh hstart) (answered_self hl) hrest.gate
    (own_of_free rfl) (.ended _ (.inr rfl) _ rfl rfl (.inr rfl) rfl)

/-- A unit that is disposed is left as it is by every call that asks for no repository. -/
theorem serves_of_disposed (hu : ws.units i = some u) (hrest : u.AtRest)
    (hl : (ws.storage.sessions u.session).remote = none) (hd : u.unit.disposed = true)
    {c : UnitCall} (hc : ∀ request, c ≠ .resolve request) (cancelled : Bool) :
    ∃ v, ws.Serves i u v c cancelled := by
  have hfresh := hrest.fresh u.nextTask (Nat.le_refl _)
  obtain ⟨reply, events, hstart, hdenied⟩ : ∃ reply events,
      u.unit.start ws.catalog u.nextTask c = ⟨u.unit, .finished reply, events⟩ ∧
        ∀ call, c = .gated call → call ≠ .close → ∃ e, reply = .error e := by
    cases c with
    | resolve request => exact absurd rfl (hc request)
    | gated call =>
      obtain ⟨reply, events, hs, hdenied⟩ :=
        UnitOfWork.start_gated_of_disposed hrest.gate hd ws.catalog u.nextTask call
      exact ⟨reply, events, hs, fun _ h => UnitCall.gated.inj h ▸ hdenied⟩
    | save =>
      have hs : u.unit.start ws.catalog u.nextTask .save =
          ⟨u.unit, .finished (.error .disposed), []⟩ := by
        rw [UnitOfWork.start, UnitOfWork.startSave, if_pos hd]
      exact ⟨_, _, hs, fun _ h => by cases h⟩
    | dispose =>
      have hs : u.unit.start ws.catalog u.nextTask .dispose =
          ⟨u.unit, .finished (.ok .done), []⟩ := by
        rw [UnitOfWork.start, UnitOfWork.dispose, if_pos hd]
      exact ⟨_, _, hs, fun _ h => by cases h⟩
  refine serves_of_ends hrest (ends_of_finished hu hfresh hstart) (answered_self hl) hrest.gate
    hrest.own (.quiet (.shut _ _ hd fun call h hne => ?_) (.refl _))
  obtain ⟨e, he⟩ := hdenied call h hne
  exact ⟨e, congrArg some he⟩

end Workspace

end RowSpec
