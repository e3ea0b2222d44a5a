import RowSpec.Workspace.Schedule

/-!
# Calls over two storages

A call reaches the storage through its sessions, and looks at no row. So it cannot tell storages
apart whose sessions answer alike.

* `Storage.AnswersAlike R`   the sessions of two storages that `R` relates answer alike, whatever
                             they are asked, and `R` relates what the storages become;
* `Workspace.on`             a workspace over another storage;
* `Workspace.Over R`         one outcome over two storages that `R` relates;
* `Workspace.Parallel R`     what is done comes out the same over two storages that `R` relates;
* `respond_parallel`, `turn?_parallel`, `call_parallel`   one answer, one turn, and a whole call.
-/

namespace RowSpec

variable {ε : Type}

structure Storage.AnswersAlike (R : Storage ε → Storage ε → Prop) : Prop where
  remote {st st' : Storage ε} (h : R st st') (s : SessionId) :
    (st'.sessions s).remote = (st.sessions s).remote
  begin {st st' : Storage ε} (h : R st st') (s : SessionId) (cancelled : Bool) :
    R (st.begin s cancelled).1 (st'.begin s cancelled).1 ∧
      (st'.begin s cancelled).2 = (st.begin s cancelled).2
  save {st st' : Storage ε} (h : R st st') (s : SessionId) (cancelled : Bool) :
    R (st.save s cancelled).1 (st'.save s cancelled).1 ∧
      (st'.save s cancelled).2 = (st.save s cancelled).2
  commit {st st' : Storage ε} (h : R st st') (s : SessionId) (cancelled : Bool) :
    R (st.commit s cancelled).1 (st'.commit s cancelled).1 ∧
      (st'.commit s cancelled).2 = (st.commit s cancelled).2
  rollback {st st' : Storage ε} (h : R st st') (s : SessionId) (cancelled : Bool) :
    R (st.rollback s cancelled).1 (st'.rollback s cancelled).1 ∧
      (st'.rollback s cancelled).2 = (st.rollback s cancelled).2

namespace Workspace

def on (ws : Workspace ε) (st : Storage ε) : Workspace ε := { ws with storage := st }

def Over {α : Type} (R : Storage ε → Storage ε → Prop) (r r' : Workspace ε × α) : Prop :=
  ∃ st, R r.1.storage st ∧ r' = (r.1.on st, r.2)

def Parallel {α : Type} (R : Storage ε → Storage ε → Prop)
    (f : Workspace ε → Workspace ε × α) : Prop :=
  ∀ ws st, R ws.storage st → Over R (f ws) (f (ws.on st))

variable {R : Storage ε → Storage ε → Prop}

/-- One thing after the other, with the events of both. -/
theorem Parallel.append {f g : Workspace ε → Workspace ε × List Event} (hf : Parallel R f)
    (hg : Parallel R g) :
    Parallel R fun ws => ((g (f ws).1).1, (f ws).2 ++ (g (f ws).1).2) := by
  intro ws st h
  obtain ⟨st₁, h₁, he₁⟩ := hf ws st h
  obtain ⟨st₂, h₂, he₂⟩ := hg (f ws).1 st₁ h₁
  refine ⟨st₂, h₂, ?_⟩
  simp only [he₁, he₂]

variable (hR : Storage.AnswersAlike R)
include hR

/-! ## answers -/

theorem construct_parallel (u : HostedUnit) (info : RepositoryInfo) :
    Parallel R (construct · u info) := by
  intro ws st h
  have hremote : (st.sessions u.session).remote = (ws.storage.sessions u.session).remote :=
    hR.remote h u.session
  show Over R (ws.construct u info) ((ws.on st).construct u info)
  unfold construct
  have hctor : (ws.on st).constructor? info.entity info.access =
      ws.constructor? info.entity info.access := rfl
  have htrouble : (ws.on st).trouble info.entity = ws.trouble info.entity := rfl
  rw [hctor]
  cases ws.constructor? info.entity info.access with
  | none => exact ⟨st, h, rfl⟩
  | some c =>
    cases c with
    | joined table hints =>
      dsimp only
      rw [show (ws.on st).storage = st from rfl, hremote]
      split <;> exact ⟨st, h, rfl⟩
    | detached table delay =>
      dsimp only
      rw [htrouble]
      cases ws.trouble info.entity <;> exact ⟨st, h, rfl⟩

theorem respond_parallel (u : HostedUnit) (cancelled : Bool) (request : Request Transaction) :
    Parallel R (respond · u cancelled request) := by
  intro ws st h
  cases request with
  | construct info =>
    obtain ⟨st', h', he⟩ := construct_parallel hR u info ws st h
    exact ⟨st', h', congrArg (Prod.map id Answer.constructed) he⟩
  | begin =>
    obtain ⟨hkept, hsame⟩ := hR.begin h u.session cancelled
    show Over R (Prod.map id Answer.begun (ws.beginOn u.session cancelled))
      (Prod.map id Answer.begun ((ws.on st).beginOn u.session cancelled))
    unfold beginOn
    rw [show (ws.on st).storage = st from rfl]
    rcases hb : ws.storage.begin u.session cancelled with ⟨st₁, result⟩
    rcases hb' : st.begin u.session cancelled with ⟨st₂, result'⟩
    rw [hb, hb'] at hkept hsame
    obtain rfl : result' = result := hsame
    cases result' with
    | error e => exact ⟨st₂, hkept, rfl⟩
    | ok _ => exact ⟨st₂, hkept, rfl⟩
  | save =>
    obtain ⟨hkept, hsame⟩ := hR.save h u.session cancelled
    exact ⟨_, hkept, congrArg (fun result => (_, Answer.saved result)) hsame⟩
  | commit tx =>
    obtain ⟨hkept, hsame⟩ := hR.commit h tx.session cancelled
    exact ⟨_, hkept, congrArg (fun result => (_, Answer.ended result)) hsame⟩
  | rollback tx =>
    obtain ⟨hkept, hsame⟩ := hR.rollback h tx.session cancelled
    exact ⟨_, hkept, congrArg (fun result => (_, Answer.ended result)) hsame⟩

/-! ## turns -/

theorem delay_on {ws : Workspace ε} {st : Storage ε} (h : R ws.storage st) (u : HostedUnit)
    (request : Request Transaction) : (ws.on st).delay u request = ws.delay u request := by
  have hdelay : ∀ s, (st.sessions s).delay = (ws.storage.sessions s).delay := fun s => by
    rw [Session.delay, Session.delay, hR.remote h s]
  cases request with
  | construct info => rfl
  | begin | save => exact hdelay u.session
  | commit tx | rollback tx => exact hdelay tx.session

theorem signal_parallel (i : UnitId) (u : HostedUnit) (g : Signal Repository Transaction) :
    Parallel R (signal · i u g) := by
  intro ws st h
  refine ⟨st, h, ?_⟩
  show (ws.on st).signal i u g = _
  unfold signal
  rw [funext (delay_on hR h u)]
  rfl

theorem turn?_parallel {ws : Workspace ε} {st : Storage ε} (h : R ws.storage st) (i : UnitId)
    (t : TaskId) : Option.Rel (Over R) (ws.turn? i t) ((ws.on st).turn? i t) := by
  unfold turn?
  rw [show (ws.on st).units = ws.units from rfl]
  cases ws.units i with
  | none => exact .none
  | some u =>
    simp only [Option.bind_eq_bind, Option.bind_some]
    cases u.scene.request? t with
    | none =>
      dsimp only
      split
      · exact .some (signal_parallel hR i u (.wake t) ws st h)
      · exact .none
    | some request =>
      dsimp only
      split
      · obtain ⟨st', h', he⟩ := respond_parallel hR u (u.cancelled t) request ws st h
        rw [show (ws.on st).respond u (u.cancelled t) request = _ from he]
        exact .some (signal_parallel hR i u _ _ st' h')
      · exact .none

omit hR in
theorem tick_parallel (i : UnitId) (t : TaskId) :
    Parallel R fun ws => (ws.tick i t, ([] : List Event)) := by
  intro ws st h
  show Over R (ws.tick i t, []) ((ws.on st).tick i t, [])
  unfold tick
  rw [show (ws.on st).units = ws.units from rfl]
  cases ws.units i <;> exact ⟨st, h, rfl⟩

theorem turns_parallel (i : UnitId) (t : TaskId) (n : Nat) : Parallel R (turns i t n) := by
  induction n with
  | zero => exact fun ws st h => ⟨st, h, rfl⟩
  | succ n ih =>
    intro ws st h
    have hturn := turn?_parallel hR h i t
    rw [turns, turns]
    generalize ws.turn? i t = r, (ws.on st).turn? i t = r' at hturn ⊢
    cases hturn with
    | none => exact tick_parallel i t ws st h
    | some hturn =>
      obtain ⟨st₁, h₁, rfl⟩ := hturn
      obtain ⟨st₂, h₂, he⟩ := ih _ st₁ h₁
      dsimp only
      rw [he]
      exact ⟨st₂, h₂, rfl⟩

/-! ## calls -/

theorem launch_parallel (i : UnitId) (c : UnitCall) (cancelled : Bool) :
    Parallel R (launch · i c cancelled) := by
  intro ws st h
  show Over R (ws.launch i c cancelled) ((ws.on st).launch i c cancelled)
  unfold launch
  rw [show (ws.on st).units = ws.units from rfl]
  cases ws.units i with
  | none => exact ⟨st, h, rfl⟩
  | some u => exact (signal_parallel hR i _ _).append (turns_parallel hR i u.nextTask 4) ws st h

theorem round_parallel (i : UnitId) (ts : List TaskId) : Parallel R (round i ts) := by
  induction ts with
  | nil => exact fun ws st h => ⟨st, h, rfl⟩
  | cons t ts ih => exact (turns_parallel hR i t 4).append ih

theorem rounds_parallel (i : UnitId) (ts : List TaskId) (n : Nat) :
    Parallel R (rounds i ts n) := by
  induction n with
  | zero => exact fun ws st h => ⟨st, h, rfl⟩
  | succ n ih =>
    intro ws st h
    rw [rounds, rounds, show (ws.on st).reply? = ws.reply? from rfl]
    split
    · exact ⟨st, h, rfl⟩
    · exact (round_parallel hR i ts).append ih ws st h

theorem launchAll_parallel (i : UnitId) (calls : List (UnitCall × Bool)) :
    Parallel R (launchAll i calls) := by
  induction calls with
  | nil => exact fun ws st h => ⟨st, h, rfl⟩
  | cons c calls ih => exact (launch_parallel hR i c.1 c.2).append ih

theorem roundsFor_on {ws : Workspace ε} {st : Storage ε} (h : R ws.storage st) (i : UnitId)
    (c : UnitCall) : (ws.on st).roundsFor i c = ws.roundsFor i c := by
  have hdelay : ∀ s, (st.sessions s).delay = (ws.storage.sessions s).delay := fun s => by
    rw [Session.delay, Session.delay, hR.remote h s]
  cases c with
  | resolve request => rfl
  | gated call | save | dispose =>
    show 4 + 2 * ((ws.units i).map fun u => (st.sessions u.session).delay).getD 0 = _
    simp only [hdelay]
    rfl

/-- **Calls side by side** come out the same over storages that cannot be told apart. -/
theorem callAll_parallel (i : UnitId) (calls : List (UnitCall × Bool)) :
    Parallel R (callAll · i calls) := by
  intro ws st h
  obtain ⟨st₁, h₁, he₁⟩ := launchAll_parallel hR i calls ws st h
  obtain ⟨st₂, h₂, he₂⟩ := rounds_parallel hR i
    ((List.range calls.length).map ((((ws.units i).map (·.nextTask)).getD 0) + ·))
    (calls.foldl (fun n c => n + ws.roundsFor i c.1) 0) (launchAll i calls ws).1 st₁ h₁
  refine ⟨st₂, h₂, ?_⟩
  show callAll (ws.on st) i calls = _
  unfold callAll
  rw [show (ws.on st).units = ws.units from rfl, funext (roundsFor_on hR h i), he₁]
  dsimp only
  rw [he₂]
  rfl

/-- **A call** comes out the same over storages that cannot be told apart. -/
theorem call_parallel (i : UnitId) (c : UnitCall) (cancelled : Bool) :
    Parallel R (call · i c cancelled) := by
  intro ws st h
  obtain ⟨st', h', he⟩ := callAll_parallel hR i [(c, cancelled)] ws st h
  refine ⟨st', h', ?_⟩
  show call (ws.on st) i c cancelled = _
  unfold call
  rw [show (ws.on st).callAll i [(c, cancelled)] = _ from he]

end Workspace

end RowSpec
