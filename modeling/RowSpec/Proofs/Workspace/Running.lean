import Mathlib.Data.List.Basic
import RowSpec.Workspace.Schedule

/-!
# Calls on a unit at rest

Between calls nobody stands at the gate of a unit. A call is then the only task that takes turns,
and over a session in memory it never waits.

* `HostedUnit.AtRest`      a unit between calls;
* `Workspace.running`      a workspace in which one task of a unit is at work;
* `ends_of_finished`       a call that is finished in its first turn;
* `ends_of_request`        a call that asks for one thing and is finished when it is told;
* `call_of_none`           a call on a unit that is not open.
-/

namespace RowSpec

/-! ## units -/

structure HostedUnit.AtRest (u : HostedUnit) : Prop where
  gate : u.unit.gate = {}
  /-- the tasks to come are unused -/
  fresh : ∀ t, u.nextTask ≤ t → u.scene.tasks t = none
  /-- a transaction is one of the unit's own session -/
  own : ∀ tx, u.unit.transaction = some tx → tx.session = u.session

def Request.constructs {τ : Type} : Request τ → Bool
  | .construct _ => true
  | _ => false

/-- The unit with its next task at a stage. -/
def HostedUnit.atStage (u : HostedUnit) (cancelled : Bool) (w : UnitOfWork Repository Transaction)
    (stage : Stage Repository Transaction) (patience : TaskId → Nat) : HostedUnit :=
  { u with
    scene := ⟨w, replace u.scene.tasks u.nextTask (some stage)⟩
    cancelled := replace u.cancelled u.nextTask cancelled
    patience
    nextTask := u.nextTask + 1 }

/-! ## one turn of a scene -/

namespace Scene

variable {ρ τ : Type} {s : Scene ρ τ} {t : TaskId} {stage : Stage ρ τ} {catalog : Catalog}

theorem step_start (h : s.tasks t = none) (c : UnitCall) :
    s.step catalog (.start t c) = s.afterTurn t (s.unit.start catalog t c) := by
  rw [step, h]

theorem step_answer (h : s.tasks t = some stage) (a : Answer ρ τ) :
    s.step catalog (.answer t a) = s.afterTurn t (s.unit.answer t stage a) := by
  rw [step, h]

theorem step_wake (h : s.tasks t = some stage) :
    s.step catalog (.wake t) = s.afterTurn t (s.unit.wake t stage) := by
  rw [step, h]

theorem request?_of_stage (h : s.tasks t = some stage) :
    s.request? t = s.unit.request? stage := by
  rw [request?, h]
  rfl

theorem request?_afterTurn (turn : Turn ρ τ) :
    (s.afterTurn t turn).1.request? t = turn.unit.request? turn.stage :=
  request?_of_stage (replace_same s.tasks t (some turn.stage))

end Scene

namespace Workspace

variable {ε : Type} {ws : Workspace ε} {i : UnitId} {u : HostedUnit} {cancelled : Bool}
  {w : UnitOfWork Repository Transaction} {stage : Stage Repository Transaction}
  {patience : TaskId → Nat}

theorem setUnit_units (ws : Workspace ε) (i : UnitId) (u : Option HostedUnit) :
    (ws.setUnit i u).units i = u := replace_same ws.units i u

theorem setUnit_setUnit (ws : Workspace ε) (i : UnitId) (u v : Option HostedUnit) :
    (ws.setUnit i u).setUnit i v = ws.setUnit i v := by
  rw [setUnit, setUnit, setUnit, replace_replace]

/-- The workspace while the next task of a unit is at work. -/
def running (ws : Workspace ε) (i : UnitId) (u : HostedUnit) (cancelled : Bool)
    (w : UnitOfWork Repository Transaction) (stage : Stage Repository Transaction)
    (patience : TaskId → Nat) : Workspace ε :=
  ws.setUnit i (some (u.atStage cancelled w stage patience))

theorem running_units : (ws.running i u cancelled w stage patience).units i =
    some (u.atStage cancelled w stage patience) := setUnit_units ..

theorem atStage_tasks : (u.atStage cancelled w stage patience).scene.tasks u.nextTask =
    some stage := replace_same ..

/-! ## one turn -/

/-- Turns to wait for what a stage asks. -/
def patienceFor (ws : Workspace ε) (u : HostedUnit) (turn : Turn Repository Transaction) : Nat :=
  ((turn.unit.request? turn.stage).map (ws.delay u)).getD 0

theorem signal_of_step {v : HostedUnit} {t : TaskId} {g : Signal Repository Transaction}
    {turn : Turn Repository Transaction} (hg : g.task = t)
    (h : v.scene.step ws.catalog g = v.scene.afterTurn t turn) :
    ws.signal i v g =
      (ws.setUnit i (some { v with
        scene := ⟨turn.unit, replace v.scene.tasks t (some turn.stage)⟩
        patience := replace v.patience t (ws.patienceFor v turn) }), turn.events) := by
  have hrequest := Scene.request?_afterTurn (s := v.scene) (t := t) turn
  simp only [signal, h, hg, patienceFor, ← hrequest]
  rfl

theorem signal_start (hu : u.scene.tasks u.nextTask = none) (cancelled : Bool) (c : UnitCall) :
    ∃ patience, patience u.nextTask = ws.patienceFor u (u.unit.start ws.catalog u.nextTask c) ∧
      ws.signal i { u with nextTask := u.nextTask + 1
                           cancelled := replace u.cancelled u.nextTask cancelled }
          (.start u.nextTask c) =
        (ws.running i u cancelled (u.unit.start ws.catalog u.nextTask c).unit
          (u.unit.start ws.catalog u.nextTask c).stage patience,
          (u.unit.start ws.catalog u.nextTask c).events) :=
  ⟨_, replace_same .., signal_of_step rfl (Scene.step_start hu c)⟩

theorem signal_answer (a : Answer Repository Transaction) :
    ∃ patience', patience' u.nextTask = ws.patienceFor u (w.answer u.nextTask stage a) ∧
      ws.signal i (u.atStage cancelled w stage patience) (.answer u.nextTask a) =
        (ws.running i u cancelled (w.answer u.nextTask stage a).unit
          (w.answer u.nextTask stage a).stage patience', (w.answer u.nextTask stage a).events) := by
  refine ⟨replace patience u.nextTask (ws.patienceFor u (w.answer u.nextTask stage a)),
    replace_same .., (signal_of_step rfl (Scene.step_answer atStage_tasks a)).trans ?_⟩
  simp only [running, HostedUnit.atStage, Signal.task, replace_replace]
  rfl

theorem running_running (w' : UnitOfWork Repository Transaction)
    (stage' : Stage Repository Transaction) (patience' : TaskId → Nat) :
    (ws.running i u cancelled w stage patience).running i u cancelled w' stage' patience' =
      ws.running i u cancelled w' stage' patience' := setUnit_setUnit ..

theorem tick_running : ∃ patience', (ws.running i u cancelled w stage patience).tick i u.nextTask =
    ws.running i u cancelled w stage patience' := by
  refine ⟨replace patience u.nextTask (patience u.nextTask - 1), ?_⟩
  rw [tick, running_units]
  exact setUnit_setUnit ws i _ _

theorem turn?_finished (reply : Reply Repository Transaction) :
    (ws.running i u cancelled w (.finished reply) patience).turn? i u.nextTask = none := by
  have hrequest : (u.atStage cancelled w (.finished reply) patience).scene.request? u.nextTask =
      none := Scene.request?_of_stage atStage_tasks
  have hpasses : (u.atStage cancelled w (.finished reply) patience).scene.passes u.nextTask =
      false := by rw [Scene.passes, atStage_tasks]
  simp only [turn?, running_units, Option.bind_eq_bind, Option.bind_some, hrequest, hpasses]
  rfl

theorem turn?_request {request : Request Transaction} (hr : w.request? stage = some request)
    (hp : patience u.nextTask = 0) :
    (ws.running i u cancelled w stage patience).turn? i u.nextTask =
      some (((ws.running i u cancelled w stage patience).respond
        (u.atStage cancelled w stage patience) cancelled request).1.signal i
          (u.atStage cancelled w stage patience) (.answer u.nextTask
            ((ws.running i u cancelled w stage patience).respond
              (u.atStage cancelled w stage patience) cancelled request).2)) := by
  have hrequest : (u.atStage cancelled w stage patience).scene.request? u.nextTask =
      some request := (Scene.request?_of_stage atStage_tasks).trans hr
  have hcancelled : (u.atStage cancelled w stage patience).cancelled u.nextTask = cancelled :=
    replace_same ..
  have hpatience : (u.atStage cancelled w stage patience).patience u.nextTask = 0 := hp
  simp only [turn?, running_units, Option.bind_eq_bind, Option.bind_some, hrequest, hpatience,
    hcancelled, if_true]

/-! ## all turns of a task -/

theorem turns_succ {t : TaskId} {ws' : Workspace ε} {events : List Event}
    (h : ws.turn? i t = some (ws', events)) (n : Nat) :
    turns i t (n + 1) ws = ((turns i t n ws').1, events ++ (turns i t n ws').2) := by
  rw [turns, h]

theorem turns_finished (reply : Reply Repository Transaction) (n : Nat) :
    ∃ patience', turns i u.nextTask n (ws.running i u cancelled w (.finished reply) patience) =
      (ws.running i u cancelled w (.finished reply) patience', []) := by
  cases n with
  | zero => exact ⟨patience, rfl⟩
  | succ n =>
    obtain ⟨patience', ht⟩ : ∃ patience', (ws.running i u cancelled w (.finished reply)
      patience).tick i u.nextTask = _ := tick_running
    refine ⟨patience', ?_⟩
    rw [turns, turn?_finished]
    exact congrArg (·, []) ht

theorem reply?_finished (reply : Reply Repository Transaction) :
    (ws.running i u cancelled w (.finished reply) patience).reply? i u.nextTask =
      some reply := by
  rw [reply?, running_units]
  show Scene.reply? _ _ = _
  rw [Scene.reply?, atStage_tasks]

theorem rounds_finished (reply : Reply Repository Transaction) (n : Nat) :
    rounds i [u.nextTask] n (ws.running i u cancelled w (.finished reply) patience) =
      (ws.running i u cancelled w (.finished reply) patience, []) := by
  cases n with
  | zero => rfl
  | succ n =>
    rw [rounds, List.all_cons, reply?_finished]
    rfl

/-! ## calls -/

/-- The call leaves the workspace `ws'`, its unit as `w`, and gives a reply. -/
def Ends (ws : Workspace ε) (i : UnitId) (u : HostedUnit) (c : UnitCall) (cancelled : Bool)
    (ws' : Workspace ε) (w : UnitOfWork Repository Transaction)
    (reply : Reply Repository Transaction) : Prop :=
  ∃ patience, (ws.call i c cancelled).1 = ws'.running i u cancelled w (.finished reply) patience ∧
    (ws.call i c cancelled).2.2 = some reply

theorem ends_of_launch {c : UnitCall} {ws' : Workspace ε}
    {reply : Reply Repository Transaction} {events : List Event} (hu : ws.units i = some u)
    (h : ws.launch i c cancelled =
      (ws'.running i u cancelled w (.finished reply) patience, events)) :
    ws.Ends i u c cancelled ws' w reply := by
  have htasks : (List.range [(c, cancelled)].length).map (u.nextTask + ·) = [u.nextTask] := rfl
  have hcall : ws.callAll i [(c, cancelled)] =
      (ws'.running i u cancelled w (.finished reply) patience, events ++ [] ++ [],
        [some reply]) := by
    simp only [callAll, hu, Option.map_some, Option.getD_some, htasks, launchAll, h,
      rounds_finished, List.map_cons, List.map_nil, reply?_finished]
  exact ⟨patience, by rw [call, hcall], by rw [call, hcall]; rfl⟩

theorem launch_eq (hu : ws.units i = some u) (hfresh : u.scene.tasks u.nextTask = none)
    (cancelled : Bool) (c : UnitCall) :
    ∃ patience, patience u.nextTask = ws.patienceFor u (u.unit.start ws.catalog u.nextTask c) ∧
      ws.launch i c cancelled =
        let turn := u.unit.start ws.catalog u.nextTask c
        let rest := turns i u.nextTask 4 (ws.running i u cancelled turn.unit turn.stage patience)
        (rest.1, turn.events ++ rest.2) := by
  obtain ⟨patience, hp, hs⟩ : ∃ patience, _ ∧ ws.signal i _ _ = _ :=
    signal_start hfresh cancelled c
  refine ⟨patience, hp, ?_⟩
  simp only [launch, hu, hs]
  rfl

/-- A call that is finished in its first turn. -/
theorem ends_of_finished {c : UnitCall} {reply : Reply Repository Transaction}
    {w : UnitOfWork Repository Transaction} {events : List Event}
    (hu : ws.units i = some u) (hfresh : u.scene.tasks u.nextTask = none)
    (hstart : u.unit.start ws.catalog u.nextTask c = ⟨w, .finished reply, events⟩) :
    ws.Ends i u c cancelled ws w reply := by
  obtain ⟨patience, _, hl⟩ := launch_eq hu hfresh cancelled c
  rw [hstart] at hl
  obtain ⟨patience', ht⟩ : ∃ patience', turns i u.nextTask 4
      (ws.running i u cancelled w (.finished reply) patience) = _ := turns_finished reply 4
  simp only [ht] at hl
  exact ends_of_launch hu hl

theorem beginOn_setUnit (v : Option HostedUnit) (s : SessionId) :
    (ws.setUnit i v).beginOn s cancelled =
      ((ws.beginOn s cancelled).1.setUnit i v, (ws.beginOn s cancelled).2) := by
  have hstorage : (ws.setUnit i v).storage = ws.storage := rfl
  rw [beginOn, beginOn, hstorage]
  rcases ws.storage.begin s cancelled with ⟨st, e | ⟨⟩⟩ <;> rfl

/-- What is asked of a session or a transaction does not concern the units. -/
theorem respond_setUnit {ws' : Workspace ε} {a : Answer Repository Transaction}
    {request : Request Transaction} (h : ws.respond u cancelled request = (ws', a))
    (hr : request.constructs = false) (v : Option HostedUnit) {u' : HostedUnit}
    (hs : u'.session = u.session) :
    (ws.setUnit i v).respond u' cancelled request = (ws'.setUnit i v, a) := by
  obtain rfl : (ws.respond u cancelled request).1 = ws' := by rw [h]
  obtain rfl : (ws.respond u cancelled request).2 = a := by rw [h]
  cases request with
  | construct info => cases hr
  | begin =>
    rw [respond, hs, beginOn_setUnit]
    rfl
  | save =>
    rw [respond, hs]
    rfl
  | commit tx => rfl
  | rollback tx => rfl

/-- A call that asks for one thing, at once, and is finished when it is told. -/
theorem ends_of_request {ws' : Workspace ε} {c : UnitCall} {reply : Reply Repository Transaction}
    {w w' : UnitOfWork Repository Transaction} {events events' : List Event}
    {request : Request Transaction} {a : Answer Repository Transaction} (hu : ws.units i = some u)
    (hfresh : u.scene.tasks u.nextTask = none)
    (hstart : u.unit.start ws.catalog u.nextTask c = ⟨w, stage, events⟩)
    (hrequest : w.request? stage = some request) (hr : request.constructs = false)
    (hdelay : ws.delay u request = 0) (hrespond : ws.respond u cancelled request = (ws', a))
    (hanswer : w.answer u.nextTask stage a = ⟨w', .finished reply, events'⟩) :
    ws.Ends i u c cancelled ws' w' reply := by
  obtain ⟨patience, hp, hl⟩ := launch_eq hu hfresh cancelled c
  rw [hstart] at hl hp
  have hzero : patience u.nextTask = 0 := by
    rw [hp, patienceFor, hrequest]
    exact hdelay
  obtain ⟨patience', _, hs⟩ : ∃ patience', _ ∧
      (ws'.running i u cancelled w stage patience).signal i
        (u.atStage cancelled w stage patience) (.answer u.nextTask a) = _ := signal_answer a
  rw [hanswer, running_running] at hs
  have hrespond' : (ws.running i u cancelled w stage patience).respond
      (u.atStage cancelled w stage patience) cancelled request =
        (ws'.running i u cancelled w stage patience, a) := respond_setUnit hrespond hr _ rfl
  have hturn : (ws.running i u cancelled w stage patience).turn? i u.nextTask =
      some (ws'.running i u cancelled w' (.finished reply) patience', events') := by
    rw [turn?_request hrequest hzero, hrespond']
    exact congrArg some hs
  obtain ⟨patience'', ht⟩ : ∃ patience'', turns i u.nextTask 3
      (ws'.running i u cancelled w' (.finished reply) patience') = _ := turns_finished reply 3
  have hturns : turns i u.nextTask 4 _ = _ := turns_succ hturn 3
  simp only [hturns, ht] at hl
  exact ends_of_launch hu hl

/-! ## units that are not open -/

theorem poll_of_none (hu : ws.units i = none) (t : TaskId) : ws.poll i t = (ws, []) := by
  simp only [poll, turns, turn?, hu, tick]
  rfl

theorem rounds_of_none (hu : ws.units i = none) (ts : List TaskId) (n : Nat) :
    (rounds i ts n ws).1 = ws := by
  have hround : ∀ ts, (round i ts ws).1 = ws := by
    intro ts
    induction ts with
    | nil => rfl
    | cons t ts ih =>
      simp only [round, poll_of_none hu]
      exact ih
  induction n with
  | zero => rfl
  | succ n ih =>
    rw [rounds]
    split
    · rfl
    · show (rounds i ts n (round i ts ws).1).1 = ws
      rw [hround]
      exact ih

theorem call_of_none (hu : ws.units i = none) (c : UnitCall) (cancelled : Bool) :
    (ws.call i c cancelled).1 = ws := by
  have hlaunch : launchAll i [(c, cancelled)] ws = (ws, []) := by
    simp only [launchAll, launch, hu]
    rfl
  simp only [call, callAll, hlaunch]
  exact rounds_of_none hu _ _

end Workspace

end RowSpec
