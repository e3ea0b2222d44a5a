import RowSpec.Workspace.Basic

/-!
# Schedules

Tasks of a unit of work take turns. In each round every task goes on, in order of arrival, until it
is finished or has to wait.

* `Workspace.turn?`     one turn of a task that can go on;
* `Workspace.poll`      its turns until it has to wait;
* `Workspace.call`, `Workspace.callAll`   one task, or several side by side, run to their end;
* `Workspace.abandon`   a task that is dropped where it first has to wait.
-/

namespace RowSpec

def Signal.task {ρ τ : Type} : Signal ρ τ → TaskId
  | start t _ | wake t | answer t _ | abandon t => t

namespace Workspace

variable {ε : Type}

/-! ## turns -/

/-- A task that has asked for something new gets the patience to wait for it. -/
def signal (ws : Workspace ε) (i : UnitId) (u : HostedUnit)
    (g : Signal Repository Transaction) : Workspace ε × List Event :=
  let (scene, events) := u.scene.step ws.catalog g
  let patience := ((scene.request? g.task).map (ws.delay u)).getD 0
  (ws.setUnit i (some { u with scene, patience := replace u.patience g.task patience }), events)

def turn? (ws : Workspace ε) (i : UnitId) (t : TaskId) : Option (Workspace ε × List Event) := do
  let u ← ws.units i
  match u.scene.request? t with
  | some request =>
    if u.patience t = 0 then
      let (ws, answer) := ws.respond u (u.cancelled t) request
      some (ws.signal i u (.answer t answer))
    else none
  | none => if u.scene.passes t then some (ws.signal i u (.wake t)) else none

/-- One turn less to wait. -/
def tick (ws : Workspace ε) (i : UnitId) (t : TaskId) : Workspace ε :=
  match ws.units i with
  | some u => ws.setUnit i (some { u with patience := replace u.patience t (u.patience t - 1) })
  | none => ws

def turns (i : UnitId) (t : TaskId) : Nat → Workspace ε → Workspace ε × List Event
  | 0, ws => (ws, [])
  | n + 1, ws =>
    match ws.turn? i t with
    | some (ws, events) =>
      let (ws, more) := turns i t n ws
      (ws, events ++ more)
    | none => (ws.tick i t, [])

/-- A task passes a gate once and asks for two things at most. -/
def poll (ws : Workspace ε) (i : UnitId) (t : TaskId) : Workspace ε × List Event :=
  turns i t 4 ws

/-- A new task goes on until it has to wait. -/
def launch (ws : Workspace ε) (i : UnitId) (call : UnitCall) (cancelled : Bool) :
    Workspace ε × List Event :=
  match ws.units i with
  | some u =>
    let t := u.nextTask
    let u := { u with nextTask := t + 1, cancelled := replace u.cancelled t cancelled }
    let (ws, events) := ws.signal i u (.start t call)
    let (ws, more) := ws.poll i t
    (ws, events ++ more)
  | none => (ws, [])

/-! ## rounds -/

def reply? (ws : Workspace ε) (i : UnitId) (t : TaskId) : Option (Reply Repository Transaction) :=
  (ws.units i).bind (·.scene.reply? t)

def round (i : UnitId) : List TaskId → Workspace ε → Workspace ε × List Event
  | [], ws => (ws, [])
  | t :: ts, ws =>
    let (ws, events) := ws.poll i t
    let (ws, more) := round i ts ws
    (ws, events ++ more)

/-- Rounds until all tasks are finished. -/
def rounds (i : UnitId) (ts : List TaskId) : Nat → Workspace ε → Workspace ε × List Event
  | 0, ws => (ws, [])
  | n + 1, ws =>
    if ts.all fun t => (ws.reply? i t).isSome then (ws, [])
    else
      let (ws, events) := round i ts ws
      let (ws, more) := rounds i ts n ws
      (ws, events ++ more)

def launchAll (i : UnitId) :
    List (UnitCall × Bool) → Workspace ε → Workspace ε × List Event
  | [], ws => (ws, [])
  | (call, cancelled) :: rest, ws =>
    let (ws, events) := ws.launch i call cancelled
    let (ws, more) := launchAll i rest ws
    (ws, events ++ more)

/-- Rounds that are enough for a call: it asks twice at most, and in a round of unfinished tasks
one of them has a turn or one turn less to wait. -/
def roundsFor (ws : Workspace ε) (i : UnitId) : UnitCall → Nat
  | .resolve request =>
    let delay := fun a => ((ws.constructor? request.entity a).map (·.delay)).getD 0
    4 + 2 * (delay .readOnly + delay .mutating)
  | _ => 4 + 2 * ((ws.units i).map fun u => (ws.storage.sessions u.session).delay).getD 0

/-! ## calls -/

def callAll (ws : Workspace ε) (i : UnitId) (calls : List (UnitCall × Bool)) :
    Workspace ε × List Event × List (Option (Reply Repository Transaction)) :=
  let first := ((ws.units i).map (·.nextTask)).getD 0
  let ts := (List.range calls.length).map (first + ·)
  let fuel := calls.foldl (fun n c => n + ws.roundsFor i c.1) 0
  let (ws, events) := launchAll i calls ws
  let (ws, more) := rounds i ts fuel ws
  (ws, events ++ more, ts.map (ws.reply? i))

def call (ws : Workspace ε) (i : UnitId) (c : UnitCall) (cancelled : Bool) :
    Workspace ε × List Event × Option (Reply Repository Transaction) :=
  let (ws, events, replies) := ws.callAll i [(c, cancelled)]
  (ws, events, replies.head?.bind id)

/-- Drops the task if it does not finish by itself at once. -/
def abandon (ws : Workspace ε) (i : UnitId) (c : UnitCall) (cancelled : Bool) :
    Workspace ε × List Event × Option (Reply Repository Transaction) :=
  match ws.units i with
  | some u =>
    let t := u.nextTask
    let (ws, events) := ws.launch i c cancelled
    match ws.reply? i t, ws.units i with
    | none, some u => ((ws.signal i u (.abandon t)).1, events, none)
    | reply, _ => (ws, events, reply)
  | none => (ws, [], none)

end Workspace

end RowSpec
