import RowSpec.Repository.Reading
import RowSpec.Workspace.Schedule

/-!
# Actions

What is done in a workspace whose units are open, as data: calls on the units, readings and changes
through repositories, and commits that sessions are told to reject.

* `Action`, `Outcome`
* `Workspace.perform`    the workspace after an action, its events and its outcome;
* `Workspace.after`      the workspace after a run of actions;
* `Workspace.outcomes`   the outcomes of a run, in order.
-/

namespace RowSpec

inductive Action (ε : Type) [Entity ε]
  | call (i : UnitId) (c : UnitCall) (cancelled : Bool)
  | read (r : Repository) (question : Reading ε) (cancelled : Bool)
  | change (r : Repository) (c : Change ε) (cancelled : Bool)
  /-- the next commit of the session fails -/
  | rejectCommit (s : SessionId)

inductive Outcome (ε : Type)
  | replied (reply : Option (Reply Repository Transaction))
  | found (result : Except RepoError (Finding ε))
  | changed (result : Except RepoError (Effect ε))
  | done

namespace Workspace

variable {ε : Type} [Entity ε]

def perform (ws : Workspace ε) : Action ε → Workspace ε × List Event × Outcome ε
  | .call i c cancelled =>
    let (ws, events, reply) := ws.call i c cancelled
    (ws, events, .replied reply)
  | .read r question cancelled =>
    let t := (r.reader ws.storage).answer cancelled question
    (ws, t.events, .found t.result)
  | .change r c cancelled =>
    let (storage, t) := r.change ws.storage c cancelled
    ({ ws with storage }, t.events, .changed t.result)
  | .rejectCommit s =>
    let session := { ws.storage.sessions s with rejectsCommit := true }
    ({ ws with storage := ws.storage.setSession s session }, [], .done)

def after (ws : Workspace ε) (actions : List (Action ε)) : Workspace ε :=
  actions.foldl (fun ws a => (ws.perform a).1) ws

def outcomes (ws : Workspace ε) : List (Action ε) → List (Outcome ε)
  | [] => []
  | a :: rest => (ws.perform a).2.2 :: (ws.perform a).1.outcomes rest

theorem after_append (ws : Workspace ε) (as bs : List (Action ε)) :
    ws.after (as ++ bs) = (ws.after as).after bs := by simp [after]

end Workspace

end RowSpec
