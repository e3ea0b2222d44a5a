import RowSpec.UnitOfWork.Task

/-!
# Scenes

A scene is a unit of work with the tasks that run on it. The outside chooses which task has the
next turn and what the sessions, transactions and constructors answer.

* `Signal`       one such choice;
* `Scene.step`   its effect; a signal that fits no task changes nothing.
-/

namespace RowSpec

inductive Signal (ρ τ : Type)
  | start (t : TaskId) (call : UnitCall)
  | wake (t : TaskId)
  | answer (t : TaskId) (a : Answer ρ τ)
  | abandon (t : TaskId)

structure Scene (ρ τ : Type) where
  unit : UnitOfWork ρ τ := {}
  tasks : TaskId → Option (Stage ρ τ) := fun _ => none

namespace Scene

variable {ρ τ : Type}

def afterTurn (s : Scene ρ τ) (t : TaskId) (turn : Turn ρ τ) : Scene ρ τ × List Event :=
  (⟨turn.unit, replace s.tasks t (some turn.stage)⟩, turn.events)

def step (catalog : Catalog) (s : Scene ρ τ) : Signal ρ τ → Scene ρ τ × List Event
  | .start t call => match s.tasks t with
    | none => s.afterTurn t (s.unit.start catalog t call)
    | some _ => (s, [])
  | .wake t => match s.tasks t with
    | some stage => s.afterTurn t (s.unit.wake t stage)
    | none => (s, [])
  | .answer t a => match s.tasks t with
    | some stage => s.afterTurn t (s.unit.answer t stage a)
    | none => (s, [])
  | .abandon t => match s.tasks t with
    | some stage => (⟨s.unit.abandon t stage, replace s.tasks t none⟩, [])
    | none => (s, [])

def run (catalog : Catalog) (s : Scene ρ τ) (signals : List (Signal ρ τ)) : Scene ρ τ :=
  signals.foldl (fun s g => (s.step catalog g).1) s

/-- what a task waits to be told -/
def request? (s : Scene ρ τ) (t : TaskId) : Option (Request τ) :=
  (s.tasks t).bind s.unit.request?

/-- Whether a task that waits at a gate can go on. -/
def passes (s : Scene ρ τ) (t : TaskId) : Bool :=
  match s.tasks t with
  | some (.waiting c) => (s.unit.cell? c).any fun cell => cell.value.isSome || cell.gate.lets t
  | some (.queued _) => s.unit.gate.lets t
  | _ => false

def reply? (s : Scene ρ τ) (t : TaskId) : Option (Reply ρ τ) :=
  match s.tasks t with
  | some (.finished reply) => some reply
  | _ => none

theorem run_nil (catalog : Catalog) (s : Scene ρ τ) : s.run catalog [] = s := rfl

theorem run_append (catalog : Catalog) (s : Scene ρ τ) (gs hs : List (Signal ρ τ)) :
    s.run catalog (gs ++ hs) = (s.run catalog gs).run catalog hs := by simp [run]

end Scene

end RowSpec
