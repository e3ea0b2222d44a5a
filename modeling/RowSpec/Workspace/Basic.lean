import RowSpec.Repository.Basic
import RowSpec.UnitOfWork.Scene

/-!
# Workspaces

A workspace has the catalog, the configuration, the storage and the constructors that its units of
work share.

* `Constructor`   how a repository is made;
* `Workspace`     what is shared, and the units at work;
* `Workspace.openUnit`, `Workspace.dropUnit`   a unit starts over a session and ends disposed;
* `Workspace.respond`   the answer to what a task of a unit asks.
-/

namespace RowSpec

/-- where a repository takes the hints from that a specification leaves open -/
inductive HintSource
  | workspace
  /-- the default configuration -/
  | standard
  /-- hints stay open -/
  | nowhere
deriving DecidableEq, Repr

inductive Constructor
  /-- joins the session of the unit -/
  | joined (table : TableId) (hints : HintSource)
  /-- writes through; takes turns to construct, and may meet trouble -/
  | detached (table : TableId) (delay : Nat)
deriving DecidableEq, Repr

def Constructor.delay : Constructor → Nat
  | joined .. => 0
  | detached _ delay => delay

structure Transaction where
  /-- tells transactions apart -/
  id : Nat
  session : SessionId
deriving DecidableEq, Repr

abbrev UnitId := String

/-- A unit of work at work. -/
structure HostedUnit where
  scene : Scene Repository Transaction := {}
  session : SessionId
  /-- the clock of the workspace when the unit was opened -/
  clock : Instant
  cancelled : TaskId → Bool := fun _ => false
  /-- turns for which a task still waits for its answer -/
  patience : TaskId → Nat := fun _ => 0
  nextTask : TaskId := 0

def HostedUnit.unit (u : HostedUnit) : UnitOfWork Repository Transaction := u.scene.unit

structure Workspace (ε : Type) where
  catalog : Catalog := {}
  config : Config := {}
  clock : Instant
  storage : Storage ε := {}
  constructors : List ((EntityType × Access) × Constructor) := []
  /-- failures that the next detached constructions of a type meet, one each -/
  trouble : EntityType → List Fault := fun _ => []
  /-- detached constructions that succeeded -/
  built : EntityType → Access → Nat := fun _ _ => 0
  units : UnitId → Option HostedUnit := fun _ => none
  nextId : Nat := 0

namespace Workspace

variable {ε : Type}

/-! ## constructors -/

def constructor? (ws : Workspace ε) (e : EntityType) (a : Access) : Option Constructor :=
  ws.constructors.lookup (e, a)

/-- Repositories made before are not affected. -/
def register (ws : Workspace ε) (e : EntityType) (a : Access) (c : Constructor) : Workspace ε :=
  { ws with constructors := setKey (e, a) c ws.constructors }

def setTrouble (ws : Workspace ε) (e : EntityType) (faults : List Fault) : Workspace ε :=
  { ws with trouble := replace ws.trouble e faults }

def defaults (ws : Workspace ε) : HintSource → Option Config
  | .workspace => some ws.config
  | .standard => some {}
  | .nowhere => none

def makeRepository (ws : Workspace ε) (u : HostedUnit) (info : RepositoryInfo) (table : TableId)
    (session : Option SessionId) (hints : HintSource) :
    Workspace ε × Except RepoError Repository :=
  ({ ws with nextId := ws.nextId + 1 },
    .ok ⟨ws.nextId, info, table, session, ws.config.pages, ws.defaults hints, u.clock⟩)

def countBuilt (ws : Workspace ε) (info : RepositoryInfo) : Workspace ε :=
  { ws with
    built := replace ws.built info.entity
      (replace (ws.built info.entity) info.access (ws.built info.entity info.access + 1)) }

def construct (ws : Workspace ε) (u : HostedUnit) (info : RepositoryInfo) :
    Workspace ε × Except RepoError Repository :=
  match ws.constructor? info.entity info.access with
  | none => (ws, .error (.unsupported (.noFactory info.access info.entity)))
  | some (.joined table hints) =>
    if (ws.storage.sessions u.session).remote.isSome then
      (ws, .error (.unsupported (.foreignSession info.implementation)))
    else ws.makeRepository u info table (some u.session) hints
  | some (.detached table _) =>
    match ws.trouble info.entity with
    | fault :: rest => (ws.setTrouble info.entity rest, .error (.storage (.failed fault)))
    | [] => (ws.countBuilt info).makeRepository u info table none .standard

/-! ## transactions -/

def withStorage {α : Type} (ws : Workspace ε) (r : Storage ε × α) : Workspace ε × α :=
  ({ ws with storage := r.1 }, r.2)

def beginOn (ws : Workspace ε) (i : SessionId) (cancelled : Bool) :
    Workspace ε × Except StorageError Transaction :=
  match ws.storage.begin i cancelled with
  | (st, .ok ()) => ({ ws with storage := st, nextId := ws.nextId + 1 }, .ok ⟨ws.nextId, i⟩)
  | (st, .error e) => ({ ws with storage := st }, .error e)

def saveOn (ws : Workspace ε) (i : SessionId) (cancelled : Bool) :
    Workspace ε × Except StorageError Nat :=
  ws.withStorage (ws.storage.save i cancelled)

/-- Ends whatever transaction the session is in. -/
def commitOf (ws : Workspace ε) (tx : Transaction) (cancelled : Bool) :
    Workspace ε × Except StorageError Unit :=
  ws.withStorage (ws.storage.commit tx.session cancelled)

def rollbackOf (ws : Workspace ε) (tx : Transaction) (cancelled : Bool) :
    Workspace ε × Except StorageError Unit :=
  ws.withStorage (ws.storage.rollback tx.session cancelled)

/-! ## answers -/

def respond (ws : Workspace ε) (u : HostedUnit) (cancelled : Bool) :
    Request Transaction → Workspace ε × Answer Repository Transaction
  | .construct info => (ws.construct u info).map id .constructed
  | .begin => (ws.beginOn u.session cancelled).map id .begun
  | .save => (ws.saveOn u.session cancelled).map id .saved
  | .commit tx => (ws.commitOf tx cancelled).map id .ended
  | .rollback tx => (ws.rollbackOf tx cancelled).map id .ended

/-- the turns that an answer takes -/
def delay (ws : Workspace ε) (u : HostedUnit) : Request Transaction → Nat
  | .construct info => ((ws.constructor? info.entity info.access).map (·.delay)).getD 0
  | .begin | .save => (ws.storage.sessions u.session).delay
  | .commit tx | .rollback tx => (ws.storage.sessions tx.session).delay

/-! ## units -/

def setUnit (ws : Workspace ε) (i : UnitId) (u : Option HostedUnit) : Workspace ε :=
  { ws with units := replace ws.units i u }

/-- Disposes a unit and forgets it. -/
def dropUnit (ws : Workspace ε) (i : UnitId) : Workspace ε × List Event :=
  (ws.setUnit i none, ((ws.units i).map fun u => u.unit.dispose.2).getD [])

/-- A new unit takes the place of an old one of the same name. -/
def openUnit (ws : Workspace ε) (i : UnitId) (session : SessionId) :
    Workspace ε × List Event :=
  (ws.setUnit i (some { session, clock := ws.clock }), .unitOpened :: (ws.dropUnit i).2)

end Workspace

end RowSpec
