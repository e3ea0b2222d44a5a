import RowSpec.UnitOfWork.Basic

/-!
# Tasks of a unit of work

A call on a unit of work runs as a task. It goes on by itself until it is finished, has to wait at
a gate, or has asked something of a session, a transaction or a constructor.

* `UnitCall`   the calls;
* `Stage`      where a task stands between two of its turns;
* `Request`    what a task asks of the outside, `Answer` what it is told;
* `Turn`       the outcome of a turn: the unit, the task's new stage, the events;
* `UnitOfWork.start`, `UnitOfWork.wake`, `UnitOfWork.answer`, `UnitOfWork.abandon`   the turns.
-/

namespace RowSpec

/-- calls that pass the transaction gate -/
inductive GateCall
  | begin | commit | rollback | close
deriving DecidableEq, Repr

inductive UnitCall
  | resolve (i : Interface)
  | gated (c : GateCall)
  | save
  | dispose
deriving DecidableEq, Repr

/-- what a finished call gives -/
inductive Product (ρ τ : Type)
  | repository (r : ρ)
  | transaction (t : τ)
  | saved (count : Nat)
  | done

abbrev Reply (ρ τ : Type) := Except RepoError (Product ρ τ)

inductive Stage (ρ τ : Type)
  /-- waits for its turn to construct, or for the repository another task constructs -/
  | waiting (c : CellId)
  | constructing (c : CellId)
  /-- waits at the transaction gate -/
  | queued (call : GateCall)
  | beginning
  /-- rolls back a transaction whose unit was disposed while it began -/
  | undoing (t : τ)
  | committing (t : τ)
  /-- a commit without a transaction saves -/
  | savingPending
  | rollingBack (t : τ)
  | closing (t : τ)
  | saving
  | finished (reply : Reply ρ τ)

inductive Request (τ : Type)
  | construct (info : RepositoryInfo)
  | begin
  | save
  | commit (t : τ)
  | rollback (t : τ)

inductive Answer (ρ τ : Type)
  | constructed (result : Except RepoError ρ)
  | begun (result : Except StorageError τ)
  | saved (result : Except StorageError Nat)
  | ended (result : Except StorageError Unit)

structure Turn (ρ τ : Type) where
  unit : UnitOfWork ρ τ
  stage : Stage ρ τ
  events : List Event := []

namespace UnitOfWork

variable {ρ τ : Type}

/-- What a task at this stage waits to be told. -/
def request? (u : UnitOfWork ρ τ) : Stage ρ τ → Option (Request τ)
  | .constructing c => (u.cell? c).map fun cell => .construct cell.info
  | .beginning => some .begin
  | .undoing t | .rollingBack t | .closing t => some (.rollback t)
  | .committing t => some (.commit t)
  | .savingPending | .saving => some .save
  | .waiting _ | .queued _ | .finished _ => none

/-! ## repositories -/

/-- A repository that is there is given out, unless the unit has been disposed. -/
def give (u : UnitOfWork ρ τ) (r : ρ) (events : List Event) : Turn ρ τ :=
  if u.disposed then ⟨{ u with entries := [] }, .finished (.error .disposed), events⟩
  else ⟨u, .finished (.ok (.repository r)), events⟩

/-- The state of a cell as seen by a task in its line. -/
def approach (u : UnitOfWork ρ τ) (t : TaskId) (c : CellId) (events : List Event) : Turn ρ τ :=
  match u.cell? c with
  | some cell => match cell.value with
    | some r => u.give r events
    | none => ⟨u, if cell.gate.lets t then .constructing c else .waiting c, events⟩
  | none => ⟨u, .waiting c, events⟩

def startResolve (u : UnitOfWork ρ τ) (catalog : Catalog) (t : TaskId) (i : Interface) :
    Turn ρ τ :=
  match u.resolveInfo catalog i with
  | .error e => ⟨u, .finished (.error e), []⟩
  | .ok info =>
    let (u, c, events) := u.cellFor info
    (u.modifyCell c fun cell =>
      if cell.value.isSome then cell else { cell with gate := cell.gate.arrive t }).approach t c
      (substitution i info ++ events)

/-- A construction that succeeds frees all tasks of the cell, one that fails lets the next one in. -/
def endConstruction (u : UnitOfWork ρ τ) (t : TaskId) (c : CellId) :
    Except RepoError ρ → Turn ρ τ
  | .ok r => (u.modifyCell c fun cell => { cell with gate := {}, value := some r }).give r
      [.constructed]
  | .error e =>
    ⟨u.modifyCell c fun cell => { cell with gate := cell.gate.leave t }, .finished (.error e), []⟩

/-! ## transaction calls -/

/-- Leaves the transaction gate with a reply. -/
def depart (u : UnitOfWork ρ τ) (t : TaskId) (reply : Reply ρ τ) (events : List Event) :
    Turn ρ τ :=
  ⟨{ u with gate := u.gate.leave t }, .finished reply, events⟩

/-- Disposes and leaves. -/
def departDisposed (u : UnitOfWork ρ τ) (t : TaskId) (reply : Reply ρ τ) : Turn ρ τ :=
  u.dispose.1.depart t reply u.dispose.2

/-- The call of the task that holds the transaction gate. -/
def proceed (u : UnitOfWork ρ τ) (t : TaskId) : GateCall → Turn ρ τ
  | .begin =>
    if u.disposed then u.depart t (.error .disposed) []
    else match u.transaction with
      | some tx => u.depart t (.ok (.transaction tx)) [.transactionAlreadyActive]
      | none => ⟨u, .beginning, []⟩
  | .commit =>
    if u.disposed then u.depart t (.error .disposed) []
    else match u.transaction with
      | some tx => ⟨u.takeTransaction, .committing tx, []⟩
      | none => ⟨u, .savingPending, []⟩
  | .rollback =>
    if u.disposed then u.depart t (.error .disposed) []
    else match u.transaction with
      | some tx => ⟨u.takeTransaction, .rollingBack tx, []⟩
      | none => u.depart t (.ok .done) [.nothingToRollBack]
  | .close => match u.transaction with
    | some tx => ⟨u.takeTransaction, .closing tx, [.rollingBackOnClose]⟩
    | none => u.departDisposed t (.ok .done)

/-- Goes through the transaction gate if nobody is in front. -/
def approachGate (u : UnitOfWork ρ τ) (t : TaskId) (call : GateCall) : Turn ρ τ :=
  if u.gate.lets t then u.proceed t call else ⟨u, .queued call, []⟩

/-- Closing a unit that is disposed already has nothing to wait for. -/
def startGated (u : UnitOfWork ρ τ) (t : TaskId) (call : GateCall) : Turn ρ τ :=
  if call = .close ∧ u.disposed then ⟨u, .finished (.ok .done), []⟩
  else { u with gate := u.gate.arrive t }.approachGate t call

def startSave (u : UnitOfWork ρ τ) : Turn ρ τ :=
  if u.disposed then ⟨u, .finished (.error .disposed), []⟩ else ⟨u, .saving, []⟩

def endBegin (u : UnitOfWork ρ τ) (t : TaskId) : Except StorageError τ → Turn ρ τ
  | .error e => u.depart t (.error (.storage e)) []
  | .ok tx =>
    if u.disposed then ⟨u, .undoing tx, [.disposedWhileBeginning]⟩
    else (u.keepTransaction tx).depart t (.ok (.transaction tx)) [.transactionStarted]

def endUndo (u : UnitOfWork ρ τ) (t : TaskId) : Except StorageError Unit → Turn ρ τ
  | .error _ => u.depart t (.error .disposed) [.orphanRollbackFailed]
  | .ok () => u.depart t (.error .disposed) []

/-- A transaction whose commit fails is kept, so that it can be rolled back. -/
def endCommit (u : UnitOfWork ρ τ) (t : TaskId) (tx : τ) : Except StorageError Unit → Turn ρ τ
  | .error e => (u.keepTransaction tx).depart t (.error (.storage e)) []
  | .ok () => u.depart t (.ok .done) [.committed]

def endPendingSave (u : UnitOfWork ρ τ) (t : TaskId) : Except StorageError Nat → Turn ρ τ
  | .error e => u.depart t (.error (.storage e)) []
  | .ok _ => u.depart t (.ok .done) [.savedWithoutTransaction]

def endRollback (u : UnitOfWork ρ τ) (t : TaskId) : Except StorageError Unit → Turn ρ τ
  | .error e => u.depart t (.error (.storage e)) []
  | .ok () => u.depart t (.ok .done) [.rolledBack]

def endClose (u : UnitOfWork ρ τ) (t : TaskId) : Except StorageError Unit → Turn ρ τ
  | .error e => u.departDisposed t (.error (.storage e))
  | .ok () => u.departDisposed t (.ok .done)

def endSave (u : UnitOfWork ρ τ) : Except StorageError Nat → Turn ρ τ
  | .error e => ⟨u, .finished (.error (.storage e)), []⟩
  | .ok n => ⟨u, .finished (.ok (.saved n)), []⟩

/-! ## turns -/

def start (u : UnitOfWork ρ τ) (catalog : Catalog) (t : TaskId) : UnitCall → Turn ρ τ
  | .resolve i => u.startResolve catalog t i
  | .gated call => u.startGated t call
  | .save => u.startSave
  | .dispose => ⟨u.dispose.1, .finished (.ok .done), u.dispose.2⟩

/-- A further turn of a task that waits. -/
def wake (u : UnitOfWork ρ τ) (t : TaskId) : Stage ρ τ → Turn ρ τ
  | .waiting c => u.approach t c []
  | .queued call => u.approachGate t call
  | stage => ⟨u, stage, []⟩

/-- The turn of a task that is told what it asked for; other answers change nothing. -/
def answer (u : UnitOfWork ρ τ) (t : TaskId) : Stage ρ τ → Answer ρ τ → Turn ρ τ
  | .constructing c, .constructed result => u.endConstruction t c result
  | .beginning, .begun result => u.endBegin t result
  | .undoing _, .ended result => u.endUndo t result
  | .committing tx, .ended result => u.endCommit t tx result
  | .savingPending, .saved result => u.endPendingSave t result
  | .rollingBack _, .ended result => u.endRollback t result
  | .closing _, .ended result => u.endClose t result
  | .saving, .saved result => u.endSave result
  | stage, _ => ⟨u, stage, []⟩

/-- A task that is dropped leaves the gates; a transaction that it had taken is lost to the unit. -/
def abandon (u : UnitOfWork ρ τ) (t : TaskId) : Stage ρ τ → UnitOfWork ρ τ
  | .waiting c | .constructing c =>
    u.modifyCell c fun cell => { cell with gate := cell.gate.leave t }
  | .saving | .finished _ => u
  | _ => { u with gate := u.gate.leave t }

end UnitOfWork

end RowSpec
