import RowSpec.Proofs.UnitOfWork.Cells
import RowSpec.Proofs.Workspace.Resolve

/-!
# Turns and cells

What a signal can do to the cells of a unit and to the tasks that stand at them, while the unit is
open. Calls about transactions, saving and disposal pass the cells by.

* `Stage.cell?`          the cell that a task stands at;
* `Turn.Aside`           a turn that has nothing to do with cells;
* `Scene.Move`           one thing that happens at the cells;
* `Scene.construction?`  the repository that a signal brings, with its variant;
* `Scene.Given`          the cell that a request is given, and `Grounded.given` that it is given one;
* `Scene.Grounded.moves` every signal comes down to such moves.
-/

namespace RowSpec

variable {ρ τ : Type}

/-- the cell that a task stands at -/
def Stage.cell? : Stage ρ τ → Option CellId
  | .waiting c | .constructing c => some c
  | _ => none

theorem Stage.cell?_eq_none {stage : Stage ρ τ} (h : ¬ stage.isOfCell = true) :
    stage.cell? = none := by
  cases stage with
  | waiting c | constructing c => exact absurd rfl h
  | _ => rfl

/-! ## turns aside -/

/-- One turn in two units that differ at most in their cells: the turn is the same, and as long as
the units are open, the cells stay. -/
structure Turn.Aside (u u' : UnitOfWork ρ τ) (turn turn' : Turn ρ τ) : Prop where
  alike : turn.unit.Alike turn'.unit
  stage : turn'.stage = turn.stage
  cell : turn.stage.cell? = none
  kept : turn.unit.disposed = false → u.disposed = false ∧
    (turn.unit.entries = u.entries ∧ turn.unit.cells = u.cells) ∧
    turn'.unit.entries = u'.entries ∧ turn'.unit.cells = u'.cells

namespace UnitOfWork

variable {u u' : UnitOfWork ρ τ}

theorem Alike.depart (h : u.Alike u') (t : TaskId) (reply : Reply ρ τ) (events : List Event) :
    Turn.Aside u u' (u.depart t reply events) (u'.depart t reply events) :=
  ⟨⟨h.disposed, h.transaction, congrArg (·.leave t) h.gate⟩, rfl, rfl,
    fun hopen => ⟨hopen, ⟨rfl, rfl⟩, rfl, rfl⟩⟩

theorem Alike.departDisposed (h : u.Alike u') (t : TaskId) (reply : Reply ρ τ) :
    Turn.Aside u u' (u.departDisposed t reply) (u'.departDisposed t reply) := by
  have hdisposed : ∀ v : UnitOfWork ρ τ, (v.departDisposed t reply).unit.disposed = true :=
    fun v => v.dispose_disposed
  refine ⟨⟨(hdisposed u').trans (hdisposed u).symm, ?_, ?_⟩, rfl, rfl, fun hopen => ?_⟩
  · cases hu : u.disposed <;>
      simp [UnitOfWork.departDisposed, UnitOfWork.depart, dispose, hu, h.disposed, h.transaction]
  · cases hu : u.disposed <;>
      simp [UnitOfWork.departDisposed, UnitOfWork.depart, dispose, hu, h.disposed, h.gate]
  · rw [hdisposed] at hopen
    cases hopen

/-- A turn after which the cells are as they were. -/
theorem Alike.aside (u u' : UnitOfWork ρ τ) {v v' : UnitOfWork ρ τ} (hv : v.Alike v')
    (hopen : v.disposed = u.disposed)
    (hcells : v.entries = u.entries ∧ v.cells = u.cells)
    (hcells' : v'.entries = u'.entries ∧ v'.cells = u'.cells) {stage : Stage ρ τ}
    (hstage : stage.cell? = none) (events : List Event) :
    Turn.Aside u u' ⟨v, stage, events⟩ ⟨v', stage, events⟩ :=
  ⟨hv, rfl, hstage, fun h => ⟨hopen ▸ h, hcells, hcells'⟩⟩

theorem Alike.stays (h : u.Alike u') {stage : Stage ρ τ} (hstage : stage.cell? = none) :
    Turn.Aside u u' ⟨u, stage, []⟩ ⟨u', stage, []⟩ :=
  Alike.aside u u' h rfl ⟨rfl, rfl⟩ ⟨rfl, rfl⟩ hstage []

theorem Alike.takeTransaction (h : u.Alike u') : u.takeTransaction.Alike u'.takeTransaction :=
  ⟨h.disposed, rfl, h.gate⟩

theorem keepTransaction_of_open {u : UnitOfWork ρ τ} (hopen : u.disposed = false) (tx : τ) :
    u.keepTransaction tx = { u with transaction := some tx } := by
  rw [keepTransaction, hopen, if_neg Bool.false_ne_true]

theorem keepTransaction_of_disposed {u : UnitOfWork ρ τ} (hu : u.disposed = true) (tx : τ) :
    u.keepTransaction tx = u := by
  rw [keepTransaction, hu, if_pos rfl]

theorem Alike.departKeeping (h : u.Alike u') (tx : τ) (t : TaskId) (reply : Reply ρ τ)
    (events : List Event) : Turn.Aside u u' ((u.keepTransaction tx).depart t reply events)
      ((u'.keepTransaction tx).depart t reply events) := by
  cases hu : u.disposed with
  | true =>
    rw [keepTransaction_of_disposed hu, keepTransaction_of_disposed (h.disposed.trans hu)]
    exact h.depart t reply events
  | false =>
    rw [keepTransaction_of_open hu, keepTransaction_of_open (h.disposed.trans hu)]
    have hleft : UnitOfWork.Alike { u with transaction := some tx, gate := u.gate.leave t }
        { u' with transaction := some tx, gate := u'.gate.leave t } :=
      ⟨h.disposed, rfl, congrArg (·.leave t) h.gate⟩
    exact ⟨hleft, rfl, rfl, fun hopen => ⟨hopen, ⟨rfl, rfl⟩, rfl, rfl⟩⟩

theorem Alike.proceed (h : u.Alike u') (t : TaskId) (call : GateCall) :
    Turn.Aside u u' (u.proceed t call) (u'.proceed t call) := by
  have htake : ∀ (stage : Stage ρ τ) (events : List Event), stage.cell? = none →
      Turn.Aside u u' ⟨u.takeTransaction, stage, events⟩ ⟨u'.takeTransaction, stage, events⟩ :=
    fun _ events hstage => Alike.aside u u' h.takeTransaction rfl ⟨rfl, rfl⟩ ⟨rfl, rfl⟩ hstage events
  cases call with
  | close =>
    rw [UnitOfWork.proceed, UnitOfWork.proceed, h.transaction]
    cases u.transaction with
    | some tx => exact htake _ _ rfl
    | none => exact h.departDisposed t _
  | begin =>
    rw [UnitOfWork.proceed, UnitOfWork.proceed, h.disposed, h.transaction]
    split
    · exact h.depart t _ _
    · cases u.transaction with
      | some tx => exact h.depart t _ _
      | none => exact h.stays rfl
  | commit =>
    rw [UnitOfWork.proceed, UnitOfWork.proceed, h.disposed, h.transaction]
    split
    · exact h.depart t _ _
    · cases u.transaction with
      | some tx => exact htake _ _ rfl
      | none => exact h.stays rfl
  | rollback =>
    rw [UnitOfWork.proceed, UnitOfWork.proceed, h.disposed, h.transaction]
    split
    · exact h.depart t _ _
    · cases u.transaction with
      | some tx => exact htake _ _ rfl
      | none => exact h.depart t _ _

theorem Alike.approachGate (h : u.Alike u') (t : TaskId) (call : GateCall) :
    Turn.Aside u u' (u.approachGate t call) (u'.approachGate t call) := by
  rw [UnitOfWork.approachGate, UnitOfWork.approachGate, h.gate]
  split
  · exact h.proceed t call
  · exact h.stays rfl

/-- A call that is no request for a repository. -/
theorem Alike.start (h : u.Alike u') (catalog : Catalog) (t : TaskId) {call : UnitCall}
    (hcall : ∀ i, call ≠ .resolve i) :
    Turn.Aside u u' (u.start catalog t call) (u'.start catalog t call) := by
  cases call with
  | resolve i => exact absurd rfl (hcall i)
  | gated call =>
    show Turn.Aside u u' (u.startGated t call) (u'.startGated t call)
    rw [startGated, startGated]
    by_cases hshut : call = .close ∧ u.disposed
    · rw [if_pos hshut, if_pos ⟨hshut.1, h.disposed.trans hshut.2⟩]
      exact h.stays rfl
    · rw [if_neg hshut, if_neg fun hshut' => hshut ⟨hshut'.1, h.disposed.symm.trans hshut'.2⟩]
      -- the line at the gate is no concern of the cells
      have harrived : UnitOfWork.Alike { u with gate := u.gate.arrive t }
          { u' with gate := u'.gate.arrive t } :=
        ⟨h.disposed, h.transaction, congrArg (·.arrive t) h.gate⟩
      have hturn := harrived.approachGate t call
      exact ⟨hturn.alike, hturn.stage, hturn.cell, hturn.kept⟩
  | save =>
    show Turn.Aside u u' u.startSave u'.startSave
    rw [startSave, startSave, h.disposed]
    split <;> exact h.stays rfl
  | dispose =>
    have hleft := h.departDisposed t (.ok .done)
    refine ⟨⟨hleft.alike.disposed, hleft.alike.transaction, ?_⟩, rfl, rfl, fun hopen => ?_⟩
    · show u'.dispose.1.gate = u.dispose.1.gate
      rw [dispose, dispose, h.disposed]
      split <;> exact h.gate
    · have hdisposed : u.dispose.1.disposed = false := hopen
      rw [dispose_disposed] at hdisposed
      cases hdisposed

theorem Alike.wake (h : u.Alike u') (t : TaskId) {stage : Stage ρ τ} (hstage : stage.cell? = none) :
    Turn.Aside u u' (u.wake t stage) (u'.wake t stage) := by
  cases stage with
  | queued call => exact h.approachGate t call
  | waiting c => cases hstage
  | _ => exact h.stays hstage

theorem Alike.answer (h : u.Alike u') (t : TaskId) {stage : Stage ρ τ}
    (hstage : stage.cell? = none) (a : Answer ρ τ) :
    Turn.Aside u u' (u.answer t stage a) (u'.answer t stage a) := by
  cases stage with
  | constructing c => cases hstage
  | waiting c => cases hstage
  | beginning =>
    cases a with
    | begun result =>
      cases result with
      | error e => exact h.depart t _ _
      | ok tx =>
        show Turn.Aside u u' (u.endBegin t (.ok tx)) (u'.endBegin t (.ok tx))
        rw [endBegin, endBegin, h.disposed]
        split
        · exact Alike.aside u u' h rfl ⟨rfl, rfl⟩ ⟨rfl, rfl⟩ rfl _
        · exact h.departKeeping tx t _ _
    | _ => exact h.stays hstage
  | undoing tx =>
    cases a with
    | ended result => cases result <;> exact h.depart t _ _
    | _ => exact h.stays hstage
  | committing tx =>
    cases a with
    | ended result =>
      cases result with
      | error e => exact h.departKeeping tx t _ _
      | ok _ => exact h.depart t _ _
    | _ => exact h.stays hstage
  | savingPending =>
    cases a with
    | saved result => cases result <;> exact h.depart t _ _
    | _ => exact h.stays hstage
  | rollingBack tx =>
    cases a with
    | ended result => cases result <;> exact h.depart t _ _
    | _ => exact h.stays hstage
  | closing tx =>
    cases a with
    | ended result => cases result <;> exact h.departDisposed t _
    | _ => exact h.stays hstage
  | saving =>
    cases a with
    | saved result => cases result <;> exact h.stays rfl
    | _ => exact h.stays hstage
  | queued call => exact h.stays hstage
  | finished reply => exact h.stays hstage

end UnitOfWork

/-! ## moves at the cells -/

namespace Cell

/-- The task goes to the end of the line, unless the repository is there. -/
def queue (t : TaskId) (cell : Cell ρ) : Cell ρ :=
  if cell.value.isSome then cell else { cell with gate := cell.gate.arrive t }

def release (t : TaskId) (cell : Cell ρ) : Cell ρ := { cell with gate := cell.gate.leave t }

/-- The repository is there, so nobody has to wait any more. -/
def fill (r : ρ) (cell : Cell ρ) : Cell ρ := { cell with gate := {}, value := some r }

theorem info_queue (t : TaskId) (cell : Cell ρ) : (cell.queue t).info = cell.info := by
  rw [queue]
  split <;> rfl

theorem value_queue (t : TaskId) (cell : Cell ρ) : (cell.queue t).value = cell.value := by
  rw [queue]
  split <;> rfl

theorem queue_of_none {cell : Cell ρ} (h : cell.value = none) (t : TaskId) :
    cell.queue t = { cell with gate := cell.gate.arrive t } := by
  rw [queue, h, Option.isSome_none, if_neg Bool.false_ne_true]

theorem queue_of_some {cell : Cell ρ} {r : ρ} (h : cell.value = some r) (t : TaskId) :
    cell.queue t = cell := by
  rw [queue, h, Option.isSome_some, if_pos rfl]

end Cell

namespace Scene

/-- the cell that a task stands at -/
def place? (s : Scene ρ τ) (t : TaskId) : Option CellId := (s.tasks t).bind Stage.cell?

/-- A task at the end of the line of a cell. -/
def queued (s : Scene ρ τ) (t : TaskId) (c : CellId) : Scene ρ τ :=
  ⟨s.unit.modifyCell c (·.queue t), replace s.tasks t (some (.waiting c))⟩

/-- The repository that a signal brings, with its variant. -/
def construction? (s : Scene ρ τ) : Signal ρ τ → Option (RepositoryInfo × ρ)
  | .answer t (.constructed (.ok r)) => match s.request? t with
    | some (.construct info) => some (info, r)
    | _ => none
  | _ => none

/-- One thing that happens at the cells by a signal, with the repositories that it brings. -/
inductive Move (catalog : Catalog) (s : Scene ρ τ) :
    Signal ρ τ → List (RepositoryInfo × ρ) → Scene ρ τ → Prop
  /-- a new cell, for a request that no cell in use can serve -/
  | opened {t i info} (hfree : s.tasks t = none) (hinfo : UnitOfWork.variant catalog i = .ok info)
      (hunserved : s.unit.Unserved info) :
      Move catalog s (.start t (.resolve i)) [] ⟨(s.unit.openCell info).1, s.tasks⟩
  | joined {t i info c cell} (hfree : s.tasks t = none)
      (hinfo : UnitOfWork.variant catalog i = .ok info)
      (hentry : s.unit.entry? info.entity = some c) (hcell : s.unit.cell? c = some cell)
      (hserves : cell.info.access.satisfies info.access = true) :
      Move catalog s (.start t (.resolve i)) [] (s.queued t c)
  | entered {g t c cell} (ht : s.tasks t = some (.waiting c)) (hcell : s.unit.cell? c = some cell)
      (hvalue : cell.value = none) (hlets : cell.gate.lets t = true) :
      Move catalog s g [] ⟨s.unit, replace s.tasks t (some (.constructing c))⟩
  | given {g t c cell r} (ht : s.tasks t = some (.waiting c)) (hcell : s.unit.cell? c = some cell)
      (hvalue : cell.value = some r) :
      Move catalog s g [] ⟨s.unit, replace s.tasks t (some (.finished (.ok (.repository r))))⟩
  | built {t c cell r} (ht : s.tasks t = some (.constructing c))
      (hcell : s.unit.cell? c = some cell) :
      Move catalog s (.answer t (.constructed (.ok r))) [(cell.info, r)]
        ⟨s.unit.modifyCell c (·.fill r),
          replace s.tasks t (some (.finished (.ok (.repository r))))⟩
  | failed {t c e} (ht : s.tasks t = some (.constructing c)) :
      Move catalog s (.answer t (.constructed (.error e))) []
        ⟨s.unit.modifyCell c (·.release t), replace s.tasks t (some (.finished (.error e)))⟩
  | left {t c} (hplace : s.place? t = some c) :
      Move catalog s (.abandon t) []
        ⟨s.unit.modifyCell c (·.release t), replace s.tasks t none⟩
  /-- a task dropped that stands at no cell -/
  | dropped {t u} (hplace : s.place? t = none) (hentries : u.entries = s.unit.entries)
      (hcells : u.cells = s.unit.cells) :
      Move catalog s (.abandon t) [] ⟨u, replace s.tasks t none⟩
  /-- a turn of a task that has no business with cells, or none any more -/
  | aside {g t stage u} (hother : ∀ old, s.tasks t = some old → old.isOfCell = false)
      (hstage : stage.cell? = none) (hentries : u.entries = s.unit.entries)
      (hcells : u.cells = s.unit.cells) :
      Move catalog s g [] ⟨u, replace s.tasks t (some stage)⟩

/-- What a signal comes to: at most one move, or several if it is a request. -/
inductive Moves (catalog : Catalog) (g : Signal ρ τ) :
    Scene ρ τ → List (RepositoryInfo × ρ) → Scene ρ τ → Prop
  | none {s} : Moves catalog g s [] s
  | one {s made s'} (only : Move catalog s g made s') : Moves catalog g s made s'
  | more {s s' s''} (hg : ∃ t i, g = .start t (.resolve i)) (first : Move catalog s g [] s')
      (rest : Moves catalog g s' [] s'') : Moves catalog g s [] s''

/-- Entries and tasks point to cells that are there. -/
structure Grounded (s : Scene ρ τ) : Prop where
  entry : ∀ {e c}, s.unit.entry? e = some c → ∃ cell, s.unit.cell? c = some cell
  task : ∀ {t c}, s.place? t = some c → ∃ cell, s.unit.cell? c = some cell

variable {s s' : Scene ρ τ} {catalog : Catalog} {g : Signal ρ τ} {t : TaskId} {c : CellId}
  {cell : Cell ρ} {stage : Stage ρ τ}

theorem place?_of_task (h : s.tasks t = some stage) : s.place? t = stage.cell? := by
  rw [place?, h]
  rfl

/-! ## the moves of a signal -/

theorem afterTurn_self (h : s.tasks t = some stage) (events : List Event) :
    (s.afterTurn t ⟨s.unit, stage, events⟩).1 = s := by
  show (⟨s.unit, replace s.tasks t (some stage)⟩ : Scene ρ τ) = s
  rw [← h, replace_self]

theorem moves_aside {turn turn' : Turn ρ τ} (h : turn.Aside s.unit s.unit turn')
    (hother : ∀ old, s.tasks t = some old → old.isOfCell = false)
    (hopen : turn.unit.disposed = false) :
    Moves catalog g s [] (s.afterTurn t turn).1 := by
  obtain ⟨-, ⟨hentries, hcells⟩, -⟩ := h.kept hopen
  exact .one (.aside hother h.cell hentries hcells)

theorem step_wake_filled {r : ρ} (ht : s.tasks t = some (.waiting c))
    (hcell : s.unit.cell? c = some cell) (hvalue : cell.value = some r)
    (hopen : s.unit.disposed = false) :
    (s.step catalog (.wake t)).1 =
      ⟨s.unit, replace s.tasks t (some (.finished (.ok (.repository r))))⟩ := by
  rw [step_wake ht]
  show (s.afterTurn t (s.unit.approach t c [])).1 = _
  rw [UnitOfWork.approach, hcell]
  dsimp only
  rw [hvalue]
  dsimp only
  rw [UnitOfWork.give, hopen, if_neg Bool.false_ne_true]
  rfl

theorem step_wake_let (ht : s.tasks t = some (.waiting c)) (hcell : s.unit.cell? c = some cell)
    (hvalue : cell.value = none) (hlets : cell.gate.lets t = true) :
    (s.step catalog (.wake t)).1 = ⟨s.unit, replace s.tasks t (some (.constructing c))⟩ := by
  rw [step_wake ht]
  show (s.afterTurn t (s.unit.approach t c [])).1 = _
  rw [UnitOfWork.approach, hcell]
  dsimp only
  rw [hvalue, hlets]
  rfl

/-- It goes on waiting. -/
theorem step_wake_held (ht : s.tasks t = some (.waiting c)) (hcell : s.unit.cell? c = some cell)
    (hvalue : cell.value = none) (hlets : cell.gate.lets t = false) :
    (s.step catalog (.wake t)).1 = s := by
  rw [step_wake ht]
  show (s.afterTurn t (s.unit.approach t c [])).1 = _
  rw [UnitOfWork.approach, hcell]
  dsimp only
  rw [hvalue, hlets]
  exact afterTurn_self ht []

theorem moves_wake_waiting (ht : s.tasks t = some (.waiting c))
    (hcell : s.unit.cell? c = some cell) (hopen : s.unit.disposed = false) :
    Moves catalog g s [] (s.step catalog (.wake t)).1 := by
  cases hvalue : cell.value with
  | some r =>
    rw [step_wake_filled ht hcell hvalue hopen]
    exact .one (.given ht hcell hvalue)
  | none =>
    cases hlets : cell.gate.lets t with
    | true =>
      rw [step_wake_let ht hcell hvalue hlets]
      exact .one (.entered ht hcell hvalue hlets)
    | false =>
      rw [step_wake_held ht hcell hvalue hlets]
      exact .none

/-- The events of a turn are no concern of the scene. -/
theorem afterTurn_approach (s : Scene ρ τ) (u : UnitOfWork ρ τ) (t : TaskId) (c : CellId)
    (events : List Event) :
    (s.afterTurn t (u.approach t c events)).1 = (s.afterTurn t (u.approach t c [])).1 := by
  rw [UnitOfWork.approach, UnitOfWork.approach]
  cases u.cell? c with
  | none => rfl
  | some cell =>
    dsimp only
    cases cell.value with
    | none => rfl
    | some r =>
      dsimp only
      rw [UnitOfWork.give, UnitOfWork.give]
      split <;> rfl

/-- A request gets its cell and its place in the line, and goes on like a task that waits there. -/
theorem step_resolve {i : Interface} {info : RepositoryInfo} {u : UnitOfWork ρ τ}
    {events : List Event} (hfree : s.tasks t = none) (hopen : s.unit.disposed = false)
    (hinfo : UnitOfWork.variant catalog i = .ok info)
    (hcell : s.unit.cellFor info = (u, c, events)) :
    (s.step catalog (.start t (.resolve i))).1 =
      ((queued ⟨u, s.tasks⟩ t c).step catalog (.wake t)).1 := by
  have hvariant : s.unit.resolveInfo catalog i = .ok info :=
    (UnitOfWork.resolveInfo_eq_variant hopen catalog i).trans hinfo
  have hwaits : (queued ⟨u, s.tasks⟩ t c).tasks t = some (.waiting c) := replace_same ..
  rw [step_start hfree, step_wake hwaits]
  show (s.afterTurn t (s.unit.startResolve catalog t i)).1 = _
  rw [UnitOfWork.startResolve, hvariant]
  dsimp only
  rw [hcell, afterTurn_approach]
  show (⟨_, _⟩ : Scene ρ τ) = ⟨_, replace (replace s.tasks t _) t _⟩
  rw [replace_replace]
  rfl

theorem step_resolve_refused {i : Interface} {e : RepoError} (hfree : s.tasks t = none)
    (hopen : s.unit.disposed = false) (hinfo : UnitOfWork.variant catalog i = .error e) :
    (s.step catalog (.start t (.resolve i))).1 =
      ⟨s.unit, replace s.tasks t (some (.finished (.error e)))⟩ := by
  have hresolve : s.unit.resolveInfo catalog i = .error e :=
    (UnitOfWork.resolveInfo_eq_variant hopen catalog i).trans hinfo
  rw [step_start hfree, UnitOfWork.start, UnitOfWork.startResolve, hresolve]
  rfl

/-- The cell that a request for a variant is given: the one in use, or a new one. -/
structure Given (s : Scene ρ τ) (info : RepositoryInfo) (u : UnitOfWork ρ τ) (c : CellId)
    (cell : Cell ρ) : Prop where
  entry : u.entry? info.entity = some c
  there : u.cell? c = some cell
  serves : cell.info.access.satisfies info.access = true
  fresh : u = s.unit ∨ s.unit.Unserved info ∧ u = (s.unit.openCell info).1 ∧ cell = { info }

section
variable {i : Interface} {info : RepositoryInfo} {u : UnitOfWork ρ τ}

theorem Grounded.given (h : s.Grounded) (hfree : s.tasks t = none)
    (hopen : s.unit.disposed = false) (hinfo : UnitOfWork.variant catalog i = .ok info) :
    ∃ u c cell, s.Given info u c cell ∧ (s.step catalog (.start t (.resolve i))).1 =
      ((queued ⟨u, s.tasks⟩ t c).step catalog (.wake t)).1 := by
  have hcurrent : ∀ c, s.unit.entry? info.entity = some c →
      ∃ other, s.unit.info? c = some other := by
    intro c hc
    obtain ⟨cell, hcell⟩ := h.entry hc
    exact ⟨cell.info, UnitOfWork.info?_of_cell hcell⟩
  rcases s.unit.cellFor_cases info hcurrent with
    ⟨c, other, hentry, hother, hserves, hcell⟩ | ⟨hunserved, events, hcell⟩
  · obtain ⟨cell, hc, rfl⟩ := Option.map_eq_some_iff.mp hother
    exact ⟨_, c, cell, ⟨hentry, hc, hserves, .inl rfl⟩, step_resolve hfree hopen hinfo hcell⟩
  · have hentry := s.unit.entry?_openCell info info.entity
    rw [if_pos rfl] at hentry
    have hnew := s.unit.cell?_openCell info s.unit.cells.length
    rw [if_pos rfl] at hnew
    exact ⟨_, _, _, ⟨hentry, hnew, info.access.satisfies_self, .inr ⟨hunserved, rfl, rfl⟩⟩,
      step_resolve hfree hopen hinfo hcell⟩

theorem Given.disposed (h : s.Given info u c cell) : u.disposed = s.unit.disposed := by
  rcases h.fresh with rfl | ⟨-, rfl, -⟩ <;> rfl

/-- The cell is opened, unless it has been in use. -/
theorem Given.opened (h : s.Given info u c cell) (hfree : s.tasks t = none)
    (hinfo : UnitOfWork.variant catalog i = .ok info) :
    u = s.unit ∨ Move catalog s (.start t (.resolve i)) [] ⟨u, s.tasks⟩ := by
  rcases h.fresh with hu | ⟨hunserved, rfl, -⟩
  · exact .inl hu
  · exact .inr (.opened hfree hinfo hunserved)

theorem Given.joined (h : s.Given info u c cell) (hfree : s.tasks t = none)
    (hinfo : UnitOfWork.variant catalog i = .ok info) :
    Move catalog ⟨u, s.tasks⟩ (.start t (.resolve i)) [] (queued ⟨u, s.tasks⟩ t c) :=
  .joined hfree hinfo h.entry h.there h.serves

end

theorem cell?_queued (hc : s.unit.cell? c = some cell) (t : TaskId) :
    (s.queued t c).unit.cell? c = some (cell.queue t) := by
  show (s.unit.modifyCell c _).cell? c = _
  rw [UnitOfWork.cell?_modifyCell, if_pos rfl, hc]
  rfl

theorem cell?_queued_other (s : Scene ρ τ) (t : TaskId) {d : CellId} (h : d ≠ c) :
    (s.queued t c).unit.cell? d = s.unit.cell? d := by
  show (s.unit.modifyCell c _).cell? d = _
  rw [UnitOfWork.cell?_modifyCell, if_neg h]

theorem Grounded.moves_resolve (h : s.Grounded) {i : Interface} (hfree : s.tasks t = none)
    (hopen : s.unit.disposed = false) :
    Moves catalog (.start t (.resolve i)) s [] (s.step catalog (.start t (.resolve i))).1 := by
  cases hinfo : UnitOfWork.variant catalog i with
  | error e =>
    rw [step_resolve_refused hfree hopen hinfo]
    refine .one (.aside (fun old hold => ?_) rfl rfl rfl)
    rw [hfree] at hold
    cases hold
  | ok info =>
    obtain ⟨u, c, cell, hgiven, hstep⟩ := h.given hfree hopen hinfo
    have hjoined : Moves catalog (.start t (.resolve i)) ⟨u, s.tasks⟩ []
        ((queued ⟨u, s.tasks⟩ t c).step catalog (.wake t)).1 :=
      .more ⟨t, i, rfl⟩ (hgiven.joined hfree hinfo) (moves_wake_waiting (replace_same ..)
        (cell?_queued hgiven.there t) (hgiven.disposed.trans hopen))
    rw [hstep]
    rcases hgiven.opened hfree hinfo with rfl | hopened
    · exact hjoined
    · exact .more ⟨t, i, rfl⟩ hopened hjoined

theorem moves_still (g : Signal ρ τ) (ht : s.tasks t = some stage) (events : List Event) :
    Moves catalog g s [] (s.afterTurn t ⟨s.unit, stage, events⟩).1 := by
  rw [afterTurn_self ht]
  exact .none

theorem Grounded.moves_wake (h : s.Grounded) (ht : s.tasks t = some stage)
    (hopen : (s.step catalog (.wake t)).1.unit.disposed = false) :
    Moves catalog (.wake t) s [] (s.step catalog (.wake t)).1 := by
  by_cases hcell : stage.isOfCell = true
  · cases stage with
    | waiting c =>
      obtain ⟨cell, hc⟩ := h.task (place?_of_task ht)
      have hconstructs := UnitOfWork.approach_constructs s.unit t c []
      rw [step_wake ht] at hopen
      exact moves_wake_waiting ht hc (hconstructs.alike.disposed.symm.trans hopen)
    | constructing c =>
      rw [step_wake ht]
      exact moves_still _ ht []
    | finished reply =>
      rw [step_wake ht]
      exact moves_still _ ht []
    | _ => cases hcell
  · have hnone := Stage.cell?_eq_none hcell
    rw [step_wake ht] at hopen ⊢
    refine moves_aside ((UnitOfWork.Alike.refl s.unit).wake t hnone) (fun old hold => ?_) hopen
    rw [ht] at hold
    cases hold
    exact Bool.eq_false_iff.mpr hcell

/-- Only a task that constructs brings a repository. -/
theorem construction?_of_idle (h : ∀ c, s.tasks t ≠ some (.constructing c)) (a : Answer ρ τ) :
    s.construction? (.answer t a) = none := by
  have hrequest : ∀ info, s.request? t ≠ some (.construct info) := by
    intro info hinfo
    obtain ⟨stage, hstage, hrequest⟩ := Option.bind_eq_some_iff.mp hinfo
    cases stage with
    | constructing c => exact h c hstage
    | _ => cases hrequest
  cases a with
  | constructed result =>
    cases result with
    | error e => rfl
    | ok r =>
      rw [construction?]
      split
      · exact absurd ‹_› (hrequest _)
      · rfl
  | _ => rfl

theorem Grounded.moves_answer (h : s.Grounded) (ht : s.tasks t = some stage) (a : Answer ρ τ)
    (hopen : (s.step catalog (.answer t a)).1.unit.disposed = false) :
    Moves catalog (.answer t a) s (s.construction? (.answer t a)).toList
      (s.step catalog (.answer t a)).1 := by
  by_cases hconstructs : ∃ c, stage = .constructing c
  · obtain ⟨c, rfl⟩ := hconstructs
    obtain ⟨cell, hcell⟩ := h.task (place?_of_task ht)
    rw [step_answer ht] at hopen ⊢
    cases a with
    | constructed result =>
      cases result with
      | error e => exact .one (.failed ht)
      | ok r =>
        have hbrings : s.construction? (.answer t (.constructed (.ok r))) = some (cell.info, r) := by
          rw [construction?, request?_of_stage ht, UnitOfWork.request?, hcell]
          rfl
        have hsame := (UnitOfWork.endConstruction_constructs s.unit t c (.ok r)).alike.disposed
        have hfilled : (s.unit.modifyCell c (·.fill r)).disposed = false := hsame.symm.trans hopen
        rw [hbrings]
        show Moves _ _ s _ (s.afterTurn t ((s.unit.modifyCell c (·.fill r)).give r _)).1
        rw [UnitOfWork.give, hfilled, if_neg Bool.false_ne_true]
        exact .one (.built ht hcell)
    | _ => exact moves_still _ ht []
  · have hidle : ∀ c, s.tasks t ≠ some (.constructing c) := by
      intro c hc
      rw [ht] at hc
      exact hconstructs ⟨c, Option.some.inj hc⟩
    rw [construction?_of_idle hidle, step_answer ht]
    rw [step_answer ht] at hopen
    by_cases hcell : stage.isOfCell = true
    · cases stage with
      | waiting c => exact moves_still _ ht []
      | constructing c => exact absurd ⟨c, rfl⟩ hconstructs
      | finished reply => exact moves_still _ ht []
      | _ => cases hcell
    · have hnone := Stage.cell?_eq_none hcell
      refine moves_aside ((UnitOfWork.Alike.refl s.unit).answer t hnone a) (fun old hold => ?_) hopen
      rw [ht] at hold
      cases hold
      exact Bool.eq_false_iff.mpr hcell

theorem moves_abandon (ht : s.tasks t = some stage) :
    Moves catalog (.abandon t) s [] (s.step catalog (.abandon t)).1 := by
  have hplace := place?_of_task ht
  rw [step, ht]
  cases stage with
  | waiting c | constructing c => exact .one (.left hplace)
  | _ => exact .one (.dropped (u := s.unit.abandon t _) hplace rfl rfl)

/-- **Every signal** comes down to moves at the cells, as long as the unit is open. -/
theorem Grounded.moves (h : s.Grounded) (g : Signal ρ τ)
    (hopen : (s.step catalog g).1.unit.disposed = false) :
    Moves catalog g s (s.construction? g).toList (s.step catalog g).1 := by
  cases g with
  | start t call =>
    cases ht : s.tasks t with
    | some stage =>
      rw [step, ht]
      exact .none
    | none =>
      by_cases hcall : ∃ i, call = .resolve i
      · obtain ⟨i, rfl⟩ := hcall
        have hsame := (UnitOfWork.startResolve_constructs s.unit catalog t i).alike.disposed
        rw [step_start ht] at hopen
        exact h.moves_resolve ht (hsame.symm.trans hopen)
      · rw [step_start ht] at hopen ⊢
        refine moves_aside ((UnitOfWork.Alike.refl s.unit).start catalog t fun i hi => hcall ⟨i, hi⟩)
          (fun old hold => ?_) hopen
        rw [ht] at hold
        cases hold
  | wake t =>
    cases ht : s.tasks t with
    | none =>
      rw [step, ht]
      exact .none
    | some stage => exact h.moves_wake ht hopen
  | answer t a =>
    cases ht : s.tasks t with
    | none =>
      have hidle : ∀ c, s.tasks t ≠ some (.constructing c) := fun c hc => by
        rw [ht] at hc
        cases hc
      rw [construction?_of_idle hidle, step, ht]
      exact .none
    | some stage => exact h.moves_answer ht a hopen
  | abandon t =>
    cases ht : s.tasks t with
    | none =>
      rw [step, ht]
      exact .none
    | some stage => exact moves_abandon ht

/-- A unit that is open has always been. -/
theorem open_of_step (g : Signal ρ τ) (hopen : (s.step catalog g).1.unit.disposed = false) :
    s.unit.disposed = false := by
  have hself := UnitOfWork.Alike.refl s.unit
  have hcell : ∀ {t} {turn : Turn ρ τ}, turn.Constructs s.unit →
      (s.afterTurn t turn).1.unit.disposed = false → s.unit.disposed = false :=
    fun hconstructs h => hconstructs.alike.disposed.symm.trans h
  have haside : ∀ {t} {turn : Turn ρ τ}, turn.Aside s.unit s.unit turn →
      (s.afterTurn t turn).1.unit.disposed = false → s.unit.disposed = false :=
    fun hside h => (hside.kept h).1
  cases g with
  | start t call =>
    cases ht : s.tasks t with
    | some stage =>
      rw [step, ht] at hopen
      exact hopen
    | none =>
      rw [step_start ht] at hopen
      by_cases hcall : ∃ i, call = .resolve i
      · obtain ⟨i, rfl⟩ := hcall
        exact hcell (UnitOfWork.startResolve_constructs s.unit catalog t i) hopen
      · exact haside (hself.start catalog t fun i hi => hcall ⟨i, hi⟩) hopen
  | wake t =>
    cases ht : s.tasks t with
    | none =>
      rw [step, ht] at hopen
      exact hopen
    | some stage =>
      rw [step_wake ht] at hopen
      by_cases hstage : stage.isOfCell = true
      · exact hcell (UnitOfWork.wake_constructs hstage s.unit t) hopen
      · exact haside (hself.wake t (Stage.cell?_eq_none hstage)) hopen
  | answer t a =>
    cases ht : s.tasks t with
    | none =>
      rw [step, ht] at hopen
      exact hopen
    | some stage =>
      rw [step_answer ht] at hopen
      by_cases hstage : stage.isOfCell = true
      · exact hcell (UnitOfWork.answer_constructs hstage s.unit t a) hopen
      · exact haside (hself.answer t (Stage.cell?_eq_none hstage) a) hopen
  | abandon t =>
    cases ht : s.tasks t with
    | none =>
      rw [step, ht] at hopen
      exact hopen
    | some stage =>
      rw [step, ht] at hopen
      cases stage <;> exact hopen

end Scene

end RowSpec
