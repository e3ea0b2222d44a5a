import RowSpec.Proofs.Workspace.Effect

/-!
# Requests for repositories

A request may take many turns, but none of them concerns the transaction of the unit, its session
or the rows.

* `UnitOfWork.Alike`        the units have the same transaction and stand alike at the gate;
* `Turn.Constructs`         a turn that concerns cells only;
* `Workspace.Resolving`     how things stand while a request is at work;
* `serves_resolve`          a request for a repository, seen as one call;
* `call_effect`             so every call has one of the effects.
-/

namespace RowSpec

/-! ## turns -/

structure UnitOfWork.Alike {ρ τ : Type} (u u' : UnitOfWork ρ τ) : Prop where
  disposed : u'.disposed = u.disposed
  transaction : u'.transaction = u.transaction
  gate : u'.gate = u.gate

/-- stages of a request for a repository -/
def Stage.isOfCell {ρ τ : Type} : Stage ρ τ → Bool
  | .waiting _ | .constructing _ | .finished _ => true
  | _ => false

structure Turn.Constructs {ρ τ : Type} (turn : Turn ρ τ) (u : UnitOfWork ρ τ) : Prop where
  alike : u.Alike turn.unit
  stage : turn.stage.isOfCell

namespace UnitOfWork

variable {ρ τ : Type} {u u' : UnitOfWork ρ τ}

theorem Alike.refl (u : UnitOfWork ρ τ) : u.Alike u := ⟨rfl, rfl, rfl⟩

theorem Alike.trans {u'' : UnitOfWork ρ τ} (h : u.Alike u') (h' : u'.Alike u'') : u.Alike u'' :=
  ⟨h'.disposed.trans h.disposed, h'.transaction.trans h.transaction, h'.gate.trans h.gate⟩

theorem give_constructs (u : UnitOfWork ρ τ) (r : ρ) (events : List Event) :
    (u.give r events).Constructs u := by
  rw [give]
  split <;> exact ⟨⟨rfl, rfl, rfl⟩, rfl⟩

theorem approach_constructs (u : UnitOfWork ρ τ) (t : TaskId) (c : CellId) (events : List Event) :
    (u.approach t c events).Constructs u := by
  rw [approach]
  cases u.cell? c with
  | none => exact ⟨.refl u, rfl⟩
  | some cell =>
    dsimp only
    split
    · exact give_constructs u _ events
    · refine ⟨.refl u, ?_⟩
      dsimp only
      split <;> rfl

theorem cellFor_alike (u : UnitOfWork ρ τ) (info : RepositoryInfo) :
    u.Alike (u.cellFor info).1 := by
  rw [cellFor]
  split
  · exact ⟨rfl, rfl, rfl⟩
  · split
    · split
      · exact .refl u
      · exact ⟨rfl, rfl, rfl⟩
    · exact .refl u

theorem startResolve_constructs (u : UnitOfWork ρ τ) (catalog : Catalog) (t : TaskId)
    (i : Interface) : (u.startResolve catalog t i).Constructs u := by
  rw [startResolve]
  cases u.resolveInfo catalog i with
  | error e => exact ⟨.refl u, rfl⟩
  | ok info =>
    have h := approach_constructs ((u.cellFor info).1.modifyCell (u.cellFor info).2.1 fun cell =>
      if cell.value.isSome then cell else { cell with gate := cell.gate.arrive t }) t
      (u.cellFor info).2.1 (substitution i info ++ (u.cellFor info).2.2)
    exact ⟨(cellFor_alike u info).trans ⟨h.alike.disposed, h.alike.transaction, h.alike.gate⟩,
      h.stage⟩

theorem endConstruction_constructs (u : UnitOfWork ρ τ) (t : TaskId) (c : CellId)
    (result : Except RepoError ρ) : (u.endConstruction t c result).Constructs u := by
  cases result with
  | error e => exact ⟨⟨rfl, rfl, rfl⟩, rfl⟩
  | ok r =>
    have h := give_constructs (u.modifyCell c fun cell => { cell with gate := {}, value := some r })
      r [.constructed]
    exact ⟨⟨h.alike.disposed, h.alike.transaction, h.alike.gate⟩, h.stage⟩

theorem wake_constructs {stage : Stage ρ τ} (hs : stage.isOfCell) (u : UnitOfWork ρ τ)
    (t : TaskId) : (u.wake t stage).Constructs u := by
  cases stage with
  | waiting c => exact approach_constructs u t c []
  | constructing c => exact ⟨.refl u, rfl⟩
  | finished reply => exact ⟨.refl u, rfl⟩
  | _ => cases hs

theorem answer_constructs {stage : Stage ρ τ} (hs : stage.isOfCell) (u : UnitOfWork ρ τ)
    (t : TaskId) (a : Answer ρ τ) : (u.answer t stage a).Constructs u := by
  cases stage with
  | waiting c => exact ⟨.refl u, rfl⟩
  | constructing c =>
    cases a with
    | constructed result => exact endConstruction_constructs u t c result
    | _ => exact ⟨.refl u, rfl⟩
  | finished reply => exact ⟨.refl u, rfl⟩
  | _ => cases hs

end UnitOfWork

/-! ## schedules -/

/-- The unit `u₀` with its next task on the way to a repository. -/
structure HostedUnit.Resolves (u₀ u : HostedUnit) : Prop where
  session : u.session = u₀.session
  nextTask : u.nextTask = u₀.nextTask + 1
  alike : u₀.unit.Alike u.unit
  tasks : ∀ t, t ≠ u₀.nextTask → u.scene.tasks t = u₀.scene.tasks t
  stage : ∃ stage, u.scene.tasks u₀.nextTask = some stage ∧ stage.isOfCell

/-- Everything but the unit's cells is as it was in `ws₀`. -/
structure Workspace.Resolving {ε : Type} (ws₀ : Workspace ε) (i : UnitId) (u₀ : HostedUnit)
    (ws : Workspace ε) : Prop where
  storage : ws.storage = ws₀.storage
  unit : ∃ u, ws.units = replace ws₀.units i (some u) ∧ u₀.Resolves u

namespace Workspace

variable {ε : Type} {ws₀ ws ws' : Workspace ε} {i : UnitId} {u₀ u : HostedUnit}

theorem Resolving.setUnit (hstorage : ws.storage = ws₀.storage)
    (hunits : ws.units = replace ws₀.units i (some u)) {v : HostedUnit} (hv : u₀.Resolves v) :
    ws₀.Resolving i u₀ (ws.setUnit i (some v)) := by
  refine ⟨hstorage, v, ?_, hv⟩
  rw [Workspace.setUnit, hunits, replace_replace]

theorem Resolving.signal (hstorage : ws.storage = ws₀.storage)
    (hunits : ws.units = replace ws₀.units i (some u)) (hu : u₀.Resolves u)
    {g : Signal Repository Transaction} {turn : Turn Repository Transaction}
    (hg : g.task = u₀.nextTask)
    (hstep : u.scene.step ws.catalog g = u.scene.afterTurn u₀.nextTask turn)
    (ht : turn.Constructs u.unit) : ws₀.Resolving i u₀ (ws.signal i u g).1 := by
  rw [signal_of_step hg hstep]
  refine .setUnit hstorage hunits ⟨hu.session, hu.nextTask, hu.alike.trans ht.alike, ?_, ?_⟩
  · intro t hne
    exact (replace_other _ _ hne).trans (hu.tasks t hne)
  · exact ⟨turn.stage, replace_same .., ht.stage⟩

theorem construct_storage (ws : Workspace ε) (u : HostedUnit) (info : RepositoryInfo) :
    (ws.construct u info).1.storage = ws.storage ∧ (ws.construct u info).1.units = ws.units := by
  rw [construct]
  repeat' split
  all_goals exact ⟨rfl, rfl⟩

/-- A request for a repository asks for nothing but constructions. -/
theorem respond_of_cell {w : UnitOfWork Repository Transaction}
    {stage : Stage Repository Transaction} (hs : stage.isOfCell) {request : Request Transaction}
    (hr : w.request? stage = some request) (ws : Workspace ε) (u : HostedUnit)
    (cancelled : Bool) : (ws.respond u cancelled request).1.storage = ws.storage ∧
      (ws.respond u cancelled request).1.units = ws.units := by
  cases stage with
  | constructing c =>
    obtain ⟨cell, _, rfl⟩ := Option.map_eq_some_iff.mp hr
    exact construct_storage ws u cell.info
  | waiting c => cases hr
  | finished reply => cases hr
  | _ => cases hs

theorem Resolving.turn (h : ws₀.Resolving i u₀ ws) {events : List Event}
    (ht : ws.turn? i u₀.nextTask = some (ws', events)) : ws₀.Resolving i u₀ ws' := by
  obtain ⟨hstorage, u, hunits, hu⟩ := h
  obtain ⟨stage, hstage, hcell⟩ := hu.stage
  have hunit : ws.units i = some u := by rw [hunits, replace_same]
  have hrequest := Scene.request?_of_stage hstage
  simp only [turn?, hunit, Option.bind_eq_bind, Option.bind_some, hrequest] at ht
  cases hr : u.scene.unit.request? stage with
  | none =>
    rw [hr] at ht
    replace ht : (if u.scene.passes u₀.nextTask then
      some (ws.signal i u (.wake u₀.nextTask)) else none) = some (ws', events) := ht
    split at ht
    · obtain rfl : (ws.signal i u (.wake u₀.nextTask)).1 = ws' :=
        congrArg Prod.fst (Option.some.inj ht)
      exact .signal hstorage hunits hu rfl (Scene.step_wake hstage)
        (UnitOfWork.wake_constructs hcell _ _)
    · cases ht
  | some request =>
    rw [hr] at ht
    replace ht : (if u.patience u₀.nextTask = 0 then
      some ((ws.respond u (u.cancelled u₀.nextTask) request).1.signal i u
        (.answer u₀.nextTask (ws.respond u (u.cancelled u₀.nextTask) request).2)) else none) =
          some (ws', events) := ht
    have hframe := respond_of_cell hcell hr ws u (u.cancelled u₀.nextTask)
    split at ht
    · obtain rfl : (Workspace.signal _ i u (.answer u₀.nextTask _)).1 = ws' :=
        congrArg Prod.fst (Option.some.inj ht)
      exact .signal (hframe.1.trans hstorage) (hframe.2.trans hunits) hu rfl
        (Scene.step_answer hstage _) (UnitOfWork.answer_constructs hcell _ _ _)
    · cases ht

theorem Resolving.tick (h : ws₀.Resolving i u₀ ws) (t : TaskId) :
    ws₀.Resolving i u₀ (ws.tick i t) := by
  obtain ⟨hstorage, u, hunits, hu⟩ := h
  have hunit : ws.units i = some u := by rw [hunits, replace_same]
  rw [Workspace.tick, hunit]
  exact .setUnit hstorage hunits ⟨hu.session, hu.nextTask, hu.alike, hu.tasks, hu.stage⟩

theorem Resolving.turns (h : ws₀.Resolving i u₀ ws) (n : Nat) :
    ws₀.Resolving i u₀ (turns i u₀.nextTask n ws).1 := by
  induction n generalizing ws with
  | zero => exact h
  | succ n ih =>
    cases ht : ws.turn? i u₀.nextTask with
    | none =>
      rw [Workspace.turns, ht]
      exact h.tick u₀.nextTask
    | some r =>
      obtain ⟨ws', events⟩ := r
      rw [turns_succ ht]
      exact ih (h.turn ht)

theorem Resolving.rounds (h : ws₀.Resolving i u₀ ws) (n : Nat) :
    ws₀.Resolving i u₀ (rounds i [u₀.nextTask] n ws).1 := by
  induction n generalizing ws with
  | zero => exact h
  | succ n ih =>
    rw [Workspace.rounds]
    split
    · exact h
    · exact ih (h.turns 4)

theorem resolving_call (hu : ws₀.units i = some u₀) (hrest : u₀.AtRest) (request : Interface)
    (cancelled : Bool) : ws₀.Resolving i u₀ (ws₀.call i (.resolve request) cancelled).1 := by
  have hfresh := hrest.fresh u₀.nextTask (Nat.le_refl _)
  obtain ⟨patience, _, hl⟩ := launch_eq hu hfresh cancelled (.resolve request)
  have hstart := UnitOfWork.startResolve_constructs u₀.unit ws₀.catalog u₀.nextTask request
  have hfirst : ws₀.Resolving i u₀ (ws₀.running i u₀ cancelled
      (u₀.unit.startResolve ws₀.catalog u₀.nextTask request).unit
      (u₀.unit.startResolve ws₀.catalog u₀.nextTask request).stage patience) := by
    refine ⟨rfl, _, rfl, rfl, rfl, hstart.alike, ?_, _, atStage_tasks, hstart.stage⟩
    intro t hne
    exact replace_other _ _ hne
  have htasks : (List.range [(UnitCall.resolve request, cancelled)].length).map
      (u₀.nextTask + ·) = [u₀.nextTask] := rfl
  simp only [call, callAll, hu, Option.map_some, Option.getD_some, htasks, launchAll, hl]
  exact (hfirst.turns 4).rounds _

/-- **A request for a repository**, whatever comes of it. -/
theorem serves_resolve (hu : ws₀.units i = some u₀) (hrest : u₀.AtRest)
    (hl : (ws₀.storage.sessions u₀.session).remote = none) (request : Interface)
    (cancelled : Bool) : ∃ v, ws₀.Serves i u₀ v (.resolve request) cancelled := by
  obtain ⟨hstorage, v, hunits, hv⟩ := resolving_call hu hrest request cancelled
  refine ⟨v, hunits, hv.session, ⟨hv.alike.gate.trans hrest.gate, ?_, ?_⟩, ?_, ?_, ?_⟩
  · intro t ht
    rw [hv.nextTask] at ht
    rw [hv.tasks t (Nat.ne_of_gt ht)]
    exact hrest.fresh t (Nat.le_of_succ_le ht)
  · intro tx htx
    rw [hv.session]
    exact hrest.own tx (hv.alike.transaction ▸ htx)
  · intro s _
    rw [hstorage]
  · rw [hstorage]
    exact hl
  · refine .quiet (.resolved request _) ⟨hv.alike.disposed, hv.alike.transaction, ?_, ?_⟩
    · rw [standing, hstorage, hv.session]
      rfl
    · rw [standing, hstorage]
      rfl

/-- **Every call** on a unit at rest over a session in memory has one of the effects. -/
theorem call_effect (hu : ws₀.units i = some u₀) (hrest : u₀.AtRest)
    (hl : (ws₀.storage.sessions u₀.session).remote = none) (c : UnitCall) (cancelled : Bool) :
    ∃ v, ws₀.Serves i u₀ v c cancelled := by
  cases hd : u₀.unit.disposed with
  | true =>
    cases c with
    | resolve request => exact serves_resolve hu hrest hl request cancelled
    | gated call => exact serves_of_disposed hu hrest hl hd (fun _ h => by cases h) cancelled
    | save => exact serves_of_disposed hu hrest hl hd (fun _ h => by cases h) cancelled
    | dispose => exact serves_of_disposed hu hrest hl hd (fun _ h => by cases h) cancelled
  | false =>
    cases c with
    | resolve request => exact serves_resolve hu hrest hl request cancelled
    | save => exact serves_save hu hrest hl hd cancelled
    | dispose => exact serves_dispose hu hrest hl hd cancelled
    | gated call =>
      cases call with
      | begin => exact serves_begin hu hrest hl hd cancelled
      | commit => exact serves_commit hu hrest hl hd cancelled
      | rollback => exact serves_rollback hu hrest hl hd cancelled
      | close => exact serves_close hu hrest hl hd cancelled

end Workspace

end RowSpec
