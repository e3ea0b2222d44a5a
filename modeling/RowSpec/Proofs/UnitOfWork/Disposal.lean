import RowSpec.Proofs.UnitOfWork.Instances

/-!
# Disposal

A unit that has been disposed holds nothing, and what is still on its way when it is disposed is
not given out any more.

* `Stage.gives`             the task has been given a repository or a transaction;
* `UnitOfWork.Vacated`      if the unit is disposed, it holds nothing;
* `Turn.Final`              a turn that takes nothing into a disposed unit and gives nothing out;
* `Vacated.start`, `Vacated.wake`, `Vacated.answer`   every turn is one;
* `Scene.Final.step`, `Scene.Final.run`   so is every signal, and every run;
* `disposal_is_final`       all states after the disposal of a unit.
-/

namespace RowSpec

variable {ρ τ : Type}

/-- a repository or a transaction -/
def Product.isHandle : Product ρ τ → Bool
  | .repository _ | .transaction _ => true
  | .saved _ | .done => false

def Stage.gives : Stage ρ τ → Bool
  | .finished (.ok x) => x.isHandle
  | _ => false

def UnitOfWork.Vacated (u : UnitOfWork ρ τ) : Prop :=
  u.disposed = true → u.entries = [] ∧ u.transaction = none

/-- A turn of a task of the unit `u`. -/
structure Turn.Final (u : UnitOfWork ρ τ) (turn : Turn ρ τ) : Prop where
  vacated : turn.unit.Vacated
  stays : u.disposed = true → turn.unit.disposed = true
  withholds : u.disposed = true → turn.stage.gives = false

/-! ## turns -/

namespace UnitOfWork

variable {u w : UnitOfWork ρ τ} {turn : Turn ρ τ}

theorem vacated_of_open (h : u.disposed = false) : u.Vacated := fun hd => by
  rw [h] at hd
  cases hd

theorem final_of_open (hu : u.disposed = false) (hturn : turn.unit.disposed = false) :
    turn.Final u where
  vacated := vacated_of_open hturn
  stays hd := absurd (hu.symm.trans hd) Bool.false_ne_true
  withholds hd := absurd (hu.symm.trans hd) Bool.false_ne_true

theorem Vacated.congr (h : u.Vacated) (hd : w.disposed = u.disposed) (he : w.entries = u.entries)
    (ht : w.transaction = u.transaction) : w.Vacated := by
  unfold Vacated
  rw [hd, he, ht]
  exact h

theorem Vacated.takeTransaction (h : u.Vacated) : u.takeTransaction.Vacated :=
  fun hd => ⟨(h hd).1, rfl⟩

theorem Vacated.keepTransaction (h : u.Vacated) (tx : τ) : (u.keepTransaction tx).Vacated := by
  unfold UnitOfWork.keepTransaction
  split
  · exact h
  · rename_i hopen
    exact vacated_of_open (Bool.eq_false_iff.mpr hopen)

theorem keepTransaction_disposed (u : UnitOfWork ρ τ) (tx : τ) :
    (u.keepTransaction tx).disposed = u.disposed := by
  unfold keepTransaction
  split <;> rfl

theorem Vacated.dispose (h : u.Vacated) : u.dispose.1.Vacated := by
  unfold UnitOfWork.dispose
  split
  · exact h
  · exact fun _ => ⟨rfl, rfl⟩

/-- A turn that leaves the unit as `w`, which is disposed if `u` is. -/
theorem Vacated.leaving (hw : w.Vacated) (hd : u.disposed = true → w.disposed = true)
    {stage : Stage ρ τ} (hstage : u.disposed = true → stage.gives = false) (events : List Event) :
    Turn.Final u ⟨w, stage, events⟩ := ⟨hw, hd, hstage⟩

theorem Vacated.depart (hw : w.Vacated) (hd : u.disposed = true → w.disposed = true) (t : TaskId)
    {reply : Reply ρ τ} (hreply : u.disposed = true → (Stage.finished reply).gives = false)
    (events : List Event) : Turn.Final u (w.depart t reply events) := by
  have hleft : UnitOfWork.Vacated { w with gate := w.gate.leave t } := hw.congr rfl rfl rfl
  exact hleft.leaving hd hreply events

theorem Vacated.departDisposed (hw : w.Vacated) (u : UnitOfWork ρ τ) (t : TaskId)
    {reply : Reply ρ τ} (hreply : (Stage.finished reply).gives = false) :
    Turn.Final u (w.departDisposed t reply) :=
  hw.dispose.depart (fun _ => w.dispose_disposed) t (fun _ => hreply) _

/-! ## requests for repositories -/

theorem Vacated.give (h : u.Vacated) (r : ρ) (events : List Event) :
    (u.give r events).Final u := by
  unfold UnitOfWork.give
  split
  · rename_i hd
    have hcleared : UnitOfWork.Vacated { u with entries := [] } := fun _ => ⟨rfl, (h hd).2⟩
    exact hcleared.leaving (fun _ => hd) (fun _ => rfl) events
  · rename_i hopen
    exact final_of_open (Bool.eq_false_iff.mpr hopen) (Bool.eq_false_iff.mpr hopen)

theorem Vacated.approach (h : u.Vacated) (t : TaskId) (c : CellId) (events : List Event) :
    (u.approach t c events).Final u := by
  unfold UnitOfWork.approach
  cases u.cell? c with
  | none => exact h.leaving id (fun _ => rfl) events
  | some cell =>
    dsimp only
    split
    · exact h.give _ events
    · exact h.leaving id (fun _ => by split <;> rfl) events

theorem Vacated.startResolve (h : u.Vacated) (catalog : Catalog) (t : TaskId) (i : Interface) :
    (u.startResolve catalog t i).Final u := by
  cases hd : u.disposed with
  | true =>
    have hrefused : u.resolveInfo catalog i = .error .disposed := if_pos hd
    unfold UnitOfWork.startResolve
    rw [hrefused]
    exact h.leaving id (fun _ => rfl) []
  | false =>
    have hkept := (startResolve_constructs u catalog t i).alike.disposed
    exact final_of_open hd (hkept.trans hd)

theorem Vacated.endConstruction (h : u.Vacated) (t : TaskId) (c : CellId)
    (result : Except RepoError ρ) : (u.endConstruction t c result).Final u := by
  cases result with
  | error e =>
    have hleft : (u.modifyCell c fun cell => { cell with gate := cell.gate.leave t }).Vacated :=
      h.congr rfl rfl rfl
    exact hleft.leaving (fun hd : u.disposed = true => hd) (fun _ => rfl) []
  | ok r =>
    have hbuilt : (u.modifyCell c fun cell => { cell with gate := {}, value := some r }).Vacated :=
      h.congr rfl rfl rfl
    obtain ⟨hvacated, hstays, hwithholds⟩ := hbuilt.give r [.constructed]
    exact ⟨hvacated, hstays, hwithholds⟩

/-! ## transaction calls -/

theorem proceed_of_disposed (hd : u.disposed = true) (t : TaskId) {call : GateCall}
    (hcall : call ≠ .close) : u.proceed t call = u.depart t (.error .disposed) [] := by
  cases call with
  | close => exact absurd rfl hcall
  | begin | commit | rollback => rw [proceed, if_pos hd]

theorem proceed_of_open (hopen : u.disposed = false) (t : TaskId) {call : GateCall}
    (hcall : call ≠ .close) : (u.proceed t call).unit.disposed = false := by
  have hnot : ¬ u.disposed = true := Bool.eq_false_iff.mp hopen
  cases call with
  | close => exact absurd rfl hcall
  | begin | commit | rollback =>
    rw [proceed, if_neg hnot]
    cases u.transaction <;> exact hopen

/-- The task that holds the gate of a disposed unit is turned away, or closes what is closed. -/
theorem Vacated.proceed (h : u.Vacated) (t : TaskId) (call : GateCall) :
    (u.proceed t call).Final u := by
  by_cases hcall : call = .close
  · subst hcall
    rw [UnitOfWork.proceed]
    cases u.transaction with
    | some tx =>
      have hstage : (Stage.closing tx : Stage ρ τ).gives = false := rfl
      exact h.takeTransaction.leaving (fun hd : u.disposed = true => hd) (fun _ => hstage) _
    | none => exact h.departDisposed u t rfl
  · cases hd : u.disposed with
    | true =>
      rw [proceed_of_disposed hd t hcall]
      exact h.depart id t (fun _ => rfl) []
    | false => exact final_of_open hd (proceed_of_open hd t hcall)

theorem Vacated.approachGate (h : u.Vacated) (t : TaskId) (call : GateCall) :
    (u.approachGate t call).Final u := by
  unfold UnitOfWork.approachGate
  split
  · exact h.proceed t call
  · exact h.leaving id (fun _ => rfl) []

theorem Vacated.startGated (h : u.Vacated) (t : TaskId) (call : GateCall) :
    (u.startGated t call).Final u := by
  unfold UnitOfWork.startGated
  split
  · exact h.leaving id (fun _ => rfl) []
  · have harrived : UnitOfWork.Vacated { u with gate := u.gate.arrive t } := h.congr rfl rfl rfl
    obtain ⟨hvacated, hstays, hwithholds⟩ := harrived.approachGate t call
    exact ⟨hvacated, hstays, hwithholds⟩

/-- A transaction that begins while the unit is disposed is rolled back and not given out. -/
theorem Vacated.endBegin (h : u.Vacated) (t : TaskId) (result : Except StorageError τ) :
    (u.endBegin t result).Final u := by
  cases result with
  | error e => exact h.depart id t (fun _ => rfl) []
  | ok tx =>
    unfold UnitOfWork.endBegin
    dsimp only
    split
    · exact h.leaving id (fun _ => rfl) _
    · rename_i hopen
      have hopen := Bool.eq_false_iff.mpr hopen
      exact final_of_open hopen ((u.keepTransaction_disposed tx).trans hopen)

/-- A transaction whose commit fails does not come back into a disposed unit. -/
theorem Vacated.endCommit (h : u.Vacated) (t : TaskId) (tx : τ)
    (result : Except StorageError Unit) : (u.endCommit t tx result).Final u := by
  cases result with
  | error e =>
    exact (h.keepTransaction tx).depart (u.keepTransaction_disposed tx).trans t (fun _ => rfl) []
  | ok _ => exact h.depart id t (fun _ => rfl) _

/-! ## all turns -/

theorem Vacated.start (h : u.Vacated) (catalog : Catalog) (t : TaskId) (call : UnitCall) :
    (u.start catalog t call).Final u := by
  cases call with
  | resolve i => exact h.startResolve catalog t i
  | gated call => exact h.startGated t call
  | save =>
    show u.startSave.Final u
    unfold startSave
    split <;> exact h.leaving id (fun _ => rfl) []
  | dispose => exact h.dispose.leaving (fun _ => u.dispose_disposed) (fun _ => rfl) _

/-- A task that is finished has no further turn. -/
theorem Vacated.wake (h : u.Vacated) (t : TaskId) (stage : Stage ρ τ) :
    (u.wake t stage).Final u ∨ u.wake t stage = ⟨u, stage, []⟩ := by
  cases stage with
  | waiting c => exact .inl (h.approach t c [])
  | queued call => exact .inl (h.approachGate t call)
  | _ => exact .inr rfl

theorem Vacated.answer (h : u.Vacated) (t : TaskId) (stage : Stage ρ τ) (a : Answer ρ τ) :
    (u.answer t stage a).Final u ∨ u.answer t stage a = ⟨u, stage, []⟩ := by
  cases stage with
  | waiting c | queued call | finished reply => cases a <;> exact .inr rfl
  | constructing c =>
    cases a with
    | constructed result => exact .inl (h.endConstruction t c result)
    | _ => exact .inr rfl
  | beginning =>
    cases a with
    | begun result => exact .inl (h.endBegin t result)
    | _ => exact .inr rfl
  | undoing tx =>
    cases a with
    | ended result => cases result <;> exact .inl (h.depart id t (fun _ => rfl) _)
    | _ => exact .inr rfl
  | committing tx =>
    cases a with
    | ended result => exact .inl (h.endCommit t tx result)
    | _ => exact .inr rfl
  | savingPending =>
    cases a with
    | saved result => cases result <;> exact .inl (h.depart id t (fun _ => rfl) _)
    | _ => exact .inr rfl
  | rollingBack tx =>
    cases a with
    | ended result => cases result <;> exact .inl (h.depart id t (fun _ => rfl) _)
    | _ => exact .inr rfl
  | closing tx =>
    cases a with
    | ended result => cases result <;> exact .inl (h.departDisposed u t rfl)
    | _ => exact .inr rfl
  | saving =>
    cases a with
    | saved result => cases result <;> exact .inl (h.leaving id (fun _ => rfl) _)
    | _ => exact .inr rfl

theorem Vacated.abandon (h : u.Vacated) (t : TaskId) (stage : Stage ρ τ) :
    (u.abandon t stage).Vacated ∧ (u.abandon t stage).disposed = u.disposed := by
  cases stage with
  | saving | finished reply => exact ⟨h, rfl⟩
  | _ => exact ⟨h.congr rfl rfl rfl, rfl⟩

end UnitOfWork

/-! ## signals -/

namespace Scene

variable {s s' : Scene ρ τ} {t : TaskId}

/-- From a scene whose unit is disposed to a later one. -/
structure Final (s s' : Scene ρ τ) : Prop where
  vacated : s'.unit.Vacated
  stays : s.unit.disposed = true → s'.unit.disposed = true
  /-- whatever is there has been there before -/
  withholds : s.unit.disposed = true → ∀ t x, x.isHandle = true →
    s'.reply? t = some (.ok x) → s.reply? t = some (.ok x)

theorem Final.refl (h : s.unit.Vacated) : s.Final s := ⟨h, id, fun _ _ _ _ => id⟩

theorem Final.trans {s'' : Scene ρ τ} (h : s.Final s') (h' : s'.Final s'') : s.Final s'' where
  vacated := h'.vacated
  stays hd := h'.stays (h.stays hd)
  withholds hd t x hx hreply := h.withholds hd t x hx (h'.withholds (h.stays hd) t x hx hreply)

theorem reply?_eq_some {reply : Reply ρ τ} :
    s.reply? t = some reply ↔ s.tasks t = some (.finished reply) := by
  unfold reply?
  cases s.tasks t with
  | none => exact ⟨nofun, nofun⟩
  | some stage =>
    cases stage with
    | finished reply' => simp
    | _ => exact ⟨nofun, nofun⟩

/-- A turn, or a task that is dropped. -/
theorem Final.of_replace {w : UnitOfWork ρ τ} {stage : Option (Stage ρ τ)} (hw : w.Vacated)
    (hd : s.unit.disposed = true → w.disposed = true)
    (hstage : s.unit.disposed = true → ∀ x, x.isHandle = true →
      stage = some (.finished (.ok x)) → s.tasks t = some (.finished (.ok x))) :
    s.Final ⟨w, replace s.tasks t stage⟩ := by
  refine ⟨hw, hd, fun hdisposed w x hx hreply => ?_⟩
  rw [reply?_eq_some] at hreply ⊢
  by_cases hw : w = t
  · subst hw
    exact hstage hdisposed x hx ((replace_same ..).symm.trans hreply)
  · exact (replace_other _ _ hw).symm.trans hreply

theorem Final.afterTurn {turn : Turn ρ τ} (h : turn.Final s.unit) :
    s.Final (s.afterTurn t turn).1 := by
  refine .of_replace h.vacated h.stays fun hd x hx hstage => ?_
  have hwithheld := h.withholds hd
  rw [Option.some.inj hstage, show (Stage.finished (.ok x)).gives = x.isHandle from rfl, hx]
    at hwithheld
  cases hwithheld

/-- A signal that a task takes no notice of. -/
theorem Final.afterTurn_self (h : s.unit.Vacated) {stage : Stage ρ τ}
    (hstage : s.tasks t = some stage) : s.Final (s.afterTurn t ⟨s.unit, stage, []⟩).1 :=
  .of_replace h id fun _ _ _ hfinished => hstage.trans hfinished

/-- **One signal.** -/
theorem Final.step (catalog : Catalog) (h : s.unit.Vacated) (g : Signal ρ τ) :
    s.Final (s.step catalog g).1 := by
  cases g with
  | start t call =>
    cases htask : s.tasks t with
    | some stage =>
      rw [Scene.step, htask]
      exact .refl h
    | none =>
      rw [step_start htask]
      exact .afterTurn (h.start catalog t call)
  | wake t =>
    cases htask : s.tasks t with
    | none =>
      rw [Scene.step, htask]
      exact .refl h
    | some stage =>
      rw [step_wake htask]
      rcases h.wake t stage with hturn | hturn
      · exact .afterTurn hturn
      · rw [hturn]
        exact .afterTurn_self h htask
  | answer t a =>
    cases htask : s.tasks t with
    | none =>
      rw [Scene.step, htask]
      exact .refl h
    | some stage =>
      rw [step_answer htask]
      rcases h.answer t stage a with hturn | hturn
      · exact .afterTurn hturn
      · rw [hturn]
        exact .afterTurn_self h htask
  | abandon t =>
    cases htask : s.tasks t with
    | none =>
      rw [Scene.step, htask]
      exact .refl h
    | some stage =>
      rw [Scene.step, htask]
      obtain ⟨hvacated, hdisposed⟩ := h.abandon t stage
      exact .of_replace hvacated hdisposed.trans fun _ _ _ he => by cases he

/-- **A run.** -/
theorem Final.run (catalog : Catalog) (h : s.unit.Vacated) (signals : List (Signal ρ τ)) :
    s.Final (s.run catalog signals) := by
  induction signals generalizing s with
  | nil => exact .refl h
  | cons g rest ih =>
    have hstep := Final.step catalog h g
    exact hstep.trans (ih hstep.vacated)

/-- **Disposal is final**, however the calls on a unit interleave and whatever sessions and
constructors answer. Once the unit is disposed it stays so; it has no repository in use and no
transaction, and no call is given a repository or a transaction that it had not been given before. -/
theorem disposal_is_final (catalog : Catalog) (before after : List (Signal ρ τ))
    (hdisposed : (run catalog ({} : Scene ρ τ) before).unit.disposed = true) :
    let now := run catalog ({} : Scene ρ τ) (before ++ after)
    now.unit.disposed = true ∧ now.unit.entries = [] ∧ now.unit.transaction = none ∧
      now.unit.hasTransaction = false ∧
      ∀ t x, x.isHandle = true → now.reply? t = some (.ok x) →
        (run catalog {} before).reply? t = some (.ok x) := by
  intro now
  have hnew : UnitOfWork.Vacated ({} : Scene ρ τ).unit := UnitOfWork.vacated_of_open rfl
  have hfinal := Final.run catalog (Final.run catalog hnew before).vacated after
  rw [← run_append] at hfinal
  have hnow : now.unit.disposed = true := hfinal.stays hdisposed
  obtain ⟨hentries, htransaction⟩ := hfinal.vacated hnow
  exact ⟨hnow, hentries, htransaction, UnitOfWork.hasTransaction_of_disposed hnow,
    hfinal.withholds hdisposed⟩

/-- A transaction begins and a repository is constructed while the unit is disposed. -/
def disposedMeanwhile : List (Signal String String) :=
  [.start 0 (.gated .begin), .start 1 (.resolve (.generic jobType .mutating)), .start 2 .dispose]

theorem nothing_given_after_disposal :
    let catalog := Catalog.ofTypes [jobType]
    let now := run catalog {} (disposedMeanwhile ++
      [.answer 0 (.begun (.ok "late")), .answer 1 (.constructed (.ok "jobs")),
        .answer 0 (.ended (.ok ())), .start 3 (.gated .begin)])
    (run catalog {} disposedMeanwhile).unit.disposed = true ∧ now.unit.entries = [] ∧
      now.unit.hasTransaction = false ∧ now.reply? 0 ≠ some (.ok (.transaction "late")) ∧
      now.reply? 1 ≠ some (.ok (.repository "jobs")) := by
  intro catalog now
  have hdisposed : (run catalog {} disposedMeanwhile).unit.disposed = true := rfl
  obtain ⟨-, hentries, -, hnone, hwithheld⟩ := disposal_is_final catalog disposedMeanwhile
    [.answer 0 (.begun (.ok "late")), .answer 1 (.constructed (.ok "jobs")),
      .answer 0 (.ended (.ok ())), .start 3 (.gated .begin)] hdisposed
  refine ⟨hdisposed, hentries, hnone, fun hbegun => ?_, fun hbuilt => ?_⟩
  · have hbefore := hwithheld 0 _ rfl hbegun
    cases (show none = some _ from hbefore)
  · have hbefore := hwithheld 1 _ rfl hbuilt
    cases (show none = some _ from hbefore)

end Scene

end RowSpec
