import RowSpec.Proofs.Workspace.Settled

/-!
# Transactions of units and of their sessions

That a transaction is going on is kept twice, by the unit and by its session. A begin or a commit
that fails leaves both as they were. A rollback that fails takes the transaction from the unit and
leaves it to the session, where no later call can end it.

* `Standing.Stranded`          the session is in a transaction that the unit does not have;
* `CallEffect.stranded_iff`    what one call means for it;
* `Settled.stranded_perform`, `Settled.stranded_after`   one action, and a run;
* `hasTransaction_eq_inTransaction_iff`   unit and session agree until a rollback is cut off.
-/

namespace RowSpec

/-! ## one call -/

section
variable {ε : Type} {p p' : Standing ε} {cancelled : Bool} {c : UnitCall}
  {reply : Option (Reply Repository Transaction)}

def Standing.Stranded (p : Standing ε) : Prop :=
  p.unit.transaction = none ∧ p.session.staged ≠ none

theorem Standing.Still.stranded (h : p.Still p') : p'.Stranded ↔ p.Stranded := by
  unfold Standing.Stranded
  rw [h.transaction, h.staged]

/-- What strands a session is a rollback whose token is cancelled, and no call helps. -/
theorem CallEffect.stranded_iff (h : CallEffect p p' cancelled c reply) (hc : c.shuts = false)
    (hopen : p.unit.disposed = false)
    (hheld : p.unit.transaction ≠ none → p.session.staged ≠ none) :
    p'.Stranded ↔
      p.Stranded ∨ (c = .gated .rollback ∧ cancelled = true) ∧ p.unit.transaction ≠ none := by
  have hfree : ∀ {tx}, p.unit.transaction = some tx → ¬ p.Stranded := by
    intro tx htx hs
    rw [hs.1] at htx
    cases htx
  cases h with
  | quiet cause still =>
    refine still.stranded.trans (or_iff_left ?_).symm
    rintro ⟨⟨rfl, _⟩, htx⟩
    cases cause with
    | shut _ _ hd => exact Bool.false_ne_true (hopen.symm.trans hd)
    | refused _ _ fits => simp at fits
    | nothingToRollBack free => exact htx free
  | begun tx _ _ unstaged _ held =>
    refine iff_of_false (fun hs => ?_) ?_
    · rw [hs.1] at held
      cases held
    · rintro (hs | hno)
      · exact hs.2 unstaged
      · cases hno.1.1
  | committed tx _ held _ _ unstaged =>
    refine iff_of_false (fun hs => hs.2 unstaged) ?_
    rintro (hs | hno)
    · exact hfree held hs
    · cases hno.1.1
  | rolledBack tx live held _ _ unstaged =>
    refine iff_of_false (fun hs => hs.2 unstaged) ?_
    rintro (hs | hcut)
    · exact hfree held hs
    · exact Bool.false_ne_true (live.symm.trans hcut.1.2)
  | lost tx e cut held _ free staged =>
    have htx : p.unit.transaction ≠ none := by rw [held]; exact Option.some_ne_none _
    refine iff_of_true ⟨free, ?_⟩ (.inr ⟨⟨rfl, cut⟩, htx⟩)
    rw [staged]
    exact hheld htx
  | ended _ fits => rcases fits with rfl | rfl <;> cases hc

/-- A call that fails changes no row, and takes nothing from the unit but in a rollback. -/
theorem CallEffect.of_error {call : GateCall} {e : RepoError}
    (h : CallEffect p p' cancelled (.gated call) (some (.error e))) (hc : call ≠ .close)
    (hopen : p.unit.disposed = false) :
    p'.session.staged = p.session.staged ∧ p'.tables = p.tables ∧
      p'.unit.transaction = if call = .rollback then none else p.unit.transaction := by
  cases h with
  | quiet cause still =>
    refine ⟨still.staged, still.tables, still.transaction.trans (if_neg ?_).symm⟩
    rintro rfl
    cases cause with
    | shut _ _ hd => exact Bool.false_ne_true (hopen.symm.trans hd)
    | refused _ _ fits => simp at fits
  | lost _ _ _ _ _ free staged tables => exact ⟨staged, tables, free⟩
  | ended _ fits =>
    rcases fits with ⟨⟨⟩⟩ | ⟨⟨⟩⟩
    exact absurd rfl hc

end

/-! ## runs -/

namespace Workspace

variable {ε : Type} {ws : Workspace ε} {i : UnitId} {s : SessionId} {u : HostedUnit}

theorem Settled.coupled_iff (h : ws.Settled) (hu : ws.Hosts i s u) :
    ws.hasTransaction i = ws.inTransaction i ↔ ¬ (ws.standing u).Stranded := by
  have hheld := h.held i u hu.unit
  rw [hu.hasTransaction, hu.inTransaction]
  show _ ↔ ¬ (u.unit.transaction = none ∧ (ws.storage.sessions u.session).staged ≠ none)
  cases htx : u.unit.transaction with
  | none => cases (ws.storage.sessions u.session).staged <;> simp
  | some tx =>
    have hstaged := hheld (by rw [htx]; exact Option.some_ne_none _)
    simp [Option.isSome_iff_ne_none.mpr hstaged]

variable [Entity ε]

/-- the rollback of a transaction, with a cancelled token -/
def CutsRollback (ws : Workspace ε) (i : UnitId) (a : Action ε) : Prop :=
  a = .call i (.gated .rollback) true ∧ ws.hasTransaction i = true

/-- A rollback of the unit is cut off somewhere in the run. -/
def RollbackCut (i : UnitId) : Workspace ε → List (Action ε) → Prop
  | _, [] => False
  | ws, a :: rest => ws.CutsRollback i a ∨ RollbackCut i (ws.perform a).1 rest

theorem Settled.stranded_perform (h : ws.Settled) (hu : ws.Hosts i s u) {a : Action ε}
    (ha : a.shuts i = false) :
    ∃ v, (ws.perform a).1.Hosts i s v ∧
      (((ws.perform a).1.standing v).Stranded ↔
        (ws.standing u).Stranded ∨ ws.CutsRollback i a) := by
  rcases h.perform_cases hu ha with ⟨c, cancelled, v, rfl, hc, hv, heffect⟩ | ⟨hother, hv, hstaged⟩
  · refine ⟨v, hv, (heffect.stranded_iff hc hu.opened (h.held i u hu.unit)).trans ?_⟩
    have htx : u.unit.transaction ≠ none ↔ ws.hasTransaction i = true := by
      rw [hu.hasTransaction, Option.isSome_iff_ne_none]
    refine or_congr_right (and_congr ⟨?_, ?_⟩ htx)
    · rintro ⟨rfl, rfl⟩
      rfl
    · intro hcall
      exact (Action.call.inj hcall).2
  · refine ⟨u, hv, ?_⟩
    have hno : ¬ ws.CutsRollback i a := fun hcut => hother _ _ hcut.1
    rw [or_iff_left hno]
    unfold Standing.Stranded standing
    rw [hu.session]
    exact and_congr_right fun _ => not_congr hstaged

theorem Settled.stranded_after {run : List (Action ε)} (hrun : ∀ a ∈ run, a.shuts i = false)
    (h : ws.Settled) (hu : ws.Hosts i s u) :
    ∃ v, (ws.after run).Hosts i s v ∧
      (((ws.after run).standing v).Stranded ↔
        (ws.standing u).Stranded ∨ ws.RollbackCut i run) := by
  induction run generalizing ws u with
  | nil => exact ⟨u, hu, (or_iff_left not_false).symm⟩
  | cons a rest ih =>
    obtain ⟨v, hv, hstep⟩ := h.stranded_perform hu (hrun a List.mem_cons_self)
    obtain ⟨w, hw, hrest⟩ :=
      ih (fun b hb => hrun b (List.mem_cons_of_mem a hb)) (h.perform a) hv
    refine ⟨w, hw, hrest.trans ?_⟩
    rw [hstep, or_assoc]
    rfl

/-- **A unit and its session agree** until a rollback of the unit is cut off. A call that fails
takes nothing from the session; a rollback that fails takes the transaction from the unit. -/
theorem hasTransaction_eq_inTransaction_iff {start : Workspace ε} (h : start.Opened)
    (hu : start.units i = some u) {run : List (Action ε)}
    (hrun : ∀ a ∈ run, a.shuts i = false) :
    ((start.after run).hasTransaction i = (start.after run).inTransaction i ↔
      ¬ start.RollbackCut i run) ∧
    ∀ call cancelled e, call ≠ .close →
      ((start.after run).call i (.gated call) cancelled).2.2 = some (.error e) →
        let next := ((start.after run).call i (.gated call) cancelled).1
        next.inTransaction i = (start.after run).inTransaction i ∧
          next.hasTransaction i =
            if call = .rollback then false else (start.after run).hasTransaction i := by
  obtain ⟨v, hv, hstranded⟩ := h.settled.stranded_after hrun (h.hosts hu)
  have hsettled := h.settled.after run
  have hstart : ¬ (start.standing u).Stranded := fun hs => hs.2 (h.staged u.session)
  refine ⟨?_, ?_⟩
  · rw [hsettled.coupled_iff hv, hstranded, or_iff_right hstart]
  · intro call cancelled e hclose he next
    have hshuts : (UnitCall.gated call).shuts = false := by
      cases call with
      | close => exact absurd rfl hclose
      | _ => rfl
    obtain ⟨w, hw, heffect⟩ := hsettled.call_own hv hshuts cancelled
    rw [he] at heffect
    obtain ⟨hstaged, _, htx⟩ := heffect.of_error hclose hv.opened
    have hstaged' : (next.storage.sessions w.session).staged =
      ((start.after run).storage.sessions v.session).staged := hstaged
    have htx' : w.unit.transaction = if call = .rollback then none else v.unit.transaction := htx
    refine ⟨?_, ?_⟩
    · rw [hw.inTransaction, hv.inTransaction, hstaged']
    · rw [hw.hasTransaction, hv.hasTransaction, htx']
      split <;> rfl

/-- A commit with a cancelled token fails, and both still have the transaction. -/
theorem pairOfUnits_agrees :
    let run : List (Action Keyed) := [.call "u1" (.gated .begin) false]
    let next := ((pairOfUnits.after run).call "u1" (.gated .commit) true).1
    pairOfUnits.Opened ∧ (∀ a ∈ run, a.shuts "u1" = false) ∧
      (pairOfUnits.after run).hasTransaction "u1" = (pairOfUnits.after run).inTransaction "u1" ∧
      next.inTransaction "u1" = true ∧ next.hasTransaction "u1" = true := by
  intro run next
  have hrun : ∀ a ∈ run, a.shuts "u1" = false := by decide
  obtain ⟨hcoupled, hfails⟩ := hasTransaction_eq_inTransaction_iff pairOfUnits_opened rfl hrun
  have hno : ¬ pairOfUnits.RollbackCut "u1" run := by
    intro hcut
    rcases hcut with ⟨hcut, _⟩ | hrest
    · cases hcut
    · exact hrest
  obtain ⟨hin, hhas⟩ := hfails .commit true (.storage .cancelled) (fun h => by cases h) rfl
  refine ⟨pairOfUnits_opened, hrun, hcoupled.mpr hno, hin.trans ?_, hhas.trans ?_⟩
  · decide
  · decide

/-- A rollback with a cancelled token fails, and can not be tried again. -/
theorem pairOfUnits_disagrees :
    ¬ ∀ run : List (Action Keyed), (∀ a ∈ run, a.shuts "u1" = false) →
      (pairOfUnits.after run).hasTransaction "u1" = (pairOfUnits.after run).inTransaction "u1" := by
  intro h
  have hrun := h [.call "u1" (.gated .begin) false, .call "u1" (.gated .rollback) true] (by decide)
  exact absurd hrun (by decide)

end Workspace

end RowSpec
