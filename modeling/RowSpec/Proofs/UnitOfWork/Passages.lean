import RowSpec.Proofs.UnitOfWork.Contents

/-!
# Passages of the transaction gate

What a signal can do at the transaction gate of a unit that stays open, and to the transaction in
use.

* `Stage.isOfGate`       stages of begin, commit, rollback and close;
* `Stage.ending?`        the transaction that a task is about to end;
* `Stage.handle?`        the transaction that a task has been given;
* `Scene.outstanding?`   what has been asked of the session or the transaction on their behalf;
* `Scene.Passage`        one thing that happens at the gate;
* `Scene.passages`       every signal comes down to one, for a new call after its arrival;
* `Scene.Guarded`        only the task that holds the gate has asked for anything, and it begins
                         nothing while there is a transaction.
-/

namespace RowSpec

variable {ρ τ : Type}

namespace Stage

def isOfGate : Stage ρ τ → Bool
  | .queued _ | .beginning | .undoing _ | .committing _ | .savingPending | .rollingBack _
  | .closing _ => true
  | .waiting _ | .constructing _ | .saving | .finished _ => false

/-- the transaction that a task commits or rolls back, which nobody else sees meanwhile -/
def ending? : Stage ρ τ → Option τ
  | .committing tx | .rollingBack tx | .closing tx => some tx
  | _ => none

/-- the transaction that a task has been given -/
def handle? : Stage ρ τ → Option τ
  | .finished (.ok (.transaction tx)) => some tx
  | _ => none

theorem request?_of_isOfGate {stage : Stage ρ τ} (h : stage.isOfGate = true)
    (u u' : UnitOfWork ρ τ) : u.request? stage = u'.request? stage := by
  cases stage with
  | constructing c => cases h
  | _ => rfl

end Stage

namespace UnitOfWork

variable (u : UnitOfWork ρ τ) (t : TaskId)

theorem not_open_dispose : ¬ u.dispose.1.disposed = false := by
  rw [dispose_disposed]
  exact Bool.noConfusion

/-! ## requests for repositories -/

theorem handle?_give (r : ρ) (events : List Event) : (u.give r events).stage.handle? = none := by
  rw [give]
  split <;> rfl

theorem handle?_approach (c : CellId) (events : List Event) :
    (u.approach t c events).stage.handle? = none := by
  rw [approach]
  cases u.cell? c with
  | none => rfl
  | some cell =>
    dsimp only
    split
    · exact u.handle?_give _ events
    · dsimp only
      split <;> rfl

theorem handle?_startResolve (catalog : Catalog) (i : Interface) :
    (u.startResolve catalog t i).stage.handle? = none := by
  rw [startResolve]
  cases u.resolveInfo catalog i with
  | error e => rfl
  | ok info => exact handle?_approach _ t _ _

theorem handle?_endConstruction (c : CellId) (result : Except RepoError ρ) :
    (u.endConstruction t c result).stage.handle? = none := by
  cases result with
  | error e => rfl
  | ok r => exact handle?_give _ r _

end UnitOfWork

namespace Scene

/-- what a task waits to be told by the session or the transaction, on behalf of a call that passes
the transaction gate -/
def outstanding? (s : Scene ρ τ) (t : TaskId) : Option (Request τ) :=
  ((s.tasks t).filter Stage.isOfGate).bind s.unit.request?

def ending? (s : Scene ρ τ) (t : TaskId) : Option τ := (s.tasks t).bind Stage.ending?

def handle? (s : Scene ρ τ) (t : TaskId) : Option τ := (s.tasks t).bind Stage.handle?

/-- A new call at the end of the line. -/
def arrived (s : Scene ρ τ) (t : TaskId) (call : GateCall) : Scene ρ τ :=
  ⟨{ s.unit with gate := s.unit.gate.arrive t }, replace s.tasks t (some (.queued call))⟩

/-- The task leaves the gate with a reply, and `transaction` in use. -/
def left (s : Scene ρ τ) (t : TaskId) (transaction : Option τ) (reply : Reply ρ τ) : Scene ρ τ :=
  ⟨{ s.unit with transaction, gate := s.unit.gate.leave t },
    replace s.tasks t (some (.finished reply))⟩

/-- One thing that happens at the transaction gate by a signal. -/
inductive Passage (s : Scene ρ τ) : Signal ρ τ → Scene ρ τ → Prop
  | still {g} : Passage s g s
  /-- a turn of a task that has no business at the gate -/
  | aside {g t stage u} (hbefore : ∀ old, s.tasks t = some old → old.isOfGate = false)
      (hafter : stage.isOfGate = false) (hhandle : stage.handle? = none)
      (htransaction : u.transaction = s.unit.transaction) (hline : u.gate = s.unit.gate) :
      Passage s g ⟨u, replace s.tasks t (some stage)⟩
  | begins {g t} (ht : s.tasks t = some (.queued .begin)) (hlets : s.unit.gate.lets t = true)
      (hvacant : s.unit.transaction = none) :
      Passage s g ⟨s.unit, replace s.tasks t (some .beginning)⟩
  /-- a call on begin while there is a transaction -/
  | finds {g t tx} (ht : s.tasks t = some (.queued .begin)) (hlets : s.unit.gate.lets t = true)
      (hactive : s.unit.transaction = some tx) :
      Passage s g (s.left t s.unit.transaction (.ok (.transaction tx)))
  | takes {g t call tx stage} (ht : s.tasks t = some (.queued call))
      (hlets : s.unit.gate.lets t = true) (hactive : s.unit.transaction = some tx)
      (hstage : stage.ending? = some tx) :
      Passage s g ⟨s.unit.takeTransaction, replace s.tasks t (some stage)⟩
  | saves {g t} (ht : s.tasks t = some (.queued .commit)) (hlets : s.unit.gate.lets t = true)
      (hvacant : s.unit.transaction = none) :
      Passage s g ⟨s.unit, replace s.tasks t (some .savingPending)⟩
  | begun {t tx} (ht : s.tasks t = some .beginning) :
      Passage s (.answer t (.begun (.ok tx))) (s.left t (some tx) (.ok (.transaction tx)))
  /-- a commit that fails puts the transaction back -/
  | restores {t tx e} (ht : s.tasks t = some (.committing tx)) :
      Passage s (.answer t (.ended (.error e))) (s.left t (some tx) (.error (.storage e)))
  | departs {g t stage reply} (ht : s.tasks t = some stage) (hstage : stage.isOfGate = true)
      (hreply : (Stage.finished reply).handle? = none) :
      Passage s g (s.left t s.unit.transaction reply)
  | dropped {t u} (htransaction : u.transaction = s.unit.transaction)
      (hline : u.gate = s.unit.gate ∨ u.gate = s.unit.gate.leave t) :
      Passage s (.abandon t) ⟨u, replace s.tasks t none⟩

/-- What a signal comes to: a new call first takes its place in the line. -/
inductive Passages (s : Scene ρ τ) (g : Signal ρ τ) (s' : Scene ρ τ) : Prop
  | direct (h : Passage s g s')
  | arriving {t call} (hg : g = .start t (.gated call)) (hfree : s.tasks t = none)
      (h : Passage (s.arrived t call) (.wake t) s')

variable {s s' : Scene ρ τ} {catalog : Catalog} {g : Signal ρ τ} {t : TaskId} {stage : Stage ρ τ}
  {call : GateCall}

/-! ## the passage of a signal -/

theorem passage_self (ht : s.tasks t = some stage) (events : List Event) :
    Passage s g (s.afterTurn t ⟨s.unit, stage, events⟩).1 := by
  rw [afterTurn_self ht]
  exact .still

/-- A turn of a request for a repository. -/
theorem passage_constructs {turn : Turn ρ τ} (h : turn.Constructs s.unit)
    (hhandle : turn.stage.handle? = none)
    (hbefore : ∀ old, s.tasks t = some old → old.isOfGate = false) :
    Passage s g (s.afterTurn t turn).1 := by
  have hafter : turn.stage.isOfGate = false := by
    have hcell := h.stage
    cases hstage : turn.stage with
    | waiting | constructing | finished => rfl
    | _ =>
      rw [hstage] at hcell
      cases hcell
  exact .aside hbefore hafter hhandle h.alike.transaction h.alike.gate

/-- The call of the task that holds the gate. -/
theorem passage_proceed (ht : s.tasks t = some (.queued call)) (hlets : s.unit.gate.lets t = true)
    (hopen : s.unit.disposed = false)
    (hafter : (s.unit.proceed t call).unit.disposed = false) :
    Passage s g (s.afterTurn t (s.unit.proceed t call)).1 := by
  have hnot : ¬ s.unit.disposed = true := Bool.eq_false_iff.mp hopen
  cases call with
  | begin =>
    rw [UnitOfWork.proceed, if_neg hnot]
    cases hactive : s.unit.transaction with
    | none => exact .begins ht hlets hactive
    | some tx => exact .finds ht hlets hactive
  | commit =>
    rw [UnitOfWork.proceed, if_neg hnot]
    cases hactive : s.unit.transaction with
    | none => exact .saves ht hlets hactive
    | some tx => exact .takes ht hlets hactive rfl
  | rollback =>
    rw [UnitOfWork.proceed, if_neg hnot]
    cases hactive : s.unit.transaction with
    | none => exact .departs ht rfl rfl
    | some tx => exact .takes ht hlets hactive rfl
  | close =>
    rw [UnitOfWork.proceed] at hafter ⊢
    cases hactive : s.unit.transaction with
    | none =>
      rw [hactive] at hafter
      exact absurd hafter s.unit.not_open_dispose
    | some tx => exact .takes ht hlets hactive rfl

theorem passage_wake (ht : s.tasks t = some stage)
    (hopen : (s.step catalog (.wake t)).1.unit.disposed = false) :
    Passage s (.wake t) (s.step catalog (.wake t)).1 := by
  have hbefore := open_of_step _ hopen
  rw [step_wake ht] at hopen ⊢
  cases stage with
  | waiting c =>
    refine passage_constructs (UnitOfWork.approach_constructs s.unit t c [])
      (s.unit.handle?_approach t c []) fun old hold => ?_
    rw [ht] at hold
    cases hold
    rfl
  | queued call =>
    show Passage s _ (s.afterTurn t (s.unit.approachGate t call)).1
    have hafter : (s.unit.approachGate t call).unit.disposed = false := hopen
    rw [UnitOfWork.approachGate] at hafter ⊢
    by_cases hlets : s.unit.gate.lets t = true
    · rw [if_pos hlets] at hafter ⊢
      exact passage_proceed ht hlets hbefore hafter
    · rw [if_neg hlets]
      exact passage_self ht []
  | _ => exact passage_self ht []

/-- A new call goes on like one that waits at the end of the line. -/
theorem step_gated (hfree : s.tasks t = none) (hopen : s.unit.disposed = false) (call : GateCall) :
    (s.step catalog (.start t (.gated call))).1 =
      ((s.arrived t call).step catalog (.wake t)).1 := by
  have hwaits : (s.arrived t call).tasks t = some (.queued call) := replace_same ..
  have hnot : ¬(call = .close ∧ s.unit.disposed) := fun h => Bool.eq_false_iff.mp hopen h.2
  rw [step_start hfree, step_wake hwaits]
  show (s.afterTurn t (s.unit.startGated t call)).1 = _
  rw [UnitOfWork.startGated, if_neg hnot]
  show (⟨_, _⟩ : Scene ρ τ) = ⟨_, replace (replace s.tasks t _) t _⟩
  rw [replace_replace]
  rfl

theorem passages_start (hfree : s.tasks t = none) (call : UnitCall)
    (hopen : (s.step catalog (.start t call)).1.unit.disposed = false) :
    Passages s (.start t call) (s.step catalog (.start t call)).1 := by
  have hbefore := open_of_step _ hopen
  have hnobody : ∀ old, s.tasks t = some old → old.isOfGate = false := by
    intro old hold
    rw [hfree] at hold
    cases hold
  cases call with
  | resolve i =>
    rw [step_start hfree]
    exact .direct (passage_constructs (s.unit.startResolve_constructs catalog t i)
      (s.unit.handle?_startResolve t catalog i) hnobody)
  | gated call =>
    have hwaits : (s.arrived t call).tasks t = some (.queued call) := replace_same ..
    rw [step_gated hfree hbefore] at hopen ⊢
    exact .arriving rfl hfree (passage_wake hwaits hopen)
  | save =>
    rw [step_start hfree]
    show Passages s _ (s.afterTurn t s.unit.startSave).1
    rw [UnitOfWork.startSave, hbefore, if_neg Bool.false_ne_true]
    exact .direct (.aside hnobody rfl rfl rfl rfl)
  | dispose =>
    rw [step_start hfree] at hopen
    exact absurd hopen s.unit.not_open_dispose

theorem passage_answer (ht : s.tasks t = some stage) (a : Answer ρ τ)
    (hopen : (s.step catalog (.answer t a)).1.unit.disposed = false) :
    Passage s (.answer t a) (s.step catalog (.answer t a)).1 := by
  have hbefore := open_of_step _ hopen
  have hown : ∀ old, s.tasks t = some old → old.isOfGate = stage.isOfGate := by
    intro old hold
    rw [ht] at hold
    cases hold
    rfl
  rw [step_answer ht] at hopen ⊢
  cases stage with
  | waiting c | queued call | finished reply => cases a <;> exact passage_self ht []
  | constructing c =>
    cases a with
    | constructed result =>
      exact passage_constructs (s.unit.endConstruction_constructs t c result)
        (s.unit.handle?_endConstruction t c result) hown
    | _ => exact passage_self ht []
  | beginning =>
    cases a with
    | begun result =>
      cases result with
      | error e => exact .departs ht rfl rfl
      | ok tx =>
        show Passage s _ (s.afterTurn t (s.unit.endBegin t (.ok tx))).1
        rw [UnitOfWork.endBegin, hbefore, if_neg Bool.false_ne_true,
          UnitOfWork.keepTransaction_of_open hbefore]
        exact .begun ht
    | _ => exact passage_self ht []
  | undoing tx =>
    cases a with
    | ended result => cases result <;> exact .departs ht rfl rfl
    | _ => exact passage_self ht []
  | committing tx =>
    cases a with
    | ended result =>
      cases result with
      | error e =>
        show Passage s _ (s.afterTurn t (s.unit.endCommit t tx (.error e))).1
        rw [UnitOfWork.endCommit, UnitOfWork.keepTransaction_of_open hbefore]
        exact .restores ht
      | ok _ => exact .departs ht rfl rfl
    | _ => exact passage_self ht []
  | savingPending =>
    cases a with
    | saved result => cases result <;> exact .departs ht rfl rfl
    | _ => exact passage_self ht []
  | rollingBack tx =>
    cases a with
    | ended result => cases result <;> exact .departs ht rfl rfl
    | _ => exact passage_self ht []
  | closing tx =>
    cases a with
    | ended result =>
      -- closing disposes the unit, whatever becomes of the transaction
      cases result <;> exact absurd hopen s.unit.not_open_dispose
    | _ => exact passage_self ht []
  | saving =>
    cases a with
    | saved result => cases result <;> exact .aside hown rfl rfl rfl rfl
    | _ => exact passage_self ht []

theorem passage_abandon (ht : s.tasks t = some stage) :
    Passage s (.abandon t) (s.step catalog (.abandon t)).1 := by
  rw [step, ht]
  cases stage with
  | waiting | constructing | saving | finished => exact .dropped rfl (.inl rfl)
  | _ => exact .dropped rfl (.inr rfl)

/-- **Every signal** comes down to a passage, as long as the unit is open. -/
theorem passages (g : Signal ρ τ) (hopen : (s.step catalog g).1.unit.disposed = false) :
    Passages s g (s.step catalog g).1 := by
  cases g with
  | start t call =>
    cases ht : s.tasks t with
    | some stage =>
      rw [step, ht]
      exact .direct .still
    | none => exact passages_start ht call hopen
  | wake t =>
    cases ht : s.tasks t with
    | none =>
      rw [step, ht]
      exact .direct .still
    | some stage => exact .direct (passage_wake ht hopen)
  | answer t a =>
    cases ht : s.tasks t with
    | none =>
      rw [step, ht]
      exact .direct .still
    | some stage => exact .direct (passage_answer ht a hopen)
  | abandon t =>
    cases ht : s.tasks t with
    | none =>
      rw [step, ht]
      exact .direct .still
    | some stage => exact .direct (passage_abandon ht)

/-! ## the guard -/

theorem outstanding?_of_task (ht : s.tasks t = some stage) (hgate : stage.isOfGate = true) :
    s.outstanding? t = s.unit.request? stage := by
  rw [outstanding?, ht, Option.filter_some, if_pos hgate]
  rfl

theorem outstanding?_replace_same (s : Scene ρ τ) (u : UnitOfWork ρ τ) (t : TaskId)
    (stage : Option (Stage ρ τ)) :
    outstanding? ⟨u, replace s.tasks t stage⟩ t =
      (stage.filter Stage.isOfGate).bind u.request? := by
  show ((replace s.tasks t stage t).filter _).bind _ = _
  rw [replace_same]

theorem outstanding?_replace_other (s : Scene ρ τ) (u : UnitOfWork ρ τ) (stage : Option (Stage ρ τ))
    {t' : TaskId} (h : t' ≠ t) :
    outstanding? ⟨u, replace s.tasks t stage⟩ t' = s.outstanding? t' := by
  show ((replace s.tasks t stage t').filter _).bind u.request? = _
  rw [replace_other _ _ h]
  refine Option.bind_congr fun old hold => ?_
  exact Stage.request?_of_isOfGate (Option.filter_eq_some_iff.mp hold).2 u s.unit

/-- Only the task that holds the gate has asked for anything, and it begins nothing while there is a
transaction. -/
structure Guarded (s : Scene ρ τ) : Prop where
  holds : ∀ {t}, (s.outstanding? t).isSome = true → s.unit.gate.lets t = true
  vacant : ∀ {t}, s.tasks t = some .beginning → s.unit.transaction = none

namespace Guarded

theorem start : ({} : Scene ρ τ).Guarded where
  holds h := nomatch h
  vacant h := nomatch h

/-- **No two calls** on the session or the transaction overlap. -/
theorem outstanding_unique (h : s.Guarded) {t t' : TaskId}
    (ht : (s.outstanding? t).isSome = true) (ht' : (s.outstanding? t').isSome = true) : t = t' :=
  Gate.lets_unique (h.holds ht) (h.holds ht')

section
variable {u : UnitOfWork ρ τ} {stage : Option (Stage ρ τ)}

/-- A turn of a task that lets the others keep what they hold. -/
theorem turn (h : s.Guarded)
    (hothers : ∀ {t'}, t' ≠ t → s.unit.gate.lets t' = true → u.gate.lets t' = true)
    (hvacant : ∀ {t'}, t' ≠ t → s.tasks t' = some .beginning → u.transaction = none)
    (hlets : ((stage.filter Stage.isOfGate).bind u.request?).isSome = true →
      u.gate.lets t = true)
    (hbegins : stage = some .beginning → u.transaction = none) :
    Guarded ⟨u, replace s.tasks t stage⟩ := by
  constructor
  · intro t' ht'
    by_cases hne : t' = t
    · subst hne
      rw [outstanding?_replace_same] at ht'
      exact hlets ht'
    · rw [outstanding?_replace_other s u stage hne] at ht'
      exact hothers hne (h.holds ht')
  · intro t' ht'
    dsimp only at ht'
    by_cases hne : t' = t
    · subst hne
      rw [replace_same] at ht'
      exact hbegins ht'
    · rw [replace_other _ _ hne] at ht'
      exact hvacant hne ht'

/-- A task that goes on to ask for nothing. -/
theorem silent (h : s.Guarded)
    (hothers : ∀ {t'}, t' ≠ t → s.unit.gate.lets t' = true → u.gate.lets t' = true)
    (hvacant : ∀ {t'}, t' ≠ t → s.tasks t' = some .beginning → u.transaction = none)
    (hstage : (stage.filter Stage.isOfGate).bind u.request? = none) :
    Guarded ⟨u, replace s.tasks t stage⟩ := by
  refine h.turn hothers hvacant (fun hsome => ?_) fun hbegins => ?_
  · rw [hstage] at hsome
    cases hsome
  · rw [hbegins] at hstage
    cases hstage

end

theorem left (h : s.Guarded) {transaction : Option τ} (reply : Reply ρ τ)
    (hvacant : ∀ {t'}, t' ≠ t → s.tasks t' = some .beginning → transaction = none) :
    (s.left t transaction reply).Guarded :=
  h.silent (fun hne hlets => Gate.lets_leave hlets hne) hvacant rfl

/-- While a task has asked for something, no other one begins a transaction. -/
theorem not_beginning (h : s.Guarded) (ht : (s.outstanding? t).isSome = true) {t' : TaskId}
    (hne : t' ≠ t) : s.tasks t' ≠ some .beginning := by
  intro hbeginning
  have ht' : (s.outstanding? t').isSome = true := by
    rw [outstanding?_of_task hbeginning rfl]
    rfl
  exact hne (h.outstanding_unique ht' ht)

theorem arrived (h : s.Guarded) (t : TaskId) (call : GateCall) : (s.arrived t call).Guarded :=
  h.silent (fun _ hlets => Gate.lets_arrive hlets t) (fun _ => h.vacant) rfl

/-- **Every passage** keeps the guard. -/
theorem passage (h : s.Guarded) (hpassage : Passage s g s') : s'.Guarded := by
  have hstored : ∀ {t stage tx} {reply : Reply ρ τ}, s.tasks t = some stage →
      stage.isOfGate = true → (s.unit.request? stage).isSome = true →
      (s.left t (some tx) reply).Guarded := by
    intro t stage tx reply ht hgate hasks
    rw [← outstanding?_of_task ht hgate] at hasks
    exact h.left reply fun hne hbeginning => absurd hbeginning (h.not_beginning hasks hne)
  cases hpassage with
  | still => exact h
  | aside _ hafter _ htransaction hline =>
    refine h.silent (fun _ hlets => hline ▸ hlets)
      (fun _ hbeginning => htransaction.trans (h.vacant hbeginning)) ?_
    rw [Option.filter_some, hafter]
    rfl
  | begins _ hlets hvacant =>
    exact h.turn (fun _ => id) (fun _ => h.vacant) (fun _ => hlets) fun _ => hvacant
  | takes _ hlets =>
    exact h.turn (fun _ => id) (fun _ _ => rfl) (fun _ => hlets) fun _ => rfl
  | saves _ hlets hvacant =>
    exact h.turn (fun _ => id) (fun _ => h.vacant) (fun _ => hlets) fun _ => hvacant
  | finds => exact h.left _ fun _ => h.vacant
  | departs => exact h.left _ fun _ => h.vacant
  | begun ht => exact hstored ht rfl rfl
  | restores ht => exact hstored ht rfl rfl
  | dropped htransaction hline =>
    refine h.silent (fun hne hlets => ?_)
      (fun _ hbeginning => htransaction.trans (h.vacant hbeginning)) rfl
    rcases hline with hline | hline
    · exact hline ▸ hlets
    · rw [hline]
      exact Gate.lets_leave hlets hne

theorem step (h : s.Guarded) (g : Signal ρ τ)
    (hopen : (s.step catalog g).1.unit.disposed = false) : (s.step catalog g).1.Guarded := by
  cases passages g hopen with
  | direct hpassage => exact h.passage hpassage
  | arriving _ _ hpassage => exact (h.arrived _ _).passage hpassage

theorem run (h : s.Guarded) (signals : List (Signal ρ τ))
    (hopen : (s.run catalog signals).unit.disposed = false) :
    (s.run catalog signals).Guarded := by
  induction signals generalizing s with
  | nil => exact h
  | cons g rest ih =>
    have hnow := open_of_run catalog (s.step catalog g).1 rest hopen
    exact ih (h.step g hnow) hopen

end Guarded

end Scene

end RowSpec
