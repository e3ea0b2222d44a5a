import RowSpec.Proofs.UnitOfWork.Passages
import RowSpec.Workspace.Schedule

/-!
# The transaction in use

Calls that begin, commit and roll back may come in any order and wait for each other at any point.
They never have two calls out at a time on the session or on a transaction, and as long as no
transaction ends, all that begin get the same one.

* `Scene.begun?`         the transaction that a signal brings from the session;
* `Scene.handed?`        the transaction that a signal gives to a caller;
* `Scene.NothingEnds`    a stretch in which no transaction is committed or rolled back;
* `Guarded.transaction_step`   what a signal of such a stretch does to the transaction in use;
* `Guarded.stretch`            what a whole stretch begins and gives out;
* `one_transaction_between_endings`   calls that do not overlap, and one transaction for all.
-/

namespace RowSpec

variable {ρ τ : Type}

namespace Scene

/-! ## what signals bring -/

/-- The transaction that the session begins for a task. -/
def begun? (s : Scene ρ τ) : Signal ρ τ → Option τ
  | .answer t (.begun (.ok tx)) => match s.request? t with
    | some .begin => some tx
    | _ => none
  | _ => none

/-- The transaction with which a call comes back. -/
def handed? (catalog : Catalog) (s : Scene ρ τ) (g : Signal ρ τ) : Option τ :=
  match s.handle? g.task with
  | none => (s.step catalog g).1.handle? g.task
  | some _ => none

/-- what the signals of a run bring, one after the other -/
def gather {α : Type} (catalog : Catalog) (brings? : Scene ρ τ → Signal ρ τ → Option α) :
    Scene ρ τ → List (Signal ρ τ) → List α
  | _, [] => []
  | s, g :: rest => (brings? s g).toList ++ gather catalog brings? (s.step catalog g).1 rest

/-- the transactions that the session begins -/
def begins (catalog : Catalog) : Scene ρ τ → List (Signal ρ τ) → List τ := gather catalog begun?

/-- the transactions with which calls come back -/
def handles (catalog : Catalog) : Scene ρ τ → List (Signal ρ τ) → List τ :=
  gather catalog (handed? catalog)

/-- In no state of the stretch a transaction is being committed or rolled back. Commits and
rollbacks that find no transaction may fall into it. -/
def NothingEnds (catalog : Catalog) (s : Scene ρ τ) (during : List (Signal ρ τ)) : Prop :=
  ∀ early late, during = early ++ late → ∀ t, (s.run catalog early).ending? t = none

variable {s s' : Scene ρ τ} {catalog : Catalog} {g : Signal ρ τ} {t : TaskId} {tx : τ}

theorem nothingEnds_cons {rest : List (Signal ρ τ)} : s.NothingEnds catalog (g :: rest) ↔
    (∀ t, s.ending? t = none) ∧ (s.step catalog g).1.NothingEnds catalog rest := by
  constructor
  · intro h
    refine ⟨h [] _ rfl, fun early late hrest => ?_⟩
    exact h (g :: early) late (congrArg (g :: ·) hrest)
  · rintro ⟨hnow, hrest⟩ early late hsplit
    cases early with
    | nil => exact hnow
    | cons g' early =>
      obtain ⟨rfl, htail⟩ := List.cons_eq_cons.mp hsplit
      exact hrest early late htail

theorem nothingEnds_nil : s.NothingEnds catalog [] ↔ ∀ t, s.ending? t = none := by
  constructor
  · intro h
    exact h [] [] rfl
  · intro h early late hsplit
    obtain ⟨rfl, rfl⟩ := List.append_eq_nil_iff.mp hsplit.symm
    exact h

theorem begun?_eq_some : s.begun? g = some tx ↔
    ∃ t, g = .answer t (.begun (.ok tx)) ∧ s.tasks t = some .beginning := by
  constructor
  · intro h
    cases g with
    | answer t a =>
      cases a with
      | begun result =>
        cases result with
        | error e => cases h
        | ok tx' =>
          rw [begun?] at h
          split at h
          · cases h
            refine ⟨t, rfl, ?_⟩
            obtain ⟨stage, hstage, hbegin⟩ := Option.bind_eq_some_iff.mp ‹s.request? t = _›
            cases stage with
            | beginning => exact hstage
            | constructing c =>
              obtain ⟨_, -, hconstruct⟩ := Option.map_eq_some_iff.mp hbegin
              cases hconstruct
            | _ => cases hbegin
          · cases h
      | _ => cases h
    | _ => cases h
  · rintro ⟨t, rfl, ht⟩
    have hrequest : s.request? t = some .begin := by
      rw [request?, ht]
      rfl
    rw [begun?, hrequest]

/-! ## one signal -/

theorem ending?_replace (s : Scene ρ τ) (u : UnitOfWork ρ τ) (t : TaskId)
    (stage : Option (Stage ρ τ)) :
    ending? ⟨u, replace s.tasks t stage⟩ t = stage.bind Stage.ending? := by
  show (replace s.tasks t stage t).bind _ = _
  rw [replace_same]

/-- The task that has a turn is the only one that may be given something by it. -/
theorem handle?_replace {u : UnitOfWork ρ τ} {stage : Option (Stage ρ τ)} {t' : TaskId}
    (h : handle? ⟨u, replace s.tasks t stage⟩ t' = some tx) :
    s.handle? t' = some tx ∨ stage.bind Stage.handle? = some tx := by
  have htask : (replace s.tasks t stage t').bind Stage.handle? = some tx := h
  by_cases hne : t' = t
  · subst hne
    rw [replace_same] at htask
    exact .inr htask
  · rw [replace_other _ _ hne] at htask
    exact .inl htask

theorem handle?_of_silent {u : UnitOfWork ρ τ} {stage : Option (Stage ρ τ)} {t' : TaskId}
    (h : handle? ⟨u, replace s.tasks t stage⟩ t' = some tx)
    (hstage : stage.bind Stage.handle? = none) : s.handle? t' = some tx := by
  rcases handle?_replace h with hbefore | hgiven
  · exact hbefore
  · rw [hstage] at hgiven
    cases hgiven

namespace Passage

/-- A task that comes by a transaction comes by the one in use. -/
theorem handle? (h : Passage s g s') (ht : s'.handle? t = some tx) :
    s.handle? t = some tx ∨ s'.unit.transaction = some tx := by
  cases h with
  | still => exact .inl ht
  | aside _ _ hhandle => exact .inl (handle?_of_silent ht hhandle)
  | begins | saves | restores | dropped => exact .inl (handle?_of_silent ht rfl)
  | @takes _ _ _ _ stage _ _ _ hstage =>
    have hsilent : stage.handle? = none := by
      cases stage with
      | finished reply => cases hstage
      | _ => rfl
    exact .inl (handle?_of_silent ht hsilent)
  | departs _ _ hreply => exact .inl (handle?_of_silent ht hreply)
  | finds _ _ hactive => exact (handle?_replace ht).imp_right hactive.trans
  | begun => exact handle?_replace ht

/-- The transaction in use changes only where one begins or ends. -/
theorem transaction_eq (h : Passage s g s') (hnone : s.begun? g = none)
    (hbefore : ∀ t, s.ending? t = none) (hafter : ∀ t, s'.ending? t = none) :
    s'.unit.transaction = s.unit.transaction := by
  cases h with
  | still | begins | finds | saves | departs => rfl
  | aside _ _ _ htransaction => exact htransaction
  | dropped htransaction => exact htransaction
  | @takes _ t _ _ stage _ _ _ hstage =>
    have hnow := hafter t
    rw [ending?_replace, Option.bind_some, hstage] at hnow
    cases hnow
  | begun ht =>
    rw [begun?_eq_some.mpr ⟨_, rfl, ht⟩] at hnone
    cases hnone
  | @restores t _ _ ht =>
    have hthen := hbefore t
    rw [Scene.ending?, ht] at hthen
    cases hthen

end Passage

theorem ending?_arrived {t : TaskId} {call : GateCall} (h : ∀ t, s.ending? t = none) :
    ∀ t', (s.arrived t call).ending? t' = none := by
  intro t'
  show (replace s.tasks t _ t').bind _ = _
  by_cases hne : t' = t
  · rw [hne, replace_same]
    rfl
  · rw [replace_other _ _ hne]
    exact h t'

/-- **One signal** while nothing ends. -/
theorem Guarded.transaction_step (h : s.Guarded)
    (hopen : (s.step catalog g).1.unit.disposed = false) (hbefore : ∀ t, s.ending? t = none)
    (hafter : ∀ t, (s.step catalog g).1.ending? t = none) :
    (s.step catalog g).1.unit.transaction = s.unit.transaction.or (s.begun? g) := by
  cases hbegun : s.begun? g with
  | some tx =>
    obtain ⟨t, rfl, ht⟩ := begun?_eq_some.mp hbegun
    have hstill := open_of_step _ hopen
    rw [h.vacant ht, Option.none_or, step_answer ht]
    show (s.unit.endBegin t (.ok tx)).unit.transaction = some tx
    rw [UnitOfWork.endBegin, hstill, if_neg Bool.false_ne_true,
      UnitOfWork.keepTransaction_of_open hstill]
    rfl
  | none =>
    rw [Option.or_none]
    cases passages g hopen with
    | direct hpassage => exact hpassage.transaction_eq hbegun hbefore hafter
    | arriving _ _ hpassage =>
      exact hpassage.transaction_eq rfl (ending?_arrived hbefore) hafter

/-- A call that comes back with a transaction has the one in use. -/
theorem transaction_of_handed? (hopen : (s.step catalog g).1.unit.disposed = false)
    (h : s.handed? catalog g = some tx) : (s.step catalog g).1.unit.transaction = some tx := by
  unfold handed? at h
  split at h
  · rename_i hnone
    have hpassed : s.handle? g.task = some tx ∨
        (s.step catalog g).1.unit.transaction = some tx := by
      cases passages g hopen with
      | direct hpassage => exact hpassage.handle? h
      | arriving _ _ hpassage =>
        exact (hpassage.handle? h).imp_left (handle?_of_silent · rfl)
    rcases hpassed with hthen | hactive
    · rw [hnone] at hthen
      cases hthen
    · exact hactive
  · cases h

/-! ## stretches -/

/-- **A stretch in which nothing ends.** The session begins at most one transaction, and none if
there is one already; calls come back with the transaction there was or with the one begun. -/
theorem Guarded.stretch (h : s.Guarded) (during : List (Signal ρ τ))
    (hopen : (s.run catalog during).unit.disposed = false)
    (hquiet : s.NothingEnds catalog during) :
    ∃ made : Option τ, begins catalog s during = made.toList ∧
      (s.unit.transaction = none ∨ made = none) ∧
      ∀ tx ∈ handles catalog s during, s.unit.transaction.or made = some tx := by
  induction during generalizing s with
  | nil => exact ⟨none, rfl, .inr rfl, nofun⟩
  | cons g rest ih =>
    obtain ⟨hbefore, hrest⟩ := nothingEnds_cons.mp hquiet
    have hafter : ∀ t, (s.step catalog g).1.ending? t = none := hrest [] rest rfl
    have hnow := open_of_run catalog (s.step catalog g).1 rest hopen
    have hactive := h.transaction_step hnow hbefore hafter
    obtain ⟨made, hmade, hnone, hhandles⟩ := ih (h.step g hnow) hopen hrest
    -- what a call comes back with now is in use from now on
    have hfirst : ∀ tx ∈ handles catalog s (g :: rest),
        (s.step catalog g).1.unit.transaction.or made = some tx := by
      intro tx htx
      rcases List.mem_append.mp htx with htx | htx
      · rw [transaction_of_handed? hnow (Option.mem_toList.mp htx), Option.some_or]
      · exact hhandles tx htx
    have hcons : begins catalog s (g :: rest) = (s.begun? g).toList ++ made.toList :=
      congrArg (_ ++ ·) hmade
    cases hbegun : s.begun? g with
    | none =>
      rw [hbegun, Option.or_none] at hactive
      rw [hactive] at hnone hfirst
      rw [hbegun] at hcons
      exact ⟨made, hcons, hnone, hfirst⟩
    | some tx =>
      obtain ⟨t, -, ht⟩ := begun?_eq_some.mp hbegun
      have hvacant := h.vacant ht
      rw [hvacant, hbegun, Option.none_or] at hactive
      obtain rfl : made = none := by
        rcases hnone with hnone | hnone
        · rw [hactive] at hnone
          cases hnone
        · exact hnone
      rw [hactive] at hfirst
      rw [hbegun] at hcons
      refine ⟨some tx, hcons, .inl hvacant, ?_⟩
      rw [hvacant]
      exact hfirst

/-- A commit that fails leaves its transaction in use. -/
theorem transaction_of_failed_commit {e : StorageError} (ht : s.tasks t = some (.committing tx))
    (hopen : s.unit.disposed = false) :
    (s.step catalog (.answer t (.ended (.error e)))).1.unit.transaction = some tx := by
  rw [step_answer ht]
  show (s.unit.endCommit t tx (.error e)).unit.transaction = some tx
  rw [UnitOfWork.endCommit, UnitOfWork.keepTransaction_of_open hopen]
  rfl

/-- **One transaction for all**, however calls that begin, commit and roll back interleave on a unit
that stays open, and however sessions and transactions answer them. No two of the calls they make
overlap. While nothing ends, the session begins at most one transaction, and all that come back with
one have the same; after a commit that fails it begins none, and they have the one that could not be
committed. -/
theorem one_transaction_between_endings (catalog : Catalog) (script : List (Signal ρ τ))
    (hopen : (run catalog ({} : Scene ρ τ) script).unit.disposed = false) :
    (∀ t t', ((run catalog {} script).outstanding? t).isSome = true →
      ((run catalog {} script).outstanding? t').isSome = true → t = t') ∧
    (∀ before during, script = before ++ during →
      NothingEnds catalog (run catalog {} before) during →
      (begins catalog (run catalog {} before) during).length ≤ 1 ∧
        ∀ tx ∈ handles catalog (run catalog {} before) during,
          ∀ tx' ∈ handles catalog (run catalog {} before) during, tx = tx') ∧
    ∀ before t tx e during, script = before ++ .answer t (.ended (.error e)) :: during →
      (run catalog {} before).tasks t = some (.committing tx) →
      let failed := (step catalog (run catalog {} before) (.answer t (.ended (.error e)))).1
      NothingEnds catalog failed during →
      begins catalog failed during = [] ∧ ∀ tx' ∈ handles catalog failed during, tx' = tx := by
  have hstart : ({} : Scene ρ τ).Guarded := .start
  refine ⟨fun t t' => (hstart.run script hopen).outstanding_unique,
    fun before during hsplit hquiet => ?_, fun before t tx e during hsplit ht => ?_⟩
  · subst hsplit
    rw [run_append] at hopen
    have hbefore := hstart.run before (open_of_run catalog _ during hopen)
    obtain ⟨made, hbegins, -, hhandles⟩ := hbefore.stretch during hopen hquiet
    refine ⟨?_, fun tx htx tx' htx' => ?_⟩
    · rw [hbegins]
      exact Option.length_toList_le
    · exact Option.some.inj ((hhandles tx htx).symm.trans (hhandles tx' htx'))
  · intro failed hquiet
    subst hsplit
    rw [run_append] at hopen
    have hfailed : failed.unit.disposed = false := open_of_run catalog failed during hopen
    have hthen : (run catalog ({} : Scene ρ τ) before).unit.disposed = false :=
      open_of_step _ hfailed
    have hactive : failed.unit.transaction = some tx := transaction_of_failed_commit ht hthen
    obtain ⟨made, hbegins, hnone, hhandles⟩ :=
      ((hstart.run before hthen).step _ hfailed).stretch during hopen hquiet
    rw [hactive] at hnone hhandles
    obtain rfl : made = none := hnone.resolve_left nofun
    exact ⟨hbegins, fun tx' htx' => Option.some.inj (hhandles tx' htx').symm⟩

/-- A call on begin comes while a transaction is being committed, and has to wait. -/
def beginDuringCommit : List (Signal Unit String) :=
  [.start 0 (.gated .begin), .answer 0 (.begun (.ok "first")), .start 1 (.gated .commit),
    .start 2 (.gated .begin)]

/-- The commit fails; the call that waits goes on, and there is another one. -/
def beginAfterFailure : List (Signal Unit String) := [.wake 2, .start 3 (.gated .begin)]

theorem begin_around_failed_commit :
    let catalog := Catalog.ofTypes []
    let committing := run catalog {} beginDuringCommit
    let failed := (committing.step catalog (.answer 1 (.ended (.error .cancelled)))).1
    (committing.outstanding? 1).isSome = true ∧
      (∀ t, (committing.outstanding? t).isSome = true → 1 = t) ∧
      failed.NothingEnds catalog beginAfterFailure ∧
      handles catalog failed beginAfterFailure = ["first", "first"] ∧
      begins catalog failed beginAfterFailure = [] ∧
      ∀ tx ∈ handles catalog failed beginAfterFailure, tx = "first" := by
  intro catalog committing failed
  have hopen : (run catalog {} (beginDuringCommit ++
      .answer 1 (.ended (.error .cancelled)) :: beginAfterFailure)).unit.disposed = false := by cbv
  obtain ⟨halone, -, -⟩ := one_transaction_between_endings catalog beginDuringCommit rfl
  obtain ⟨-, -, hafter⟩ := one_transaction_between_endings catalog _ hopen
  have hasked : (committing.outstanding? 1).isSome = true := rfl
  have hquiet : failed.NothingEnds catalog beginAfterFailure := by
    rw [beginAfterFailure, nothingEnds_cons, nothingEnds_cons, nothingEnds_nil]
    -- tasks that have not come yet end nothing either
    refine ⟨?_, ?_, ?_⟩ <;> rintro (_ | _ | _ | _ | t) <;> rfl
  have hgiven : handles catalog failed beginAfterFailure = ["first", "first"] := by cbv
  obtain ⟨hbegins, hhandles⟩ := hafter beginDuringCommit 1 "first" .cancelled beginAfterFailure
    rfl rfl hquiet
  exact ⟨hasked, fun t => halone 1 t hasked, hquiet, hgiven, hbegins, hhandles⟩

end Scene

end RowSpec
