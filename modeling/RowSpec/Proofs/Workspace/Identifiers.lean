import RowSpec.Proofs.Store.Identifiers
import RowSpec.Proofs.Workspace.Copies
import RowSpec.Proofs.Workspace.Parallel

/-!
# Identifiers in tables and in copies

An insert looks for its identifier in one place only, the copy or the table that it writes to. As
copies come from the table, and as a commit puts a whole copy in the place of the table, no two rows
of one place ever share an identifier.

* `Storage.Distinct`        the rows of a table and those of each copy have distinct identifiers;
* `Distinct.putRows`, `distinct_answersAlike`   what keeps it, writes and sessions;
* `Workspace.Reaches`       what is done in a workspace, by calls as a whole or turn by turn;
* `Reaches.distinct`        identifiers stay distinct.
-/

namespace RowSpec

variable {ε : Type}

/-! ## what sessions keep -/

theorem Storage.answersAlike_of_kept {P : Storage ε → Prop}
    (hbegin : ∀ st s cancelled, P st → P (st.begin s cancelled).1)
    (hsave : ∀ st s cancelled, P st → P (st.save s cancelled).1)
    (hcommit : ∀ st s cancelled, P st → P (st.commit s cancelled).1)
    (hrollback : ∀ st s cancelled, P st → P (st.rollback s cancelled).1) :
    AnswersAlike fun st st' => st' = st ∧ P st where
  remote h s := by rw [h.1]
  begin h s cancelled := by
    obtain ⟨rfl, h⟩ := h
    exact ⟨⟨rfl, hbegin _ s cancelled h⟩, rfl⟩
  save h s cancelled := by
    obtain ⟨rfl, h⟩ := h
    exact ⟨⟨rfl, hsave _ s cancelled h⟩, rfl⟩
  commit h s cancelled := by
    obtain ⟨rfl, h⟩ := h
    exact ⟨⟨rfl, hcommit _ s cancelled h⟩, rfl⟩
  rollback h s cancelled := by
    obtain ⟨rfl, h⟩ := h
    exact ⟨⟨rfl, hrollback _ s cancelled h⟩, rfl⟩

/-- What sessions keep is kept by all that comes down to their answers. -/
theorem Workspace.Parallel.keeps {α : Type} {P : Storage ε → Prop}
    {f : Workspace ε → Workspace ε × α} (hf : Parallel (fun st st' => st' = st ∧ P st) f)
    {ws : Workspace ε} (h : P ws.storage) : P (f ws).1.storage := by
  obtain ⟨_, ⟨_, hkept⟩, _⟩ := hf ws ws.storage ⟨rfl, h⟩
  exact hkept

/-! ## copies that sessions hold -/

namespace Session

def copy (s : Session ε) (k : TableId) : Option (List ε) := s.staged.bind fun staged => staged k

/-- The copies of `s'` are copies of `s`. -/
def NoMore (s s' : Session ε) : Prop := ∀ k rows, s'.copy k = some rows → s.copy k = some rows

theorem NoMore.refl (s : Session ε) : s.NoMore s := fun _ _ => id

theorem noMore_of_staged {s s' : Session ε} (h : s'.staged = s.staged) : s.NoMore s' := by
  intro k rows hk
  unfold copy at hk ⊢
  rw [← h]
  exact hk

theorem noMore_of_no_copy {s s' : Session ε} (h : ∀ k, s'.copy k = none) : s.NoMore s' := by
  intro k rows hk
  rw [h k] at hk
  cases hk

theorem overWire_noMore {α : Type} (call : RemoteCall)
    {go : Session ε → Session ε × Except StorageError α} (s : Session ε)
    (h : s.NoMore (go s).1) : s.NoMore (overWire call go s).1 := by
  unfold overWire
  split
  · exact noMore_of_staged rfl
  · exact h

theorem begin_noMore (s : Session ε) (cancelled : Bool) : s.NoMore (s.begin cancelled).1 := by
  refine overWire_noMore .begin s ?_
  split
  · exact .refl s
  · split
    · exact .refl s
    · exact noMore_of_no_copy fun _ => rfl

theorem save_noMore (s : Session ε) (cancelled : Bool) : s.NoMore (s.save cancelled).1 := by
  refine overWire_noMore .save s ?_
  split
  · exact .refl s
  · exact noMore_of_staged rfl

theorem rollback_noMore (s : Session ε) (cancelled : Bool) :
    s.NoMore (s.rollback cancelled).1 := by
  refine overWire_noMore .rollback s ?_
  split
  · exact .refl s
  · exact noMore_of_no_copy fun _ => rfl

/-- A commit gives each table the rows that it had, or those of the copy. -/
theorem commit_noMore (s : Session ε) (cancelled : Bool) (tables : TableId → Table ε) :
    s.NoMore (s.commit cancelled tables).1 ∧
      ∀ k, (s.commit cancelled tables).2.1 k = tables k ∨
        ∃ rows, s.copy k = some rows ∧
          (s.commit cancelled tables).2.1 k = (tables k).withRows rows := by
  unfold commit
  split
  · exact ⟨.refl s, fun _ => .inl rfl⟩
  · split
    · exact ⟨noMore_of_staged rfl, fun _ => .inl rfl⟩
    · refine ⟨noMore_of_no_copy fun _ => rfl, fun k => ?_⟩
      cases hs : s.staged with
      | none => exact .inl rfl
      | some staged =>
        show publish staged tables k = _ ∨ ∃ rows, _ ∧ publish staged tables k = _
        unfold publish copy
        rw [hs, Option.bind_some]
        cases staged k with
        | none => exact .inl rfl
        | some rows => exact .inr ⟨rows, rfl, rfl⟩

end Session

variable [Entity ε]

/-! ## storages -/

namespace Storage

structure Distinct (st : Storage ε) (k : TableId) : Prop where
  committed : DistinctIds (st.tables k).rows
  staged : ∀ s rows, st.copy s k = some rows → DistinctIds rows

variable {st : Storage ε} {k : TableId}

/-- What a session sees is its copy or the table. -/
theorem Distinct.seen (h : st.Distinct k) (through : Option SessionId) :
    DistinctIds (st.table through k).rows := by
  cases through with
  | none => exact h.committed
  | some s =>
    cases hc : st.copy s k with
    | none =>
      rw [table_of_copy_none hc]
      exact h.committed
    | some rows =>
      rw [table_of_copy hc]
      exact h.staged s rows hc

theorem Distinct.setSession (h : st.Distinct k) {i : SessionId} {s : Session ε}
    (hs : ∀ rows, s.copy k = some rows → DistinctIds rows) : (st.setSession i s).Distinct k where
  committed := h.committed
  staged j rows hj := by
    change (replace st.sessions i s j).copy k = some rows at hj
    by_cases hij : j = i
    · subst hij
      rw [replace_same] at hj
      exact hs rows hj
    · rw [replace_other _ _ hij] at hj
      exact h.staged j rows hj

theorem Distinct.putRows (h : st.Distinct k) (through : Option SessionId) {j : TableId}
    {rows : List ε} (hrows : j = k → DistinctIds rows) : (st.putRows through j rows).Distinct k := by
  have hdirect : (st.setTable j ((st.tables j).withRows rows)).Distinct k := by
    refine ⟨?_, h.staged⟩
    change DistinctIds (replace st.tables j _ k).rows
    by_cases hjk : k = j
    · subst hjk
      rw [replace_same]
      exact hrows rfl
    · rw [replace_other _ _ hjk]
      exact h.committed
  cases through with
  | none => exact hdirect
  | some i =>
    cases hi : (st.sessions i).staged with
    | none =>
      rw [putRows_unstaged hi]
      exact hdirect
    | some staged =>
      rw [putRows_staged hi]
      refine h.setSession fun rows' hk => ?_
      change replace staged j (some rows) k = some rows' at hk
      by_cases hjk : k = j
      · subst hjk
        rw [replace_same] at hk
        obtain rfl := Option.some.inj hk
        exact hrows rfl
      · rw [replace_other _ _ hjk] at hk
        refine h.staged i rows' ?_
        unfold copy
        rw [hi]
        exact hk

theorem Distinct.commit (h : st.Distinct k) (i : SessionId) (cancelled : Bool) :
    (st.commit i cancelled).1.Distinct k := by
  obtain ⟨hcopies, htables⟩ := (st.sessions i).commit_noMore cancelled st.tables
  refine ⟨?_, (h.setSession (i := i) fun rows hk => h.staged i rows (hcopies k rows hk)).staged⟩
  change DistinctIds (((st.sessions i).commit cancelled st.tables).2.1 k).rows
  rcases htables k with he | ⟨rows, hcopy, he⟩
  · rw [he]
    exact h.committed
  · rw [he]
    exact h.staged i rows hcopy

theorem distinct_answersAlike (k : TableId) :
    AnswersAlike fun st st' : Storage ε => st' = st ∧ st.Distinct k :=
  answersAlike_of_kept
    (fun st i cancelled h => h.setSession fun rows hk =>
      h.staged i rows ((st.sessions i).begin_noMore cancelled k rows hk))
    (fun st i cancelled h => h.setSession fun rows hk =>
      h.staged i rows ((st.sessions i).save_noMore cancelled k rows hk))
    (fun _ i cancelled h => h.commit i cancelled)
    (fun st i cancelled h => h.setSession fun rows hk =>
      h.staged i rows ((st.sessions i).rollback_noMore cancelled k rows hk))

end Storage

theorem Table.rowsAfter_distinct (hfixed : FixedIds ε) {t : Table ε} (h : DistinctIds t.rows)
    (w : Write ε) : DistinctIds (t.rowsAfter w) := by
  unfold rowsAfter
  cases hw : t.apply w with
  | error e => exact h
  | ok r => exact h.apply hfixed hw

/-! ## workspaces -/

namespace Workspace

variable {ws : Workspace ε} {k : TableId}

/-- An action keeps identifiers distinct. -/
theorem distinct_perform (hfixed : FixedIds ε) (h : ws.storage.Distinct k) (a : Action ε) :
    (ws.perform a).1.storage.Distinct k := by
  cases a with
  | call i c cancelled => exact (call_parallel (Storage.distinct_answersAlike k) i c cancelled).keeps h
  | read r question cancelled => exact h
  | change r c cancelled =>
    change (r.change ws.storage c cancelled).1.Distinct k
    cases cancelled with
    | true =>
      rw [Repository.change_cancelled]
      exact h
    | false =>
      rw [Repository.change_live]
      refine h.putRows r.session fun hk => ?_
      subst hk
      exact Table.rowsAfter_distinct hfixed (h.seen r.session) _
  | rejectCommit i => exact h.setSession fun rows hk => h.staged i rows hk

/-- One workspace is another later on. Calls are made one by one, or their tasks take turns with
those of other calls. -/
inductive Reaches (start : Workspace ε) : Workspace ε → Prop
  | refl : Reaches start start
  | perform {ws : Workspace ε} (h : Reaches start ws) (a : Action ε) : Reaches start (ws.perform a).1
  | launch {ws : Workspace ε} (h : Reaches start ws) (i : UnitId) (c : UnitCall)
    (cancelled : Bool) : Reaches start (ws.launch i c cancelled).1
  | poll {ws : Workspace ε} (h : Reaches start ws) (i : UnitId) (t : TaskId) :
    Reaches start (ws.poll i t).1
  | openUnit {ws : Workspace ε} (h : Reaches start ws) (i : UnitId) (s : SessionId) :
    Reaches start (ws.openUnit i s).1
  | dropUnit {ws : Workspace ε} (h : Reaches start ws) (i : UnitId) :
    Reaches start (ws.dropUnit i).1

theorem Reaches.after {start : Workspace ε} (h : start.Reaches ws) (run : List (Action ε)) :
    start.Reaches (ws.after run) := by
  induction run generalizing ws with
  | nil => exact h
  | cons a rest ih => exact ih (h.perform a)

/-- **Identifiers stay distinct** in every table and in every session's copy of it, whatever the
units do, and wherever the tasks of their calls have come to. -/
theorem Reaches.distinct (hfixed : FixedIds ε) {start now : Workspace ε}
    (hfree : ∀ s, (start.storage.sessions s).staged = none) {k : TableId}
    (hrows : DistinctIds (start.storage.tables k).rows) (h : start.Reaches now) :
    DistinctIds (now.storage.tables k).rows ∧
      ∀ s rows, now.storage.copy s k = some rows → DistinctIds rows := by
  suffices hdistinct : now.storage.Distinct k from ⟨hdistinct.committed, hdistinct.staged⟩
  induction h with
  | refl =>
    refine ⟨hrows, fun s rows hs => ?_⟩
    unfold Storage.copy at hs
    rw [hfree s] at hs
    cases hs
  | perform _ a ih => exact distinct_perform hfixed ih a
  | launch _ i c cancelled ih =>
    exact (launch_parallel (Storage.distinct_answersAlike k) i c cancelled).keeps ih
  | poll _ i t ih => exact (turns_parallel (Storage.distinct_answersAlike k) i t 4).keeps ih
  | openUnit _ i s ih => exact ih
  | dropUnit _ i ih => exact ih

/-- Two sessions insert one identifier each into what they see, and a commit leaves one of them. -/
theorem pairOfUnits_distinct :
    let now := pairOfUnits.after
      [.call "u1" (.gated .begin) false,
        .change (jobsThrough "s1") (.insert (jobOf 1)) false,
        .change (jobsThrough "s2") (.insert (jobOf 1)) false,
        .change (jobsThrough "s2") (.insert (jobOf 2)) false,
        .call "u1" (.gated .commit) false,
        .change (jobsThrough "s1") (.insert (jobOf 1)) false]
    FixedIds Keyed ∧ (∀ s, (pairOfUnits.storage.sessions s).staged = none) ∧
      DistinctIds (pairOfUnits.storage.tables "jobs").rows ∧ pairOfUnits.Reaches now ∧
      (now.storage.tables "jobs").rows = [jobOf 1] ∧
      DistinctIds (now.storage.tables "jobs").rows := by
  intro now
  have hreach : pairOfUnits.Reaches now := Reaches.refl.after _
  have hrows : DistinctIds (pairOfUnits.storage.tables "jobs").rows := List.Pairwise.nil
  exact ⟨KeyedBy.fixedIds, pairOfUnits_opened.staged, hrows, hreach, by decide,
    (hreach.distinct KeyedBy.fixedIds pairOfUnits_opened.staged hrows).1⟩

end Workspace

end RowSpec
