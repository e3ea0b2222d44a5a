import RowSpec.Proofs.Workspace.Isolation
import RowSpec.Proofs.Workspace.Parallel

/-!
# Transactions rolled back

A transaction that is rolled back leaves no trace. Two runs are compared, one with the accesses
through its session and one without them. Their storages differ in the copies of that session only,
which nobody else sees, and which a rollback throws away.

* `Session.bare`            a session without the rows of its copies;
* `bare_answersAlike`       calls take no notice of these rows;
* `Storage.AlikeBut s`      storages that differ in the copies of one session only;
* `Settled.call_aside`, `Within.perform_aside`, `Within.perform_through`   one step of both runs;
* `Within.after_aside`      the runs up to the end of the transaction;
* `rolled_back_without_trace`   the end of it, and what the others see.
-/

namespace RowSpec

variable {ε : Type}

/-! ## sessions without copies -/

namespace Session

/-- the session with empty copies in its transaction, if it is in one -/
def bare (s : Session ε) : Session ε := { s with staged := s.staged.map fun _ _ => none }

theorem eq_of_bare {s s' : Session ε} (h : s'.bare = s.bare) (hstaged : s'.staged = s.staged) :
    s' = s := by
  cases s
  cases s'
  cases hstaged
  simp only [bare, mk.injEq, true_and] at h ⊢
  exact h

theorem staged_none_of_bare {s s' : Session ε} (h : s'.bare = s.bare) :
    s'.staged = none ↔ s.staged = none := by
  rw [← Option.map_eq_none_iff (x := s'.staged), ← Option.map_eq_none_iff (x := s.staged)]
  exact iff_of_eq (congrArg (·.staged = none) h)

theorem overWire_bare {α : Type} (call : RemoteCall)
    {go : Session ε → Session ε × Except StorageError α} (s : Session ε)
    (h : go s.bare = ((go s).1.bare, (go s).2)) :
    overWire call go s.bare = ((overWire call go s).1.bare, (overWire call go s).2) := by
  unfold overWire
  rw [show s.bare.refusal? call = s.refusal? call from rfl]
  cases s.refusal? call with
  | none => exact h
  | some fault => rfl

theorem begin_bare (s : Session ε) (cancelled : Bool) :
    s.bare.begin cancelled = ((s.begin cancelled).1.bare, (s.begin cancelled).2) := by
  refine overWire_bare .begin s ?_
  have hactive : s.bare.inTransaction = s.inTransaction := Option.isSome_map
  rw [hactive]
  cases cancelled with
  | true => rfl
  | false => cases s.inTransaction <;> rfl

theorem save_bare (s : Session ε) (cancelled : Bool) :
    s.bare.save cancelled = ((s.save cancelled).1.bare, (s.save cancelled).2) := by
  refine overWire_bare .save s ?_
  cases cancelled <;> rfl

theorem rollback_bare (s : Session ε) (cancelled : Bool) :
    s.bare.rollback cancelled = ((s.rollback cancelled).1.bare, (s.rollback cancelled).2) := by
  refine overWire_bare .rollback s ?_
  cases cancelled <;> rfl

/-- Whether a commit succeeds has nothing to do with rows. -/
theorem commit_bare (s : Session ε) (cancelled : Bool) (tables tables' : TableId → Table ε) :
    (s.bare.commit cancelled tables').1 = (s.commit cancelled tables).1.bare ∧
      (s.bare.commit cancelled tables').2.2 = (s.commit cancelled tables).2.2 := by
  unfold commit
  rw [show s.bare.rejectsCommit = s.rejectsCommit from rfl]
  cases cancelled with
  | true => exact ⟨rfl, rfl⟩
  | false => cases s.rejectsCommit <;> exact ⟨rfl, rfl⟩

end Session

namespace Storage

variable {st st' : Storage ε} {s : SessionId}

def BareAlike (st st' : Storage ε) : Prop :=
  ∀ s, (st'.sessions s).bare = (st.sessions s).bare

theorem BareAlike.replace (h : st.BareAlike st') (i : SessionId) {x x' : Session ε}
    (hx : x'.bare = x.bare) (s : SessionId) :
    (RowSpec.replace st'.sessions i x' s).bare = (RowSpec.replace st.sessions i x s).bare := by
  by_cases hs : s = i
  · subst hs
    rw [replace_same, replace_same, hx]
  · rw [replace_other _ _ hs, replace_other _ _ hs, h s]

theorem BareAlike.onSession {α : Type} (h : st.BareAlike st') (i : SessionId)
    {call : Session ε → Session ε × Except StorageError α}
    (hcall : ∀ s, call s.bare = ((call s).1.bare, (call s).2)) :
    (st.onSession i call).1.BareAlike (st'.onSession i call).1 ∧
      (st'.onSession i call).2 = (st.onSession i call).2 := by
  have hboth : ((call (st'.sessions i)).1.bare, (call (st'.sessions i)).2) =
      ((call (st.sessions i)).1.bare, (call (st.sessions i)).2) := by
    rw [← hcall, ← hcall, h i]
  exact ⟨h.replace i (Prod.mk.inj hboth).1, (Prod.mk.inj hboth).2⟩

/-- Sessions answer whatever rows their copies have. -/
theorem bare_answersAlike : AnswersAlike (BareAlike (ε := ε)) where
  remote h s := by
    have hremote := congrArg Session.remote (h s)
    exact hremote
  begin h i cancelled := h.onSession i (Session.begin_bare · cancelled)
  save h i cancelled := h.onSession i (Session.save_bare · cancelled)
  rollback h i cancelled := h.onSession i (Session.rollback_bare · cancelled)
  commit {st st'} h i cancelled := by
    obtain ⟨hleft, hresult⟩ := (st.sessions i).commit_bare cancelled st.tables st.tables
    obtain ⟨hleft', hresult'⟩ := (st'.sessions i).commit_bare cancelled st'.tables st.tables
    rw [h i] at hleft' hresult'
    exact ⟨h.replace i (hleft'.symm.trans hleft), hresult'.symm.trans hresult⟩

/-! ## storages that differ in one session -/

structure AlikeBut (s : SessionId) (st st' : Storage ε) : Prop where
  tables : st'.tables = st.tables
  /-- the session's copies may have other rows -/
  own : (st'.sessions s).bare = (st.sessions s).bare
  others : ∀ s', s' ≠ s → st'.sessions s' = st.sessions s'

theorem AlikeBut.refl (s : SessionId) (st : Storage ε) : st.AlikeBut s st :=
  ⟨rfl, rfl, fun _ _ => rfl⟩

theorem AlikeBut.bareAlike (h : st.AlikeBut s st') : st.BareAlike st' := by
  intro s'
  by_cases hs : s' = s
  · rw [hs, h.own]
  · rw [h.others s' hs]

/-- What is seen past the session is the same. -/
theorem AlikeBut.seen (h : st.AlikeBut s st') {through : Option SessionId}
    (hthrough : through ≠ some s) (k : TableId) : st'.table through k = st.table through k := by
  cases through with
  | none => exact congrFun h.tables k
  | some i =>
    have hi : i ≠ s := fun he => hthrough (congrArg some he)
    show (st'.sessions i).table st'.tables k = (st.sessions i).table st.tables k
    rw [h.others i hi, h.tables]

theorem AlikeBut.setSession (h : st.AlikeBut s st') {i : SessionId} {x x' : Session ε}
    (hown : i = s → x'.bare = x.bare) (hother : i ≠ s → x' = x) :
    (st.setSession i x).AlikeBut s (st'.setSession i x') where
  tables := h.tables
  own := by
    refine h.bareAlike.replace i ?_ s
    by_cases hi : i = s
    · exact hown hi
    · rw [hother hi]
  others s' hs := by
    show replace st'.sessions i x' s' = replace st.sessions i x s'
    by_cases hi : s' = i
    · rw [hi, replace_same, replace_same, hother (hi ▸ hs)]
    · rw [replace_other _ _ hi, replace_other _ _ hi, h.others s' hs]

theorem AlikeBut.putRows (h : st.AlikeBut s st') {through : Option SessionId}
    (hthrough : through ≠ some s) (k : TableId) (rows : List ε) :
    (st.putRows through k rows).AlikeBut s (st'.putRows through k rows) := by
  have hdirect : (st.setTable k ((st.tables k).withRows rows)).AlikeBut s
      (st'.setTable k ((st'.tables k).withRows rows)) := by
    refine ⟨?_, h.own, h.others⟩
    show replace st'.tables k _ = replace st.tables k _
    rw [h.tables]
  cases through with
  | none => exact hdirect
  | some i =>
    have hi : i ≠ s := fun he => hthrough (congrArg some he)
    have hsame := h.others i hi
    cases hstaged : (st.sessions i).staged with
    | none =>
      rw [putRows_unstaged hstaged, putRows_unstaged (hsame ▸ hstaged)]
      exact hdirect
    | some staged =>
      rw [putRows_staged hstaged, putRows_staged (hsame ▸ hstaged), hsame]
      exact h.setSession (fun he => absurd he hi) fun _ => rfl

/-- Rows put into the copies of the session. -/
theorem AlikeBut.putRows_own (h : st.AlikeBut s st') {staged : TableId → Option (List ε)}
    (hstaged : (st.sessions s).staged = some staged) (k : TableId) (rows : List ε) :
    (st.putRows (some s) k rows).AlikeBut s st' := by
  have hbare : (st.sessions s).bare =
      Session.bare { st.sessions s with staged := some (replace staged k (some rows)) } := by
    unfold Session.bare
    rw [hstaged]
    rfl
  rw [putRows_staged hstaged]
  refine ⟨h.tables, ?_, fun s' hs => ?_⟩
  · show _ = (replace st.sessions s _ s).bare
    rw [replace_same, ← hbare, h.own]
  · show _ = replace st.sessions s _ s'
    rw [replace_other _ _ hs, h.others s' hs]

/-- Out of its transaction the session has no copies. -/
theorem AlikeBut.eq_of_unstaged (h : st.AlikeBut s st') (hs : (st.sessions s).staged = none) :
    st' = st := by
  have hown : st'.sessions s = st.sessions s := by
    refine Session.eq_of_bare h.own ?_
    rw [hs, (Session.staged_none_of_bare h.own).mpr hs]
  have hsessions : st'.sessions = st.sessions := by
    funext s'
    by_cases he : s' = s
    · rw [he, hown]
    · exact h.others s' he
  cases st
  cases st'
  cases h.tables
  cases hsessions
  rfl

end Storage

/-! ## calls on both sides -/

section
variable {p p₁ p₂ : Standing ε} {cancelled : Bool} {c : UnitCall}
  {reply : Option (Reply Repository Transaction)}

/-- A call changes rows when it commits a transaction, and at no other time. -/
theorem CallEffect.tables_eq (h : CallEffect p p₁ cancelled c reply) :
    (c = .gated .commit ∧ p.unit.transaction ≠ none ∧ (∃ x, reply = some (.ok x)) ∧
      p₁.tables = Session.publish (p.session.staged.getD fun _ => none) p.tables) ∨
    ¬ (c = .gated .commit ∧ p.unit.transaction ≠ none ∧ ∃ x, reply = some (.ok x)) ∧
      p₁.tables = p.tables := by
  cases h with
  | quiet cause still =>
    refine .inr ⟨?_, still.tables⟩
    rintro ⟨rfl, hheld, x, hx⟩
    cases cause with
    | shut _ _ _ denied =>
      obtain ⟨e, he⟩ := denied .commit rfl (by decide)
      rw [hx] at he
      cases he
    | refused => cases hx
    | rejected => cases hx
    | pendingSaved free => exact hheld free
  | begun _ _ _ _ _ _ _ tables => exact .inr ⟨fun h => (by cases h.1), tables⟩
  | committed _ _ held _ _ _ tables =>
    refine .inl ⟨rfl, ?_, ⟨_, rfl⟩, tables⟩
    rw [held]
    exact Option.some_ne_none _
  | rolledBack _ _ _ _ _ _ tables => exact .inr ⟨fun h => (by cases h.1), tables⟩
  | lost _ _ _ _ _ _ _ tables => exact .inr ⟨fun h => (by cases h.1), tables⟩
  | ended _ fits _ _ _ _ tables =>
    refine .inr ⟨fun h => ?_, tables⟩
    rcases fits with he | he <;> rw [he] at h <;> cases h.1

/-- A session comes out of a call without copies, with those it had, or with a new transaction. -/
theorem CallEffect.staged_cases (h : CallEffect p p₁ cancelled c reply) :
    p₁.session.staged = none ∨ p₁.session.staged = p.session.staged ∨
      p.session.staged = none ∧ p₁.session.staged = some fun _ => none := by
  cases h with
  | quiet _ still => exact .inr (.inl still.staged)
  | begun _ _ _ unstaged _ _ staged => exact .inr (.inr ⟨unstaged, staged⟩)
  | committed _ _ _ _ _ unstaged => exact .inl unstaged
  | rolledBack _ _ _ _ _ unstaged => exact .inl unstaged
  | lost _ _ _ _ _ _ staged => exact .inr (.inl staged)
  | ended _ _ _ _ _ staged => exact staged.imp_right .inl

theorem CallEffect.unstaged_of_rollback {x : Product Repository Transaction}
    (h : CallEffect p p₁ cancelled (.gated .rollback) reply) (hopen : p.unit.disposed = false)
    (htx : p.unit.transaction ≠ none) (hreply : reply = some (.ok x)) :
    p₁.session.staged = none := by
  cases h with
  | quiet cause _ =>
    cases cause with
    | shut _ _ disposed => exact absurd (hopen.symm.trans disposed) Bool.false_ne_true
    | refused => cases hreply
    | nothingToRollBack free => exact absurd free htx
  | rolledBack _ _ _ _ _ unstaged => exact unstaged
  | lost => cases hreply
  | ended _ fits => rcases fits with ⟨⟨⟩⟩ | ⟨⟨⟩⟩

/-- What comes of the rows does not depend on the session, unless the call commits its copies. -/
theorem CallEffect.tables_agree {q q₁ : Standing ε} (h : CallEffect p p₁ cancelled c reply)
    (h' : CallEffect q q₁ cancelled c reply) (hunit : q.unit = p.unit) (htables : q.tables = p.tables)
    (hcommit : c = .gated .commit ∧ p.unit.transaction ≠ none ∧ (∃ x, reply = some (.ok x)) →
      q.session = p.session) :
    q₁.tables = p₁.tables := by
  rcases h.tables_eq with ⟨hc, hheld, hx, hp⟩ | ⟨hno, hp⟩ <;>
    rcases h'.tables_eq with ⟨hc', hheld', hx', hq⟩ | ⟨hno', hq⟩
  · rw [hp, hq, hcommit ⟨hc, hheld, hx⟩, htables]
  · exact absurd ⟨hc, hunit ▸ hheld, hx⟩ hno'
  · exact absurd ⟨hc', hunit ▸ hheld', hx'⟩ hno
  · rw [hp, hq, htables]

theorem CallEffect.staged_agree {reply' : Option (Reply Repository Transaction)}
    (h₁ : CallEffect p p₁ cancelled c reply) (h₂ : CallEffect p p₂ cancelled c reply')
    (hnone : p₂.session.staged = none ↔ p₁.session.staged = none) :
    p₂.session.staged = p₁.session.staged := by
  rcases h₁.staged_cases with h₁ | h₁ | ⟨hp, h₁⟩ <;> rcases h₂.staged_cases with h₂ | h₂ | ⟨hp', h₂⟩
  all_goals simp_all

end

namespace Workspace

variable {ws : Workspace ε} {st : Storage ε} {i : UnitId} {s : SessionId}

theorem Settled.on (h : ws.Settled) (ha : ws.storage.BareAlike st) : (ws.on st).Settled :=
  h.congr rfl fun s' =>
    ⟨Storage.bare_answersAlike.remote ha s', Session.staged_none_of_bare (ha s')⟩

/-- **A call** that does not commit the copies comes out the same on both sides. -/
theorem Settled.call_aside (h : ws.Settled) (ha : ws.storage.AlikeBut s st) (j : UnitId)
    (c : UnitCall) (cancelled : Bool)
    (hkeep : ∀ w, ws.units j = some w → w.session = s → ¬ (c = .gated .commit ∧
      w.unit.transaction ≠ none ∧ ∃ x, (ws.call j c cancelled).2.2 = some (.ok x))) :
    Over (Storage.AlikeBut s) (ws.call j c cancelled) ((ws.on st).call j c cancelled) := by
  obtain ⟨st', hbare, he⟩ : ∃ st', (ws.call j c cancelled).1.storage.BareAlike st' ∧
      (ws.on st).call j c cancelled = ((ws.call j c cancelled).1.on st',
        (ws.call j c cancelled).2) :=
    call_parallel Storage.bare_answersAlike j c cancelled ws st ha.bareAlike
  refine ⟨st', ?_, he⟩
  have hright : ((ws.on st).call j c cancelled).1.storage = st' := by rw [he]; rfl
  cases hw : ws.units j with
  | none =>
    rw [call_of_none (show (ws.on st).units j = none from hw)] at hright
    rw [call_of_none hw, ← hright]
    exact ha
  | some w =>
    obtain ⟨v, hv⟩ := call_effect hw (h.rest j w hw) (h.remote w.session) c cancelled
    have hon := h.on ha.bareAlike
    have hw' : (ws.on st).units j = some w := hw
    obtain ⟨v', hv'⟩ := call_effect hw' (hon.rest j w hw) (hon.remote w.session) c cancelled
    have heffect := hv'.effect
    rw [he] at heffect
    refine ⟨?_, hbare s, fun s' hs => ?_⟩
    · exact hv.effect.tables_agree heffect rfl ha.tables fun hcommit =>
        ha.others w.session fun hs => hkeep w hw hs hcommit
    by_cases hsw : s' = w.session
    · subst hsw
      have hstanding : (ws.on st).standing w = ws.standing w :=
        congrArg₂ (Standing.mk w.unit) (ha.others w.session hs) ha.tables
      rw [hstanding] at heffect
      have hagree := hv.effect.staged_agree heffect
      unfold standing at hagree
      dsimp only at hagree
      rw [hv.session, hv'.session] at hagree
      exact Session.eq_of_bare (hbare w.session)
        (hagree (Session.staged_none_of_bare (hbare w.session)))
    · rw [← hright, hv'.others s' hsw, hv.others s' hsw]
      exact ha.others s' hs

end Workspace

variable [Entity ε]

/-! ## actions on both sides -/

/-- a reading or a change through the session -/
def Action.through (s : SessionId) : Action ε → Bool
  | .read r _ _ | .change r _ _ => r.session = some s
  | _ => false

theorem Storage.AlikeBut.change {st st' : Storage ε} {s : SessionId} (h : st.AlikeBut s st')
    {r : Repository} (hr : r.session ≠ some s) (c : Change ε) (cancelled : Bool) :
    (r.change st c cancelled).1.AlikeBut s (r.change st' c cancelled).1 ∧
      (r.change st' c cancelled).2 = (r.change st c cancelled).2 := by
  have hseen := h.seen hr r.table
  refine ⟨?_, r.change_report r.session hseen c cancelled⟩
  cases cancelled with
  | true =>
    rw [Repository.change_cancelled, Repository.change_cancelled]
    exact h
  | false =>
    rw [Repository.change_live, Repository.change_live, hseen]
    exact h.putRows hr _ _

namespace Workspace

variable {ws : Workspace ε} {st : Storage ε} {i : UnitId} {s : SessionId} {a : Action ε}

theorem perform_call (ws : Workspace ε) (i : UnitId) (c : UnitCall) (cancelled : Bool) :
    ws.perform (.call i c cancelled) = ((ws.call i c cancelled).1, (ws.call i c cancelled).2.1,
      .replied (ws.call i c cancelled).2.2) := rfl

/-- An access through the session, on one side only. -/
theorem Within.perform_through (h : ws.Within i s) (halike : ws.storage.AlikeBut s st)
    (ha : a.through s = true) :
    (ws.perform a).1.storage.AlikeBut s st ∧ (ws.perform a).1.on st = ws.on st := by
  cases a with
  | call j c cancelled => cases ha
  | rejectCommit s' => cases ha
  | read r question cancelled => exact ⟨halike, rfl⟩
  | change r c cancelled =>
    refine ⟨?_, rfl⟩
    change (r.change ws.storage c cancelled).1.AlikeBut s st
    cases cancelled with
    | true =>
      rw [Repository.change_cancelled]
      exact halike
    | false =>
      obtain ⟨staged, hstaged⟩ := h.staged
      rw [Repository.change_live, of_decide_eq_true ha]
      exact halike.putRows_own hstaged _ _

/-- **Any other action** comes out the same on both sides. -/
theorem Within.perform_aside (h : ws.Within i s) (halike : ws.storage.AlikeBut s st)
    (ha : a.through s = false) (hends : ¬ ws.EndsTransaction i a) :
    Over (Storage.AlikeBut s) (ws.perform a) ((ws.on st).perform a) := by
  cases a with
  | call j c cancelled =>
    obtain ⟨u, hu, -⟩ := h.unit
    obtain ⟨st', halike', he⟩ := h.settled.call_aside halike j c cancelled
      fun w hw hs ⟨hc, _, hx⟩ =>
        hends ⟨h.settled.apart j i w u hw hu.unit (hs.trans hu.session.symm), .inr (.inr ⟨hc, hx⟩)⟩
    refine ⟨st', halike', ?_⟩
    rw [perform_call, perform_call, he]
  | read r question cancelled =>
    have hreader : r.reader st = r.reader ws.storage := by
      unfold Repository.reader
      rw [halike.seen (of_decide_eq_false ha)]
    refine ⟨st, halike, ?_⟩
    show (ws.on st, ((r.reader st).answer cancelled question).events,
      Outcome.found ((r.reader st).answer cancelled question).result) = _
    rw [hreader]
    rfl
  | change r c cancelled =>
    obtain ⟨halike', hreport⟩ := halike.change (of_decide_eq_false ha) c cancelled
    refine ⟨_, halike', ?_⟩
    show (ws.on (r.change st c cancelled).1, (r.change st c cancelled).2.events,
      Outcome.changed (r.change st c cancelled).2.result) = _
    rw [hreport]
    rfl
  | rejectCommit s' =>
    refine ⟨st.setSession s' { st.sessions s' with rejectsCommit := true }, ?_, rfl⟩
    refine halike.setSession (fun hs => ?_) fun hs => ?_
    · subst hs
      exact congrArg (fun x : Session ε => { x with rejectsCommit := true }) halike.own
    · rw [halike.others s' hs]

/-! ## runs on both sides -/

theorem lasts_append {run more : List (Action ε)} :
    ws.Lasts i (run ++ more) ↔ ws.Lasts i run ∧ (ws.after run).Lasts i more := by
  induction run generalizing ws with
  | nil => exact (iff_of_eq (true_and _)).symm
  | cons a rest ih => exact (and_congr_right fun _ => ih).trans and_assoc.symm

/-- **The runs**, with the accesses through the session and without them. -/
theorem Within.after_aside (h : ws.Within i s) (halike : ws.storage.AlikeBut s st)
    {run : List (Action ε)} (hlasts : ws.Lasts i run) :
    ∃ st', (ws.after run).storage.AlikeBut s st' ∧
      (ws.on st).after (run.filter (!·.through s)) = (ws.after run).on st' := by
  induction run generalizing ws st with
  | nil => exact ⟨st, halike, rfl⟩
  | cons a rest ih =>
    have hrest := h.perform hlasts.1
    cases ha : a.through s with
    | true =>
      obtain ⟨halike₁, he₁⟩ := h.perform_through halike ha
      obtain ⟨st', halike', he'⟩ := ih hrest halike₁ hlasts.2
      refine ⟨st', halike', ?_⟩
      rw [List.filter_cons_of_neg (by rw [ha]; decide), ← he₁]
      exact he'
    | false =>
      obtain ⟨st₁, halike₁, he₁⟩ := h.perform_aside halike ha hlasts.1
      obtain ⟨st', halike', he'⟩ := ih hrest halike₁ hlasts.2
      refine ⟨st', halike', ?_⟩
      rw [List.filter_cons_of_pos (by rw [ha]; rfl)]
      show Workspace.after ((ws.on st).perform a).1 _ = _
      rw [he₁]
      exact he'

/-! ## begin and end of a transaction -/

omit [Entity ε] in
/-- A begin that succeeds, when there was no transaction. -/
theorem Settled.within_begun (h : ws.Settled) {u : HostedUnit} (hu : ws.units i = some u)
    (hfree : ws.hasTransaction i = false) {cancelled : Bool} {x : Product Repository Transaction}
    (hbegin : (ws.call i (.gated .begin) cancelled).2.2 = some (.ok x)) :
    (ws.call i (.gated .begin) cancelled).1.Within i u.session := by
  obtain ⟨v, hv⟩ :=
    call_effect hu (h.rest i u hu) (h.remote u.session) (.gated .begin) cancelled
  have heffect := hv.effect
  rw [hbegin] at heffect
  have hunit : u.unit.hasTransaction = false := by
    unfold hasTransaction at hfree
    rw [hu] at hfree
    exact hfree
  obtain ⟨hopen, htx, -⟩ := heffect.begun_of_ok hunit
  refine ⟨h.call i (.gated .begin) cancelled, v, ⟨?_, hv.session, ?_⟩, htx⟩
  · rw [hv.units, replace_same]
  · exact hv.effect.opened rfl hopen

omit [Entity ε] in
/-- After a rollback or a close that succeeds, the session has no copies. -/
theorem Within.unstaged_of_ended (h : ws.Within i s) {c : UnitCall}
    (hc : c = .gated .rollback ∨ c = .gated .close) {cut : Bool}
    {x : Product Repository Transaction} (hend : (ws.call i c cut).2.2 = some (.ok x)) :
    ((ws.call i c cut).1.storage.sessions s).staged = none := by
  obtain ⟨u, hu, htx⟩ := h.unit
  have hrest := h.settled.rest i u hu.unit
  have hlocal := h.settled.remote u.session
  rcases hc with rfl | rfl
  · obtain ⟨v, hv⟩ := call_effect hu.unit hrest hlocal (.gated .rollback) cut
    have hunstaged := hv.effect.unstaged_of_rollback hu.opened htx hend
    rw [← hu.session, ← hv.session]
    exact hunstaged
  · obtain ⟨tx, htx⟩ := Option.ne_none_iff_exists'.mp htx
    rcases ends_close_of_held hu.unit hrest hlocal hu.opened htx cut with
      ⟨e, _, _, hreply⟩ | ⟨ws', ⟨_, hws, _⟩, _, hunstaged, _⟩
    · rw [hend] at hreply
      cases hreply
    · rw [hws, ← hu.session]
      exact hunstaged

/-- **A transaction that is rolled back leaves no trace.** Take a rollback or a close that succeeds,
and leave out of the run whatever was done through the session in the transaction that it ends. At
each point of the run the tables are the same, every other action has the same outcome, and from
the end of the transaction on all goes as before. -/
theorem rolled_back_without_trace {start : Workspace ε} (h : start.Opened)
    {before : List (Action ε)} {u : HostedUnit} (hu : (start.after before).units i = some u)
    (hfree : (start.after before).hasTransaction i = false) {cancelled : Bool}
    {x : Product Repository Transaction}
    (hbegin : ((start.after before).call i (.gated .begin) cancelled).2.2 = some (.ok x))
    {during : List (Action ε)}
    (hlasts : ((start.after before).call i (.gated .begin) cancelled).1.Lasts i during)
    {c : UnitCall} (hc : c = .gated .rollback ∨ c = .gated .close) {cut : Bool}
    {y : Product Repository Transaction}
    (hend : ((((start.after before).call i (.gated .begin) cancelled).1.after during).call i c
      cut).2.2 = some (.ok y)) :
    let begun := ((start.after before).call i (.gated .begin) cancelled).1
    let others := List.filter fun a : Action ε => !a.through u.session
    (∀ done left, during = done ++ left →
      (begun.after (others done)).storage.tables = (begun.after done).storage.tables) ∧
    (∀ done a left, during = done ++ a :: left → a.through u.session = false →
      ((begun.after (others done)).perform a).2 = ((begun.after done).perform a).2) ∧
    ∀ later,
      let rest := Action.call i c cut :: later
      begun.after (others during ++ rest) = begun.after (during ++ rest) ∧
        (begun.after (others during)).outcomes rest = (begun.after during).outcomes rest := by
  intro begun others
  have hwithin : begun.Within i u.session := (h.settled.after before).within_begun hu hfree hbegin
  have hself : begun.on begun.storage = begun := rfl
  refine ⟨fun done left he => ?_, fun done a left he ha => ?_, ?_⟩
  · obtain ⟨hdone, -⟩ := lasts_append.mp (he ▸ hlasts)
    obtain ⟨st, halike, hothers⟩ := hwithin.after_aside (.refl _ _) hdone
    rw [hself] at hothers
    rw [hothers]
    exact halike.tables
  · obtain ⟨hdone, hlasts', -⟩ := lasts_append.mp (he ▸ hlasts)
    obtain ⟨st, halike, hothers⟩ := hwithin.after_aside (.refl _ _) hdone
    rw [hself] at hothers
    obtain ⟨st', _, hsame⟩ := (hwithin.after hdone).perform_aside halike ha hlasts'
    rw [hothers, hsame]
  · intro later rest
    obtain ⟨st, halike, hothers⟩ := hwithin.after_aside (.refl _ _) hlasts
    rw [hself] at hothers
    have hnow := hwithin.after hlasts
    -- neither call commits, and what is left of the copies is gone with it
    obtain ⟨st', halike', hsame⟩ := hnow.settled.call_aside halike i c cut
      fun _ _ _ hcommit => by rcases hc with rfl | rfl <;> cases hcommit.1
    have hst' := halike'.eq_of_unstaged (hnow.unstaged_of_ended hc hend)
    have hcall : ((begun.after during).on st).call i c cut = (begun.after during).call i c cut := by
      rw [hsame, hst']
      rfl
    have hperform : (begun.after (others during)).perform (.call i c cut) =
        (begun.after during).perform (.call i c cut) := by
      rw [hothers, perform_call, perform_call, hcall]
    rw [after_append, after_append]
    refine ⟨?_, ?_⟩
    · show Workspace.after (perform _ _).1 later = Workspace.after (perform _ _).1 later
      rw [hperform]
    · show (perform _ _).2.2 :: outcomes (perform _ _).1 later =
        (perform _ _).2.2 :: outcomes (perform _ _).1 later
      rw [hperform]

/-- One row is inserted in a transaction that is rolled back, another one meanwhile by the other
unit. Without the first insert, the tables are the same at the end. -/
theorem pairOfUnits_without_trace :
    let begun := (pairOfUnits.call "u1" (.gated .begin) false).1
    let during : List (Action Keyed) :=
      [.change (jobsThrough "s1") (.insert (jobOf 1)) false,
        .change (jobsThrough "s2") (.insert (jobOf 1)) false]
    let without : List (Action Keyed) := [.change (jobsThrough "s2") (.insert (jobOf 1)) false]
    let ended : List (Action Keyed) := [.call "u1" (.gated .rollback) false]
    pairOfUnits.Opened ∧ pairOfUnits.hasTransaction "u1" = false ∧ begun.Lasts "u1" during ∧
      begun.after (without ++ ended) = begun.after (during ++ ended) ∧
      ((begun.after (during ++ ended)).storage.tables "jobs").rows = [jobOf 1] := by
  intro begun during without ended
  have hu : (pairOfUnits.after []).units "u1" = some { session := "s1", clock := firstSecond } :=
    rfl
  have hfree : (pairOfUnits.after []).hasTransaction "u1" = false := by decide
  have hlasts : begun.Lasts "u1" during := ⟨id, id, trivial⟩
  have hend : ((begun.after during).call "u1" (.gated .rollback) false).2.2 = some (.ok _) := rfl
  obtain ⟨-, -, hended⟩ := rolled_back_without_trace pairOfUnits_opened hu hfree rfl hlasts
    (.inl rfl) hend
  exact ⟨pairOfUnits_opened, hfree, hlasts, (hended []).1, by decide⟩

end Workspace

end RowSpec
