import RowSpec.Proofs.Repository.BulkUpdates

/-!
# Disabling

Rows are disabled by specification and stamped with the time of the call. A row that is disabled is
no target any more, so that it keeps the stamp of the first call that has disabled it.

* `isDisabled`, `isEnabled`    what the marking field says; a null counts as enabled;
* `targets_disableCommand_yields`   the guard comes after all clauses of the specification;
* `Repository.revises_disableBy`    a call is a bulk update of the enabled rows that are selected;
* `Disabling`                  calls, each with its own repository, specification and time;
* `Disabling.Stamps`           what one call does to the rows and what it reports;
* `disabled_once`              runs of calls.
-/

namespace RowSpec

/-! ## rows one by one -/

section
variable {α β γ : Type} {l : List α} {l' : List β}

theorem forall₂_trans {R : α → α → Prop} (htrans : ∀ a b c, R a b → R b c → R a c)
    {as bs cs : List α} (h : List.Forall₂ R as bs) (h' : List.Forall₂ R bs cs) :
    List.Forall₂ R as cs := by
  induction h generalizing cs with
  | nil => exact h'
  | cons hab _ ih =>
    cases h' with
    | cons hbc hrest => exact .cons (htrans _ _ _ hab hbc) (ih hrest)

theorem exists_getElem?_of_forall₂ {R : α → β → Prop} (h : List.Forall₂ R l l') {i : Nat} {a : α}
    (ha : l[i]? = some a) : ∃ b, l'[i]? = some b ∧ R a b := by
  induction h generalizing i with
  | nil => cases ha
  | cons hab _ ih =>
    cases i with
    | zero =>
      cases ha
      exact ⟨_, rfl, hab⟩
    | succ i => exact ih ha

theorem countP_zip_of_forall₂ {p : α → Bool} {q : α × β → Bool}
    (h : List.Forall₂ (fun a b => q (a, b) = p a) l l') : (l.zip l').countP q = l.countP p := by
  induction h with
  | nil => rfl
  | cons hab _ ih => rw [List.zip_cons_cons, List.countP_cons, List.countP_cons, ih, hab]

end

variable {ε : Type} [Entity ε]

/-! ## disabled rows -/

def isDisabled (row : ε) : Bool := Record.field row disabledField = some (.bool true)

def isEnabled (row : ε) : Bool :=
  Record.field row disabledField = some .null || Record.field row disabledField = some (.bool false)

theorem isDisabled_of_isEnabled {row : ε} (h : isEnabled row = true) : isDisabled row = false := by
  rw [isEnabled, Bool.or_eq_true, decide_eq_true_eq, decide_eq_true_eq] at h
  rcases h with h | h <;> rw [isDisabled, h] <;> rfl

theorem holds_notDisabled (row : ε) :
    notDisabled.holds row =
      Record.fetch row disabledField >>= (Comparison.ne.holds · (.bool true)) := rfl

theorem holds_notDisabled_of_isEnabled {row : ε} (h : isEnabled row = true) :
    notDisabled.holds row = .ok true := by
  rw [isEnabled, Bool.or_eq_true, decide_eq_true_eq, decide_eq_true_eq] at h
  rcases h with h | h <;> rw [holds_notDisabled, Record.fetch_of_some h] <;> rfl

/-- Where the guard does not fail, a row is either enabled or disabled. -/
theorem holds_notDisabled_eq_ok {row : ε} {b : Bool} (h : notDisabled.holds row = .ok b) :
    isEnabled row = b ∧ isDisabled row = !b := by
  rw [holds_notDisabled] at h
  cases hmark : Record.field row disabledField with
  | none =>
    rw [Record.fetch_of_none hmark] at h
    cases h
  | some v =>
    rw [Record.fetch_of_some hmark] at h
    rw [isEnabled, isDisabled, hmark]
    cases v with
    | null =>
      cases h
      exact ⟨rfl, rfl⟩
    | bool c => cases c <;> cases h <;> exact ⟨rfl, rfl⟩
    | _ => cases h

theorem accepts_notDisabled (row : ε) : notDisabled.accepts row = isEnabled row := by
  cases h : notDisabled.holds row with
  | ok b => rw [Expr.accepts_of_ok h, (holds_notDisabled_eq_ok h).1]
  | error e =>
    rw [Expr.accepts, h]
    refine (Bool.eq_false_iff.mpr fun henabled => ?_).symm
    rw [holds_notDisabled_of_isEnabled henabled] at h
    cases h

/-- the values that a row gets when it is disabled -/
def stamp (time : Instant) : List Assignment :=
  [⟨disabledField, .bool true⟩, ⟨disabledAtField, .instant time⟩]

theorem Revised.isDisabled {time : Instant} {row new : ε} (h : Revised (stamp time) row new) :
    isDisabled new = true := by
  rw [RowSpec.isDisabled, h disabledField]
  rfl

/-! ## targets -/

theorem Clause.failsAlong_append {row : ε} {e : FieldError} {clauses later : List Clause}
    (hmeets : clauses.all (meets row) = true) (hlater : FailsAlong row e later) :
    FailsAlong row e (clauses ++ later) := by
  induction clauses with
  | nil => exact hlater
  | cons s rest ih =>
    obtain ⟨hs, hrest⟩ := Bool.and_eq_true_iff.mp hmeets
    exact .inr ⟨hs, ih hrest⟩

namespace Facets

/-- the clauses of a specification, and the guard after them -/
def disableClauses (filters : List Expr) (f : Facets) : List Clause :=
  f.clauses filters ++ [[notDisabled]]

theorem all_disableClauses (filters : List Expr) (f : Facets) (row : ε) :
    (f.disableClauses filters).all (Clause.meets row) = (f.selects filters row && isEnabled row) := by
  have hguard : Clause.meets row [notDisabled] = isEnabled row := by
    rw [Clause.meets, List.any_cons, List.any_nil, Bool.or_false, accepts_notDisabled]
  rw [disableClauses, List.all_append, List.all_cons, List.all_nil, Bool.and_true, hguard, selects]

/-- **The rows that are disabled** are enabled before and meet all clauses. -/
theorem targets_disableCommand_yields (filters : List Expr) (f : Facets) (time : Instant)
    (row : ε) :
    Yields ((f.disableCommand time).targets filters row)
      (Clause.FailsAlong row · (f.disableClauses filters))
      (f.selects filters row && isEnabled row) := by
  have hcommand : (f.disableCommand time).toDeleteCommand =
      ⟨f.ignoreQueryFilters, Expr.all? (f.criteria ++ [notDisabled])⟩ := by
    rw [Expr.all?_concat]
    rfl
  have hguard : Clause.exprs (f.disableClauses filters) =
      Clause.exprs (f.clauses filters) ++ [notDisabled] := Clause.exprs_append ..
  rw [hcommand, targets_all?, ← List.append_assoc, ← exprs_clauses, ← hguard, ← all_disableClauses]
  refine passes_exprs_yields (fun s hs => ?_) row
  rcases List.mem_append.mp hs with hs | hs
  · exact clauses_ne_nil hs
  · rw [List.mem_singleton.mp hs]
    exact List.cons_ne_nil _ _

end Facets

/-! ## calls -/

/-- The row stays as it is, or it is enabled and gets the stamp, and nothing else. -/
def StampedAt (time : Instant) (row new : ε) : Prop :=
  new = row ∨ isEnabled row = true ∧ Revised (stamp time) row new

/-- how many rows have become disabled -/
def newlyDisabled (rows rows' : List ε) : Nat :=
  (rows.zip rows').countP fun p => !isDisabled p.1 && isDisabled p.2

theorem Repository.revises_disableBy [LawfulRecord ε] (r : Repository) (st : Storage ε)
    (spec : Specification ε) :
    r.Revises st (.disableBy spec)
      (fun row e => Clause.FailsAlong row e (spec.disableClauses (r.seen st).filters) ∨
        (spec.selects (r.seen st).filters row && isEnabled row) ∧ Rejects (stamp r.clock) row e)
      (fun row => spec.selects (r.seen st).filters row && isEnabled row)
      (Revised (stamp r.clock)) := by
  have h := (revises_of_targets (c := .disableBy spec) rfl
    (spec.targets_disableCommand_yields (r.seen st).filters r.clock))
  exact h.imp fun row new hnew name => field_assignAll hnew name

/-- A call to disable rows. Calls may differ in their repositories and times. -/
structure Disabling (ε : Type) where
  repo : Repository
  spec : Specification ε
  cancelled : Bool := false

namespace Disabling

def call (d : Disabling ε) (st : Storage ε) : Storage ε × Traced (Except RepoError (Effect ε)) :=
  d.repo.change st (.disableBy d.spec) d.cancelled

/-- The storage after calls. -/
def after (st : Storage ε) (calls : List (Disabling ε)) : Storage ε :=
  calls.foldl (fun st d => (d.call st).1) st

/-- A call that succeeds disables the rows that the specification selects, and reports how many of
them have not been disabled before. A call that fails changes nothing. In no table that can be seen
is a row changed other than by the stamp, nor is one that was disabled. -/
structure Stamps (d : Disabling ε) (st : Storage ε) : Prop where
  report : ∀ effect, (d.call st).2.result = .ok effect →
    effect = .affected (newlyDisabled (d.repo.seen st).rows (d.repo.seen (d.call st).1).rows)
  disables : ∀ effect, (d.call st).2.result = .ok effect →
    List.Forall₂ (fun row new => isDisabled new =
        (isDisabled row || d.spec.selects (d.repo.seen st).filters row))
      (d.repo.seen st).rows (d.repo.seen (d.call st).1).rows
  untouched : ∀ e, (d.call st).2.result = .error e →
    ∀ through k, (d.call st).1.table through k = st.table through k
  rows : ∀ through k, List.Forall₂ (StampedAt d.repo.clock) (st.table through k).rows
    ((d.call st).1.table through k).rows

section
variable {time : Instant} {row new : ε} {selected : Bool}

/-- what becomes of a row that may be selected -/
abbrev Becomes (time : Instant) (selected : Bool) (row new : ε) : Prop :=
  if (selected && isEnabled row) = true then Revised (stamp time) row new else new = row

theorem Becomes.stampedAt (h : Becomes time selected row new) : StampedAt time row new := by
  cases htarget : (selected && isEnabled row) with
  | true =>
    rw [Becomes, if_pos htarget] at h
    exact .inr ⟨(Bool.and_eq_true_iff.mp htarget).2, h⟩
  | false =>
    rw [Becomes, htarget] at h
    exact .inl h

theorem Becomes.newly (h : Becomes time selected row new) :
    (!isDisabled row && isDisabled new) = (selected && isEnabled row) := by
  cases htarget : (selected && isEnabled row) with
  | true =>
    rw [Becomes, if_pos htarget] at h
    rw [isDisabled_of_isEnabled (Bool.and_eq_true_iff.mp htarget).2, h.isDisabled]
    rfl
  | false =>
    rw [Becomes, htarget] at h
    cases h
    exact Bool.not_and_self _

theorem Becomes.isDisabled (h : Becomes time selected row new)
    (hguard : selected = true → ∃ b, notDisabled.holds row = .ok b) :
    isDisabled new = (isDisabled row || selected) := by
  cases selected with
  | false =>
    cases h
    exact (Bool.or_false _).symm
  | true =>
    obtain ⟨b, hb⟩ := hguard rfl
    obtain ⟨henabled, hdisabled⟩ := holds_notDisabled_eq_ok hb
    rw [Becomes, Bool.true_and, henabled] at h
    rw [Bool.or_true]
    cases b with
    | true => exact h.isDisabled
    | false =>
      cases h
      exact hdisabled

end

theorem stamps [LawfulRecord ε] (d : Disabling ε) (st : Storage ε) : d.Stamps st := by
  obtain ⟨r, spec, cancelled⟩ := d
  cases cancelled with
  | true =>
    have hcall : (call ⟨r, spec, true⟩ st).1 = st := r.change_cancelled st _
    refine ⟨nofun, nofun, fun _ _ through k => by rw [hcall], fun through k => ?_⟩
    rw [hcall]
    exact List.forall₂_same.mpr fun _ _ => .inl rfl
  | false =>
    have h := r.revises_disableBy st spec
    refine ⟨fun effect he => ?_, fun effect he => ?_, h.untouched, fun through k => ?_⟩
    · rw [h.report effect he, newlyDisabled, ← List.countP_eq_length_filter]
      refine congrArg Effect.affected (countP_zip_of_forall₂ ?_).symm
      exact (h.rows effect he).imp fun _ _ => Becomes.newly
    · refine ((List.forall₂_and_left _ _).mpr ⟨fun _ => h.not_fault he, h.rows effect he⟩).imp ?_
      rintro row new ⟨hnone, hnew⟩
      refine Becomes.isDisabled hnew fun hselects => ?_
      cases hholds : notDisabled.holds row with
      | ok b => exact ⟨b, rfl⟩
      | error e =>
        have hfails : Clause.FailsAlong row e (spec.disableClauses (r.seen st).filters) :=
          Clause.failsAlong_append hselects (.inl (.inl hholds))
        exact absurd (.inl hfails) (hnone e)
    · exact h.views (fun _ => .inl rfl) (fun _ _ => Becomes.stampedAt) through k

/-! ## runs -/

/-- A row that was disabled is the same. -/
def Kept (row new : ε) : Prop := isDisabled row = true → new = row

theorem StampedAt.kept {time : Instant} {row new : ε} (h : StampedAt time row new) :
    Kept row new := by
  intro hrow
  rcases h with h | ⟨henabled, -⟩
  · exact h
  · rw [isDisabled_of_isEnabled henabled] at hrow
    cases hrow

theorem Kept.trans {a b c : ε} (h : Kept a b) (h' : Kept b c) : Kept a c := by
  intro ha
  have hb := h ha
  subst hb
  exact h' ha

theorem after_append (st : Storage ε) (before later : List (Disabling ε)) :
    after st (before ++ later) = after (after st before) later := List.foldl_append

theorem after_cons (st : Storage ε) (d : Disabling ε) (later : List (Disabling ε)) :
    after st (d :: later) = after (d.call st).1 later := rfl

/-- Disabled rows are the same after every run of calls. -/
theorem kept_after [LawfulRecord ε] (st : Storage ε) (calls : List (Disabling ε))
    (through : Option SessionId) (k : TableId) :
    List.Forall₂ Kept (st.table through k).rows ((after st calls).table through k).rows := by
  induction calls generalizing st with
  | nil => exact List.forall₂_same.mpr fun _ _ _ => rfl
  | cons d later ih =>
    have hcall := ((d.stamps st).rows through k).imp fun _ _ => StampedAt.kept
    rw [after_cons]
    exact forall₂_trans (R := Kept) (fun _ _ _ => Kept.trans) hcall (ih (d.call st).1)

/-- **A row is disabled once.** Through all calls a disabled row stays the same; each call reports
how many rows it disables and stamps them with its time, or fails and changes nothing; and a row
that a call disables keeps this stamp to the end. -/
theorem disabled_once [LawfulRecord ε] (st : Storage ε) (calls : List (Disabling ε)) :
    (∀ through k, List.Forall₂ Kept (st.table through k).rows
      ((after st calls).table through k).rows) ∧
    ∀ before d later, calls = before ++ d :: later →
      d.Stamps (after st before) ∧
      ∀ through k (i : Nat) row new,
        ((after st before).table through k).rows[i]? = some row → isDisabled row = false →
        ((after st (before ++ [d])).table through k).rows[i]? = some new → isDisabled new = true →
        Record.field new disabledAtField = some (.instant d.repo.clock) ∧
          ((after st calls).table through k).rows[i]? = some new := by
  refine ⟨fun through k => kept_after st calls through k, ?_⟩
  rintro before d later rfl
  have hstamps := d.stamps (after st before)
  refine ⟨hstamps, fun through k i row new hrow henabled hnew hdisabled => ?_⟩
  rw [after_append, after_cons] at hnew ⊢
  constructor
  · obtain ⟨new', hnew', hstamped⟩ := exists_getElem?_of_forall₂ (hstamps.rows through k) hrow
    cases hnew'.symm.trans hnew
    rcases hstamped with rfl | ⟨-, hrevised⟩
    · rw [henabled] at hdisabled
      cases hdisabled
    · exact (hrevised disabledAtField).trans rfl
  · obtain ⟨last, hlast, hkept⟩ :=
      exists_getElem?_of_forall₂ (kept_after (d.call (after st before)).1 later through k) hnew
    rw [hlast, hkept hdisabled]

/-- Of two open jobs, one is disabled at once, and the other one a day later with a call for all
rows. -/
theorem disabled_once_jobs :
    let openJob (id team : Int) : Keyed :=
      { id := .number (.ofInt id)
        fields := [("team", .number (.ofInt team)), (disabledField, .null),
          (disabledAtField, .null)] }
    let st : Storage Keyed := { tables := fun _ => { rows := [openJob 1 5, openJob 2 6] } }
    let nextDay : Instant :=
      ⟨⟨1970, 1, 2, by decide, by decide⟩, ⟨0, 0, 0, 0, by decide, by decide, by decide, by decide⟩⟩
    let one : Disabling Keyed :=
      { repo := jobsThrough "s1"
        spec := { predicates := [.compare (.field "team") .eq (.value (.number (.ofInt 5)))] } }
    let all : Disabling Keyed :=
      { repo := { jobsThrough "s1" with clock := nextDay }, spec := {} }
    one.Stamps st ∧ all.Stamps (after st [one]) ∧
      (all.call (after st [one])).2.result = .ok (.affected 1) ∧
      ∃ row, ((after st [one]).table none "jobs").rows[0]? = some row ∧
        Record.field row disabledAtField = some (.instant firstSecond) ∧
        ((after st [one, all]).table none "jobs").rows[0]? = some row := by
  intro openJob st nextDay one all
  obtain ⟨-, hcalls⟩ := disabled_once st [one, all]
  obtain ⟨hone, hstamp⟩ := hcalls [] one [all] rfl
  obtain ⟨hall, -⟩ := hcalls [one] all [] rfl
  let row : Keyed :=
    { openJob 1 5 with fields := [("team", .number (.ofInt 5)), (disabledField, .bool true),
        (disabledAtField, .instant firstSecond)] }
  have hrow : ((after st [one]).table none "jobs").rows[0]? = some row := by cbv
  exact ⟨hone, hall, by cbv, row, hrow, hstamp none "jobs" 0 (openJob 1 5) row rfl rfl hrow rfl⟩

end Disabling

end RowSpec
