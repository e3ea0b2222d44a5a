import RowSpec.Proofs.UnitOfWork.Instances
import RowSpec.Proofs.UnitOfWork.Omission

/-!
# Requests that fail

A request that fails leaves no trace, unless it is a mutating request that has put a mutating
variant in use. Then every later request for its entity type fails as it did, also one for reading
only that would have been served without it.

* `Scene.Usurps`          a request that puts a mutating variant in use;
* `Faithful.outcome`      what a request ends in;
* `Faithful.behind_of_failed`   the scene without a request that fails and does not usurp;
* `failed_request`        what becomes of all other requests.
-/

namespace RowSpec

variable {ρ τ : Type}

/-- Once a mutating variant is in use, there always is one. -/
theorem UnitOfWork.Grows.serving?_mutating {u u' : UnitOfWork ρ τ} {e : EntityType}
    (h : u.Grows u') (hu : u.serving? e = some .mutating) : u'.serving? e = some .mutating := by
  obtain ⟨info, hcached, haccess⟩ := Option.map_eq_some_iff.mp hu
  have hadvances := h.advances e
  rw [hcached] at hadvances
  rcases hadvances with hnone | hsame | ⟨i, j, hi, -, hread, -⟩
  · cases hnone
  · rw [UnitOfWork.serving?, hsame, Option.map_some, haccess]
  · cases hi
    rw [haccess] at hread
    cases hread

theorem Constructors.reply_eq_error {make : Constructors ρ} {k : EntityType × Access}
    {e : RepoError} (h : (make.reply k : Reply ρ τ) = .error e) : make k = .error e := by
  rw [Constructors.reply] at h
  cases hmake : make k with
  | error e' =>
    rw [hmake] at h
    cases h
    rfl
  | ok r =>
    rw [hmake] at h
    cases h

namespace Scene

variable {make : Constructors ρ} {catalog : Catalog} {s : Scene ρ τ} {t : TaskId} {i : Interface}
  {info : RepositoryInfo} {e : RepoError}

/-- A mutating request puts a mutating variant in use, where there was none. -/
def Usurps (catalog : Catalog) (s : Scene ρ τ) (i : Interface) : Prop :=
  i.access = .mutating ∧ s.unit.serving? i.entity ≠ some .mutating ∧
    ∃ info, UnitOfWork.variant catalog i = .ok info

/-- A play that starts with a request, from where the request waits at its cell. -/
theorem play_resolve {u : UnitOfWork ρ τ} {c : CellId}
    (hstep : (s.step catalog (.start t (.resolve i))).1 =
      ((queued ⟨u, s.tasks⟩ t c).step catalog (.wake t)).1) (make : Constructors ρ)
    (during : List (Signal ρ τ)) :
    s.play catalog make (.start t (.resolve i) :: during) =
      (queued ⟨u, s.tasks⟩ t c).play catalog make (.wake t :: during) :=
  congrArg (·.play catalog make during) hstep

/-- A request that waits at a cell is answered by the constructor for it. -/
theorem reply_of_queued {u : UnitOfWork ρ τ} {c : CellId} {cell : Cell ρ}
    (hs : (queued ⟨u, s.tasks⟩ t c).Faithful make) (hcell : u.cell? c = some cell)
    (script : List (Signal ρ τ))
    (hopen : ((queued ⟨u, s.tasks⟩ t c).play catalog make script).unit.disposed = false)
    (hkept : .abandon t ∉ script) {reply : Reply ρ τ}
    (hreply : ((queued ⟨u, s.tasks⟩ t c).play catalog make script).reply? t = some reply) :
    reply = make.reply cell.info.kind := by
  have hinfo := (passes_queued ⟨u, s.tasks⟩ t c).grows.info (UnitOfWork.info?_of_cell hcell)
  have htied : Tied (queued ⟨u, s.tasks⟩ t c) t c (make cell.info.kind = .error ·) :=
    ⟨_, replace_same .., .waiting⟩
  exact htied.reply hs hinfo script hopen hkept hreply

/-- **A request ends** as the constructor for its type says, with the access in use once it has
started. -/
theorem Faithful.outcome (hs : s.Faithful make) (hfree : s.tasks t = none)
    (hinfo : UnitOfWork.variant catalog i = .ok info) (during : List (Signal ρ τ))
    (hopen : (s.play catalog make (.start t (.resolve i) :: during)).unit.disposed = false)
    (hkept : .abandon t ∉ .wake t :: during) {reply : Reply ρ τ}
    (hreply : (s.play catalog make (.start t (.resolve i) :: during)).reply? t = some reply) :
    ∃ access, (s.play catalog make [.start t (.resolve i)]).unit.serving? info.entity = some access ∧
      access.satisfies info.access = true ∧ reply = make.reply (info.entity, access) := by
  have hnow : (s.play catalog make [.start t (.resolve i)]).unit.disposed = false :=
    open_of_play catalog make _ during hopen
  obtain ⟨u, c, cell, hgiven, hstep⟩ := hs.grounded.given hfree (open_of_step _ hnow) hinfo
  obtain ⟨hu, hqueued⟩ := hgiven.faithful hs hfree hinfo
  refine ⟨cell.info.access, ?_, hgiven.serves, ?_⟩
  · rw [play_resolve hstep] at hnow ⊢
    obtain ⟨hentries, hcells⟩ := hqueued.wake_unit hnow
    have hpasses := passes_queued ⟨u, s.tasks⟩ t c
    have hgrows := UnitOfWork.Grows.of_contents hentries fun d => by
      rw [UnitOfWork.content?, UnitOfWork.content?, UnitOfWork.cell?, UnitOfWork.cell?, hcells]
    have hserving := hqueued.placed.serving?_of_grows hgrows hentries info.entity
    rw [hu.placed.serving?_of_grows hpasses.grows hpasses.entries, hgiven.serving] at hserving
    exact hserving
  · rw [play_resolve hstep] at hopen hreply
    rw [← hgiven.kind hu.placed]
    exact reply_of_queued hqueued hgiven.there (.wake t :: during) hopen hkept hreply

theorem not_mem_wake_cons {during : List (Signal ρ τ)} (hkept : .abandon t ∉ during) :
    .abandon t ∉ .wake t :: during :=
  fun hmem => hkept ((List.mem_cons.mp hmem).resolve_left nofun)

section
variable {types : List EntityType}

theorem Faithful.outcome_of_mutating (hs : s.Faithful make)
    (hfree : s.tasks t = none) (hinfo : UnitOfWork.variant (.ofTypes types) i = .ok info)
    (hserving : s.unit.serving? i.entity = some .mutating) (during : List (Signal ρ τ))
    (hopen : (s.play (.ofTypes types) make (.start t (.resolve i) :: during)).unit.disposed = false)
    (hkept : .abandon t ∉ during) {reply : Reply ρ τ}
    (hreply : (s.play (.ofTypes types) make (.start t (.resolve i) :: during)).reply? t =
      some reply) :
    reply = make.reply (i.entity, .mutating) := by
  obtain ⟨access, hused, -, houtcome⟩ :=
    hs.outcome hfree hinfo during hopen (not_mem_wake_cons hkept) hreply
  rw [show info.entity = i.entity from congrArg Prod.fst (UnitOfWork.variant_kind hinfo)]
    at hused houtcome
  have hgrows := hs.grows_play [.start t (.resolve i)] (open_of_play _ make _ during hopen)
  have hstill : some access = some .mutating :=
    hused.symm.trans (hgrows.serving?_mutating hserving)
  rw [houtcome, Option.some.inj hstill]

/-! ## requests that do not usurp -/

/-- A cell that has been opened for a request that fails and does not usurp is read-only. -/
theorem Given.behind {u : UnitOfWork ρ τ} {c : CellId} {cell : Cell ρ}
    (h : s.Given info u c cell) (hs : s.Faithful make) (hfree : s.tasks t = none)
    (hinfo : UnitOfWork.variant (.ofTypes types) i = .ok info)
    (hcalm : ¬ s.Usurps (.ofTypes types) i) (hfails : ∃ e, make cell.info.kind = .error e) :
    Behind make t ⟨u, s.tasks⟩ s := by
  have hrefl : Behind make t s s := .refl make hs.lined hfree
  have hgrows := h.grows hs.toRegular hfree hinfo
  rcases h.fresh with rfl | ⟨hunserved, rfl, rfl⟩
  · exact hrefl
  · obtain ⟨hentity, haccess⟩ := Prod.mk.inj (UnitOfWork.variant_kind hinfo)
    have hread : info.access = .readOnly := by
      cases hwant : info.access with
      | readOnly => rfl
      | mutating =>
        refine absurd ⟨haccess.symm.trans hwant, fun hmutating => ?_, info, hinfo⟩ hcalm
        rw [← show info.entity = i.entity from hentity] at hmutating
        have hno := hunserved.serving? hmutating
        rw [hwant] at hno
        cases hno
    refine hrefl.back_opened hs.toRegular hread hfails ?_ hgrows
    cases hused : s.unit.serving? info.entity with
    | none => rfl
    | some access =>
      have hno := hunserved.serving? hused
      rw [hread] at hno
      cases access <;> cases hno

/-- **A request that fails** and does not usurp stands where the constructor fails, if it stands
anywhere. -/
theorem Faithful.behind_of_failed (hs : s.Faithful make) (hfree : s.tasks t = none)
    (hcalm : ¬ s.Usurps (.ofTypes types) i) (after : List (Signal ρ τ))
    (hopen : (s.play (.ofTypes types) make (.start t (.resolve i) :: after)).unit.disposed = false)
    (hkept : .abandon t ∉ after)
    (hfailed : (s.play (.ofTypes types) make (.start t (.resolve i) :: after)).reply? t =
      some (.error e)) :
    Behind make t (s.play (.ofTypes types) make [.start t (.resolve i)]) s := by
  have hnow : (s.play (.ofTypes types) make [.start t (.resolve i)]).unit.disposed = false :=
    open_of_play _ make _ after hopen
  have hopen₀ := open_of_step _ hnow
  cases hinfo : UnitOfWork.variant (.ofTypes types) i with
  | error e' =>
    have hrefl : Behind make t s s := .refl make hs.lined hfree
    rw [show s.play (.ofTypes types) make [.start t (.resolve i)] = _ from
      step_resolve_refused hfree hopen₀ hinfo]
    refine hrefl.own_turn hs.toRegular hs.toRegular
      ⟨fun hw => replace_other _ _ hw, .refl _, rfl⟩ (.refl _) hrefl.cell fun stage hstage => ?_
    cases eq_of_replace_same hstage
    exact ⟨rfl, nofun⟩
  | ok info =>
    obtain ⟨u, c, cell, hgiven, hstep⟩ := hs.grounded.given hfree hopen₀ hinfo
    obtain ⟨hu, hqueued⟩ := hgiven.faithful hs hfree hinfo
    rw [play_resolve hstep] at hopen hfailed hnow ⊢
    have hreply := reply_of_queued hqueued hgiven.there _ hopen (not_mem_wake_cons hkept) hfailed
    have hfails : ∃ e, make cell.info.kind = .error e :=
      ⟨e, Constructors.reply_eq_error hreply.symm⟩
    have hjoined := (hgiven.behind hs hfree hinfo hcalm hfails).own_joined hu.toRegular
      hs.toRegular hgiven.there hfails
    have hbusy : (queued ⟨u, s.tasks⟩ t c).tasks t ≠ none := by
      rw [show (queued ⟨u, s.tasks⟩ t c).tasks t = some (.waiting c) from replace_same ..]
      exact nofun
    exact hjoined.own_step hqueued hs (.wake t) rfl nofun hbusy hnow

/-- A reply that is given while a task is there that fails is given without it. -/
theorem Faithful.reply_without (hs : s.Faithful make) (hfree : s.tasks t = none)
    (hcalm : ¬ s.Usurps (.ofTypes types) i) (after : List (Signal ρ τ))
    (hopen : (s.play (.ofTypes types) make (.start t (.resolve i) :: after)).unit.disposed = false)
    (hkept : .abandon t ∉ after)
    (hfailed : (s.play (.ofTypes types) make (.start t (.resolve i) :: after)).reply? t =
      some (.error e)) {w : TaskId} (hw : w ≠ t) {reply : Reply ρ τ}
    (hreply : (s.play (.ofTypes types) make (.start t (.resolve i) :: after)).reply? w =
      some reply) :
    (s.play (.ofTypes types) make (after.filter (·.task ≠ t))).reply? w = some reply := by
  have hbehind := hs.behind_of_failed hfree hcalm after hopen hkept hfailed
  have hbusy : (s.play (.ofTypes types) make [.start t (.resolve i)]).tasks t ≠ none := by
    show (s.step _ (.start t (.resolve i))).1.tasks t ≠ none
    rw [step_start hfree]
    show replace s.tasks t (some _) t ≠ none
    rw [replace_same]
    exact nofun
  have hs₁ := hs.play [.start t (.resolve i)] (open_of_play _ make _ after hopen)
  have hplayed := hbehind.play hs₁ hs hbusy after hkept hopen
  cases hplayed.task hw with
  | same _ htask =>
    rw [reply?, htask]
    exact hreply
  | standing hplace _ _ _ _ _ =>
    -- a task that has a reply stands nowhere
    obtain ⟨stage, hstage, hc⟩ := Option.bind_eq_some_iff.mp hplace
    have hfull : ((s.play (.ofTypes types) make [.start t (.resolve i)]).play (.ofTypes types) make
      after).reply? w = some reply := hreply
    rw [reply?, hstage] at hfull
    cases stage with
    | finished => cases hc
    | _ => cases hfull

/-! ## requests that usurp -/

/-- Once a mutating request has failed that usurps, all others fail as it did. -/
theorem Faithful.reply_after_usurping (hs : s.Faithful make) (hfree : s.tasks t = none)
    (husurps : s.Usurps (.ofTypes types) i) (mid during rest : List (Signal ρ τ)) {w : TaskId}
    {j : Interface}
    (hopen : (s.play (.ofTypes types) make (.start t (.resolve i) ::
      (mid ++ .start w (.resolve j) :: (during ++ rest)))).unit.disposed = false)
    (hkept : .abandon t ∉ mid ++ .start w (.resolve j) :: (during ++ rest))
    (hfailed : (s.play (.ofTypes types) make (.start t (.resolve i) ::
      (mid ++ .start w (.resolve j) :: (during ++ rest)))).reply? t = some (.error e))
    (hfree' : (s.play (.ofTypes types) make (.start t (.resolve i) :: mid)).tasks w = none)
    (hkept' : .abandon w ∉ during) (hentity : j.entity = i.entity)
    (hinfo' : UnitOfWork.variant (.ofTypes types) j = .ok info) {reply : Reply ρ τ}
    (hreply : (s.play (.ofTypes types) make (.start t (.resolve i) ::
      (mid ++ .start w (.resolve j) :: during))).reply? w = some reply) :
    reply = .error e := by
  obtain ⟨hmutating, -, own, hinfo⟩ := husurps
  obtain ⟨hentityI, haccessI⟩ := Prod.mk.inj (UnitOfWork.variant_kind hinfo)
  obtain ⟨access, hserving, hsatisfies, hown⟩ :=
    hs.outcome hfree hinfo _ hopen (not_mem_wake_cons hkept) hfailed
  rw [show own.access = .mutating from haccessI.trans hmutating] at hsatisfies
  obtain rfl := Access.eq_mutating_of_satisfies hsatisfies
  -- the later request finds the mutating variant in use
  have hs₁ := hs.play [.start t (.resolve i)] (open_of_play _ make _ _ hopen)
  rw [← List.cons_append, play_append, ← List.cons_append, play_append] at hopen
  have hopen₂ := open_of_play _ make _ rest hopen
  have hopen₁ := open_of_play _ make _ _ hopen₂
  have hfound := (hs₁.grows_play mid hopen₁).serving?_mutating hserving
  rw [show own.entity = j.entity from hentityI.trans hentity.symm] at hfound hown
  rw [← List.cons_append, play_append] at hreply
  rw [hown]
  exact (hs.play _ hopen₁).outcome_of_mutating hfree' hinfo' hfound during hopen₂ hkept' hreply

end

/-- **A request that fails**, in any play of a unit that stays open, whatever other tasks do and
whenever. If it does not usurp, all that have a reply have the same one without it. If it does,
every later request for the entity type that has a reply has failed as it did. -/
theorem failed_request (types : List EntityType) (make : Constructors ρ)
    (before after : List (Signal ρ τ)) (t : TaskId) (i : Interface) (e : RepoError)
    (hopen : (play (.ofTypes types) make {}
      (before ++ .start t (.resolve i) :: after)).unit.disposed = false)
    (hfree : (play (.ofTypes types) make {} before).tasks t = none)
    (hkept : .abandon t ∉ after)
    (hfailed : (play (.ofTypes types) make {}
      (before ++ .start t (.resolve i) :: after)).reply? t = some (.error e)) :
    let catalog := Catalog.ofTypes types
    let played (script : List (Signal ρ τ)) := play catalog make {} script
    (¬ (played before).Usurps catalog i → ∀ w reply, w ≠ t →
      (played (before ++ .start t (.resolve i) :: after)).reply? w = some reply →
      (played (before ++ after.filter (·.task ≠ t))).reply? w = some reply) ∧
    ((played before).Usurps catalog i → ∀ mid w j during rest reply,
      after = mid ++ .start w (.resolve j) :: (during ++ rest) →
      (played (before ++ .start t (.resolve i) :: mid)).tasks w = none → .abandon w ∉ during →
      j.entity = i.entity → (∃ info, UnitOfWork.variant catalog j = .ok info) →
      (played (before ++ .start t (.resolve i) :: (mid ++ .start w (.resolve j) :: during))).reply? w
        = some reply → reply = .error e) := by
  intro catalog played
  have hplayed : ∀ script, played (before ++ script) = (played before).play catalog make script :=
    play_append catalog make {} before
  rw [show play (.ofTypes types) make {} _ = _ from hplayed _] at hopen hfailed
  have hs : (played before).Faithful make :=
    faithful_start.play before (open_of_play _ make _ _ hopen)
  constructor
  · intro hcalm w reply hw hreply
    rw [hplayed] at hreply ⊢
    exact hs.reply_without hfree hcalm after hopen hkept hfailed hw hreply
  · rintro husurps mid w j during rest reply rfl hfree' hkept' hentity ⟨info, hinfo⟩ hreply
    rw [hplayed] at hfree' hreply
    exact hs.reply_after_usurping hfree husurps mid during rest hopen hkept hfailed hfree' hkept'
      hentity hinfo hreply

/-! ## factories for one access only -/

def factoryFor (access : Access) : Constructors String := fun (e, a) =>
  if a = access then .ok "jobs" else .error (.unsupported (.noFactory a e))

/-- The constructor of a task has come to an end; the play says with what. -/
def comesBack (t : TaskId) : Signal String Unit := .answer t (.ended (.ok ()))

/-- A request for reading waits behind another one; then comes one for writing. -/
def readersThenWriter : List (Signal String Unit) :=
  [.start 1 (.resolve (.long jobType .readOnly)), comesBack 0, .wake 1, comesBack 1,
    .start 2 (.resolve (.generic jobType .mutating)), comesBack 2]

/-- A request for reading has been served; one for writing comes in between it and the next. -/
def writerBetweenReaders : List (Signal String Unit) :=
  [comesBack 1, .start 2 (.resolve (.long jobType .readOnly)), comesBack 2]

def reader : List (Signal String Unit) :=
  [.start 0 (.resolve (.generic jobType .readOnly)), comesBack 0]

theorem failed_request_of_jobs :
    (play (.ofTypes [jobType]) (factoryFor .mutating) {}
      (readersThenWriter.filter (·.task ≠ 0))).reply? 2 = some (.ok (.repository "jobs")) ∧
    ∃ reply, (play (.ofTypes [jobType]) (factoryFor .readOnly) {} (reader ++
      .start 1 (.resolve (.generic jobType .mutating)) :: writerBetweenReaders)).reply? 2 =
        some reply ∧ reply = .error (.unsupported (.noFactory .mutating jobType)) := by
  constructor
  · have hfailed := failed_request [jobType] (factoryFor .mutating) [] readersThenWriter 0
      (.generic jobType .readOnly) (.unsupported (.noFactory .readOnly jobType)) rfl rfl
      (by simp [readersThenWriter, comesBack]) rfl
    exact hfailed.1 (fun husurps => by cases husurps.1) 2 _ (by decide) rfl
  · have hfailed := failed_request [jobType] (factoryFor .readOnly) reader writerBetweenReaders 1
      (.generic jobType .mutating) (.unsupported (.noFactory .mutating jobType)) rfl rfl
      (by simp [writerBetweenReaders, comesBack]) rfl
    exact ⟨_, rfl, hfailed.2 ⟨rfl, by decide, _, rfl⟩ [comesBack 1] 2 (.long jobType .readOnly)
      [comesBack 2] [] _ rfl rfl (by simp [comesBack]) rfl ⟨_, rfl⟩ rfl⟩

/-- **A mutating request that fails can be felt**: before it, and without it, a request for reading
is served; after it, none is. -/
theorem failed_upgrade_shuts_out_readers :
    let played (script : List (Signal String Unit)) :=
      play (.ofTypes [jobType]) (factoryFor .readOnly) {} script
    let full := played (reader ++ .start 1 (.resolve (.generic jobType .mutating)) ::
      writerBetweenReaders)
    full.reply? 0 = some (.ok (.repository "jobs")) ∧
      full.reply? 1 = some (.error (.unsupported (.noFactory .mutating jobType))) ∧
      full.reply? 2 = some (.error (.unsupported (.noFactory .mutating jobType))) ∧
      (played (reader ++ writerBetweenReaders.filter (·.task ≠ 1))).reply? 2 =
        some (.ok (.repository "jobs")) := by
  exact ⟨rfl, rfl, rfl, rfl⟩

end Scene

end RowSpec
