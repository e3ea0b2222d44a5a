import RowSpec.Proofs.UnitOfWork.Contents

/-!
# One instance of each kind

However requests for repositories interleave, and whatever becomes of their constructions, a unit
that stays open gets at most one repository of each entity type and access, and gives out that one.

* `instances`            the repositories of a kind among those brought;
* `Logged`               what the cells hold is what has been brought;
* `Scene.ReachesCache`   a request has got as far as its cell;
* `Scene.Granted`        a request has been given a repository;
* `one_instance_of_each_kind`   at most one of each kind, and the one that all requests get.
-/

namespace RowSpec

variable {ρ τ : Type}

/-! ## what has been brought -/

def instances (k : EntityType × Access) (log : List (RepositoryInfo × ρ)) : List ρ :=
  (log.filter (·.1.kind = k)).map (·.2)

theorem instances_append (k : EntityType × Access) (log more : List (RepositoryInfo × ρ)) :
    instances k (log ++ more) = instances k log ++ instances k more := by
  rw [instances, List.filter_append, List.map_append]
  rfl

theorem instances_singleton (info : RepositoryInfo) (r : ρ) (k : EntityType × Access) :
    instances k [(info, r)] = if info.kind = k then [r] else [] := by
  rw [instances, List.filter_singleton]
  by_cases h : info.kind = k <;> simp [h]

/-- What the cells hold is what has been brought. -/
structure Logged (log : List (RepositoryInfo × ρ)) (u : UnitOfWork ρ τ) : Prop where
  made : ∀ {c info value}, u.content? c = some (info, value) →
    instances info.kind log = value.toList
  unmade : ∀ {k}, (∀ c info, u.info? c = some info → info.kind ≠ k) → instances k log = []

namespace Logged

variable {log made : List (RepositoryInfo × ρ)} {u : UnitOfWork ρ τ}

theorem length_le_one (h : Logged log u) (k : EntityType × Access) :
    (instances k log).length ≤ 1 := by
  by_cases hk : ∃ c info, u.info? c = some info ∧ info.kind = k
  · obtain ⟨c, info, hinfo, rfl⟩ := hk
    obtain ⟨value, hvalue⟩ := UnitOfWork.content?_of_info? hinfo
    rw [h.made hvalue]
    cases value with
    | none => exact Nat.zero_le 1
    | some r => exact Nat.le_refl 1
  · rw [h.unmade fun c info hinfo hkind => hk ⟨c, info, hinfo, hkind⟩]
    exact Nat.zero_le 1

theorem shift {catalog : Catalog} {s : Scene ρ τ} {g : Signal ρ τ} (h : Logged log s.unit)
    (hplaced : s.unit.Placed) (hshift : s.Shift catalog g u made) : Logged (log ++ made) u := by
  have hinfos : ∀ {c info}, u.info? c = some info → ∃ value, u.content? c = some (info, value) :=
    UnitOfWork.content?_of_info?
  cases hshift with
  | same _ hcontent =>
    rw [List.append_nil]
    refine ⟨fun hc => h.made ((hcontent _).symm.trans hc), fun hk => h.unmade fun c info hc => ?_⟩
    refine hk c info ?_
    rw [UnitOfWork.info?_eq_content?, hcontent, ← UnitOfWork.info?_eq_content?]
    exact hc
  | @opened t i new _ _ _ hunserved hunit =>
    subst hunit
    rw [List.append_nil]
    refine ⟨fun {c info value} hc => ?_, fun {k} hk => h.unmade fun c info hc => ?_⟩
    · rw [UnitOfWork.content?_openCell] at hc
      split at hc
      · -- nothing has been brought of the new cell's kind
        cases hc
        exact h.unmade fun d other hd => hplaced.kind_ne hunserved hd
      · exact h.made hc
    · refine hk c info ?_
      rw [UnitOfWork.info?_openCell, if_neg, hc]
      rintro rfl
      rw [UnitOfWork.info?, UnitOfWork.cell?_length] at hc
      cases hc
  | @filled d new r _ hempty hcontent =>
    have hnew := UnitOfWork.info?_of_content? hempty
    have hother : ∀ {c info value}, c ≠ d → s.unit.content? c = some (info, value) →
        new.kind ≠ info.kind := fun hne hc hkind =>
      hne (hplaced.apart (UnitOfWork.info?_of_content? hc) hnew hkind.symm)
    refine ⟨fun {c info value} hc => ?_, fun {k} hk => ?_⟩
    · rw [hcontent] at hc
      rw [instances_append, instances_singleton]
      split at hc
      · cases hc
        rw [if_pos rfl, h.made hempty]
        rfl
      · rw [if_neg (hother ‹_› hc), List.append_nil]
        exact h.made hc
    · have hd : u.info? d = some new := by
        rw [UnitOfWork.info?_eq_content?, hcontent, if_pos rfl]
        rfl
      rw [instances_append, instances_singleton, if_neg (hk d new hd), List.append_nil]
      refine h.unmade fun c info hc => ?_
      by_cases hcd : c = d
      · subst hcd
        rw [hnew] at hc
        cases hc
        exact hk c new hd
      · refine hk c info ?_
        rw [UnitOfWork.info?_eq_content?, hcontent, if_neg hcd, ← UnitOfWork.info?_eq_content?]
        exact hc

end Logged

/-! ## requests in a script -/

namespace Scene

/-- In the script, a request of a kind gets as far as its cell. -/
def ReachesCache (catalog : Catalog) (script : List (Signal ρ τ)) (k : EntityType × Access) : Prop :=
  ∃ before t i after, script = before ++ .start t (.resolve i) :: after ∧
    (run catalog {} before).tasks t = none ∧ i.kind = k ∧
    ∃ info, UnitOfWork.variant catalog i = .ok info

/-- In the script, a request that starts after `before` is given the repository. -/
def Granted (catalog : Catalog) (script before : List (Signal ρ τ)) (i : Interface) (r : ρ) : Prop :=
  ∃ t during rest, script = before ++ .start t (.resolve i) :: (during ++ rest) ∧
    (run catalog {} before).tasks t = none ∧ .abandon t ∉ during ∧
    (run catalog {} (before ++ .start t (.resolve i) :: during)).reply? t =
      some (.ok (.repository r))

variable {catalog : Catalog} {script : List (Signal ρ τ)}

theorem logged_run (catalog : Catalog) (script : List (Signal ρ τ))
    (hopen : (run catalog {} script).unit.disposed = false) :
    Logged (constructions catalog {} script) (run catalog {} script).unit := by
  have hstart : Logged [] ({} : Scene ρ τ).unit := ⟨nofun, fun _ => rfl⟩
  exact (regular_start.run_induction (P := fun log s => Logged log s.unit) [] hstart script hopen
    fun _ hs hm h => h.shift hs.placed (hm.shift hs.lined)).2

/-- Every cell has been opened for a request of its kind. -/
theorem asked_run (types : List EntityType) (script : List (Signal ρ τ))
    (hopen : (run (.ofTypes types) {} script).unit.disposed = false) {c : CellId}
    {info : RepositoryInfo} (hc : (run (.ofTypes types) {} script).unit.info? c = some info) :
    ∃ t i, .start t (.resolve i) ∈ script ∧ i.kind = info.kind := by
  refine (regular_start.run_induction (P := fun _ s => ∀ c info, s.unit.info? c = some info →
    ∃ t i, Signal.start t (.resolve i) ∈ script ∧ i.kind = info.kind) [] nofun script hopen
      fun {log g s made s'} hg hs hm h c info hc => ?_).2 c info hc
  rcases (hm.shift hs.lined).infos with ⟨t, i, new, hcall, hinfo, -, hunit⟩ | ⟨-, hinfos⟩
  · rw [hunit, UnitOfWork.info?_openCell] at hc
    split at hc
    · cases hc
      exact ⟨t, i, hcall ▸ hg, (UnitOfWork.variant_kind hinfo).symm⟩
    · exact h c info hc
  · exact h c info ((hinfos c).symm.trans hc)

/-- **What a request has been given** is in the cell that was in use when it had started. -/
theorem Regular.granted {types : List EntityType} {s : Scene ρ τ} (hs : s.Regular) {t : TaskId}
    {i : Interface} {during : List (Signal ρ τ)} {r : ρ} (hfree : s.tasks t = none)
    (hopen : ((s.step (.ofTypes types) (.start t (.resolve i))).1.run (.ofTypes types)
      during).unit.disposed = false)
    (hkept : .abandon t ∉ during)
    (hreply : ((s.step (.ofTypes types) (.start t (.resolve i))).1.run (.ofTypes types)
      during).reply? t = some (.ok (.repository r))) :
    ∃ c info, ((s.step (.ofTypes types) (.start t (.resolve i))).1.run (.ofTypes types)
        during).unit.content? c = some (info, some r) ∧ info.entity = i.entity ∧
      info.access.satisfies i.access = true ∧
      (s.step (.ofTypes types) (.start t (.resolve i))).1.unit.cachedInfo? i.entity = some info := by
  have hopen₁ := open_of_run _ _ during hopen
  have hregular : (s.step (.ofTypes types) (.start t (.resolve i))).1.Regular :=
    hs.run [.start t (.resolve i)] hopen₁
  cases hinfo : UnitOfWork.variant (.ofTypes types) i with
  | error e =>
    -- a request that is refused stays refused
    have hrefused : (s.step (.ofTypes types) (.start t (.resolve i))).1.tasks t =
        some (.finished (.error e)) := by
      rw [step_resolve_refused hfree (open_of_step _ hopen₁) hinfo]
      exact replace_same ..
    have hstill := (hregular.run_induction
      (P := fun _ s' => s'.tasks t = some (.finished (.error e))) [] hrefused during hopen
      fun hg _ hm h => hm.finished h fun he => hkept (he ▸ hg)).2
    rw [reply?, hstill] at hreply
    cases hreply
  | ok info =>
    obtain ⟨hentity, haccess⟩ := Prod.mk.inj (UnitOfWork.variant_kind hinfo)
    obtain ⟨c, other, hentry, hother, hserves, htied⟩ :=
      hs.request hfree hinfo hopen₁ fun _ => True
    obtain ⟨stage, hstage, hfrom⟩ := htied.run hregular during hopen hkept fun _ _ => trivial
    have hgrown := (hregular.grows_run during hopen).info hother
    obtain ⟨info', hinfo', hentity'⟩ := hregular.placed.current hentry
    rw [hother] at hinfo'
    cases hinfo'
    rw [reply?, hstage] at hreply
    cases hfrom with
    | given hcontent =>
      cases hreply
      rw [UnitOfWork.info?_of_content? hcontent] at hgrown
      cases hgrown
      refine ⟨c, _, hcontent, hentity'.trans hentity, haccess ▸ hserves, ?_⟩
      rw [← show info.entity = i.entity from hentity, UnitOfWork.cachedInfo?_of_entry hentry]
      exact hother
    | _ => cases hreply

theorem run_cons_append (catalog : Catalog) (before after : List (Signal ρ τ)) (g : Signal ρ τ) :
    run catalog {} (before ++ g :: after) =
      ((run catalog {} before).step catalog g).1.run catalog after := by
  rw [run_append]
  rfl

/-- A mutating request that has reached the cache leaves a mutating variant in use. -/
theorem ReachesCache.cachedInfo? {types : List EntityType} {e : EntityType}
    (h : ReachesCache (.ofTypes types) script (e, .mutating))
    (hopen : (run (.ofTypes types) {} script).unit.disposed = false) :
    ∃ info, (run (.ofTypes types) {} script).unit.cachedInfo? e = some info ∧
      info.access = .mutating := by
  obtain ⟨before, t, i, after, rfl, hfree, hkind, info, hinfo⟩ := h
  rw [run_cons_append] at hopen ⊢
  have hopen₁ := open_of_run _ _ after hopen
  have hs := regular_start.run before (open_of_step _ hopen₁)
  have hregular : ((run (.ofTypes types) {} before).step (.ofTypes types)
      (.start t (.resolve i))).1.Regular := hs.run [.start t (.resolve i)] hopen₁
  obtain ⟨c, other, hentry, hother, hserves, -⟩ := hs.request hfree hinfo hopen₁ fun _ => True
  obtain ⟨hentity, haccess⟩ := Prod.mk.inj ((UnitOfWork.variant_kind hinfo).trans hkind)
  rw [show info.access = .mutating from haccess] at hserves
  have hmutating := Access.eq_mutating_of_satisfies hserves
  have hcached := UnitOfWork.cachedInfo?_of_entry hentry
  rw [show info.entity = e from hentity, hother] at hcached
  have hadvances := (hregular.grows_run after hopen).advances e
  rw [hcached] at hadvances
  rcases hadvances with h | h | ⟨j, -, h, -, hread, -⟩
  · cases h
  · exact ⟨other, h, hmutating⟩
  · cases h
    rw [hmutating] at hread
    cases hread

/-- **What a request has been given** is the only repository of its kind that is ever brought. -/
theorem Granted.brought {types : List EntityType} {before : List (Signal ρ τ)} {i : Interface}
    {r : ρ} (h : Granted (.ofTypes types) script before i r)
    (hopen : (run (.ofTypes types) {} script).unit.disposed = false) :
    ∃ c info, (run (.ofTypes types) {} script).unit.info? c = some info ∧
      info.entity = i.entity ∧
      instances (i.entity, info.access) (constructions (.ofTypes types) {} script) = [r] ∧
      (ReachesCache (.ofTypes types) before (i.entity, .mutating) → info.access = .mutating) := by
  have hlogged := logged_run (.ofTypes types) script hopen
  obtain ⟨t, during, rest, rfl, hfree, hkept, hreply⟩ := h
  have hopen' := hopen
  rw [← List.cons_append, ← List.append_assoc, run_append] at hopen'
  have hopen₂ := open_of_run _ _ rest hopen'
  have hregular₂ := regular_start.run (before ++ .start t (.resolve i) :: during) hopen₂
  have hgrows := hregular₂.grows_run rest hopen'
  rw [run_cons_append] at hopen₂ hreply
  have hopen₁ := open_of_run _ _ during hopen₂
  have hbefore := open_of_step _ hopen₁
  have hs := regular_start.run before hbefore
  obtain ⟨c, info, hcontent, hentity, hserves, hcached⟩ :=
    hs.granted hfree hopen₂ hkept hreply
  rw [← run_cons_append] at hcontent
  have hfinal := hgrows.value hcontent
  rw [← run_append, List.append_assoc, List.cons_append] at hfinal
  refine ⟨c, info, UnitOfWork.info?_of_content? hfinal, hentity, ?_, fun hreaches => ?_⟩
  · have hmade := hlogged.made hfinal
    rw [show info.kind = (i.entity, info.access) from Prod.ext hentity rfl] at hmade
    exact hmade
  · -- the mutating variant has been in use before
    obtain ⟨used, hused, hmutating⟩ := hreaches.cachedInfo? hbefore
    have hadvances := (hs.grows_run [.start t (.resolve i)] hopen₁).advances i.entity
    rw [hused, show ((run (.ofTypes types) {} before).run (.ofTypes types)
      [.start t (.resolve i)]).unit.cachedInfo? i.entity = some info from hcached] at hadvances
    rcases hadvances with h | h | ⟨j, -, h, -, hread, -⟩
    · cases h
    · cases h
      exact hmutating
    · cases h
      rw [hmutating] at hread
      cases hread

/-- **One instance of each kind**, for every interleaving of requests on a unit that stays open, and
whatever their constructions end in. At most one repository of each access is brought for an entity
type, and its cached variant only advances. All requests that start after a mutating one has reached
the cache and that are given something are given the mutating repository; without mutating requests,
all are given the read-only one. -/
theorem one_instance_of_each_kind (types : List EntityType) (script : List (Signal ρ τ))
    (hopen : (run (.ofTypes types) {} script).unit.disposed = false) (e : EntityType) :
    let catalog := Catalog.ofTypes types
    let brought (access : Access) := instances (e, access) (constructions catalog {} script)
    let cached (script : List (Signal ρ τ)) := (run catalog {} script).unit.cachedInfo? e
    (∀ access, (brought access).length ≤ 1) ∧
    (∀ before mid after, script = before ++ mid ++ after →
      UnitOfWork.Advances (cached before) (cached (before ++ mid))) ∧
    (∀ before i r, Granted catalog script before i r → i.entity = e →
      ReachesCache catalog before (e, .mutating) → brought .mutating = [r]) ∧
    ((∀ t i, .start t (.resolve i) ∈ script → i.entity = e → i.access = .readOnly) →
      ∀ before i r, Granted catalog script before i r → i.entity = e → brought .readOnly = [r]) := by
  intro catalog brought cached
  refine ⟨fun access => (logged_run catalog script hopen).length_le_one _, ?_, ?_, ?_⟩
  · rintro before mid after rfl
    rw [run_append] at hopen
    have hmid := open_of_run _ _ after hopen
    rw [run_append] at hmid
    have hs := regular_start.run before (open_of_run _ _ mid hmid)
    show UnitOfWork.Advances (cached before) ((run catalog {} (before ++ mid)).unit.cachedInfo? e)
    rw [run_append]
    exact (hs.grows_run mid hmid).advances e
  · rintro before i r hgiven rfl hreaches
    obtain ⟨c, info, -, -, hbrought, hmutating⟩ := hgiven.brought hopen
    rw [← hmutating hreaches]
    exact hbrought
  · rintro hreads before i r hgiven rfl
    obtain ⟨c, info, hinfo, he, hbrought, -⟩ := hgiven.brought hopen
    obtain ⟨t, j, hasked, hkind⟩ := asked_run types script hopen hinfo
    obtain ⟨hje, hja⟩ := Prod.mk.inj hkind
    have hread := hreads t j hasked (hje.trans he)
    rw [← show info.access = .readOnly from hja.symm.trans hread]
    exact hbrought

/-- an entity type with a long identifier -/
def jobType : EntityType := ⟨"job", .long, "id", {}, "jobs", "jobs"⟩

/-- A mutating request overtakes a read-only one, and fails; a third one constructs in its place. -/
def overtaking : List (Signal String Unit) :=
  [.start 0 (.resolve (.generic jobType .readOnly)),
    .start 1 (.resolve (.generic jobType .mutating)),
    .start 2 (.resolve (.long jobType .readOnly)),
    .answer 0 (.constructed (.ok "reading")),
    .answer 1 (.constructed (.error .disposed)),
    .wake 2,
    .answer 2 (.constructed (.ok "writing"))]

theorem overtaking_brings_one :
    (run (.ofTypes [jobType]) {} overtaking).unit.disposed = false ∧
      instances (jobType, .mutating) (constructions (.ofTypes [jobType]) {} overtaking) =
        ["writing"] := by
  have hopen : (run (.ofTypes [jobType]) {} overtaking).unit.disposed = false := rfl
  obtain ⟨-, -, hupgraded, -⟩ := one_instance_of_each_kind [jobType] overtaking hopen jobType
  refine ⟨hopen, hupgraded (overtaking.take 2) (.long jobType .readOnly) "writing" ?_ rfl ?_⟩
  · exact ⟨2, overtaking.drop 3, [], rfl, rfl, by simp [overtaking], rfl⟩
  · exact ⟨overtaking.take 1, 1, .generic jobType .mutating, [], rfl, rfl, rfl, _, rfl⟩

end Scene

end RowSpec
