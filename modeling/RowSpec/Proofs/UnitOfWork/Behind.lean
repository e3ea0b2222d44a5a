import RowSpec.Proofs.UnitOfWork.Play

/-!
# One scene behind another

Two scenes that have been told the same, but for one task that is in the first only and stands where
the constructor fails. All that it can do to the others is hold them up at cells that are never
filled.

* `Cell.Behind`     the other cell is of the same kind and at least as far;
* `Scene.Trails`    a task is at least as far in the other scene;
* `Scene.Behind`    so are all tasks but one, and all cells;
* `Scene.Ends`      a request comes to its end at its cell.
-/

namespace RowSpec

variable {ρ τ : Type}

/-! ## cells -/

/-- The other cell is of the same kind and at least as far. -/
structure Cell.Behind (x y : Cell ρ) : Prop where
  kind : y.info.kind = x.info.kind
  value : ∀ {r}, x.value = some r → y.value = some r
  line : y.gate.line.Sublist x.gate.line

namespace Cell.Behind

variable {x y z : Cell ρ} {w : TaskId} {r : ρ}

theorem refl (x : Cell ρ) : x.Behind x := ⟨rfl, id, .refl _⟩

theorem trans (h : x.Behind y) (h' : y.Behind z) : x.Behind z :=
  ⟨h'.kind.trans h.kind, fun hx => h'.value (h.value hx), h'.line.trans h.line⟩

theorem queue_left (h : x.Behind y) (w : TaskId) : (x.queue w).Behind y := by
  refine ⟨h.kind.trans (congrArg _ (x.info_queue w).symm), ?_, ?_⟩
  · intro r hr
    rw [x.value_queue w] at hr
    exact h.value hr
  · cases hx : x.value with
    | none =>
      rw [Cell.queue_of_none hx]
      exact h.line.trans (List.sublist_append_left _ _)
    | some r =>
      rw [Cell.queue_of_some hx]
      exact h.line

theorem queue (h : x.Behind y) (w : TaskId) : (x.queue w).Behind (y.queue w) := by
  cases hy : y.value with
  | some r =>
    rw [Cell.queue_of_some hy]
    exact h.queue_left w
  | none =>
    have hx : x.value = none := by
      cases hx : x.value with
      | none => rfl
      | some r =>
        rw [h.value hx] at hy
        cases hy
    rw [Cell.queue_of_none hx, Cell.queue_of_none hy]
    exact ⟨h.kind, h.value, h.line.append (.refl [w])⟩

theorem release (h : x.Behind y) (w : TaskId) : (x.release w).Behind (y.release w) :=
  ⟨h.kind, h.value, h.line.erase w⟩

/-- A task that has left the line of the other cell already. -/
theorem release_left (h : x.Behind y) (hw : w ∉ y.gate.line) : (x.release w).Behind y := by
  refine ⟨h.kind, h.value, ?_⟩
  rw [← List.erase_of_not_mem hw]
  exact h.line.erase w

theorem fill_left (h : x.Behind y) (hvalue : y.value = some r) (hline : y.gate.line = []) :
    (x.fill r).Behind y := by
  refine ⟨h.kind, fun hr => ?_, ?_⟩
  · cases hr
    exact hvalue
  · rw [hline]
    exact List.nil_sublist _

theorem of_release (x : Cell ρ) (w : TaskId) : x.Behind (x.release w) :=
  ⟨rfl, id, List.erase_sublist⟩

theorem of_fill (h : x.value = none) (r : ρ) : x.Behind (x.fill r) := by
  refine ⟨rfl, fun hr => ?_, List.nil_sublist _⟩
  rw [h] at hr
  cases hr

end Cell.Behind

namespace UnitOfWork

variable {u v u' v' : UnitOfWork ρ τ} {e : EntityType}

/-- the access of the cell in use for a type -/
def serving? (u : UnitOfWork ρ τ) (e : EntityType) : Option Access :=
  (u.cachedInfo? e).map (·.access)

theorem serving?_of_entry {c : CellId} {info : RepositoryInfo} (he : u.entry? e = some c)
    (hc : u.info? c = some info) : u.serving? e = some info.access := by
  rw [serving?, cachedInfo?_of_entry he, hc]
  rfl

theorem serving?_of_none (he : u.entry? e = none) : u.serving? e = none := by
  rw [serving?, cachedInfo?_of_none he]
  rfl

theorem serving?_eq_some {access : Access} (h : u.serving? e = some access) :
    ∃ c info, u.entry? e = some c ∧ u.info? c = some info ∧ info.access = access := by
  cases hentry : u.entry? e with
  | none =>
    rw [serving?_of_none hentry] at h
    cases h
  | some c =>
    obtain ⟨info, hcached, haccess⟩ := Option.map_eq_some_iff.mp h
    rw [cachedInfo?_of_entry hentry] at hcached
    exact ⟨c, info, rfl, hcached, haccess⟩

theorem Unserved.serving? {info : RepositoryInfo} (h : u.Unserved info) {access : Access}
    (hserving : u.serving? info.entity = some access) :
    access.satisfies info.access = false := by
  obtain ⟨c, other, hentry, hother, rfl⟩ := serving?_eq_some hserving
  exact h c other hentry hother

theorem serving?_openCell (u : UnitOfWork ρ τ) (info : RepositoryInfo) :
    (u.openCell info).1.serving? info.entity = some info.access := by
  rw [serving?, cachedInfo?_openCell]
  rfl

theorem Placed.serving?_openCell_other (h : u.Placed) {info : RepositoryInfo}
    (he : e ≠ info.entity) : (u.openCell info).1.serving? e = u.serving? e := by
  rw [serving?, serving?, h.cachedInfo?_openCell_other he]

theorem Placed.serving?_of_grows (h : u.Placed) (hgrows : u.Grows u')
    (hentries : u'.entries = u.entries) (e : EntityType) : u'.serving? e = u.serving? e := by
  have hentry : u'.entry? e = u.entry? e := by
    rw [UnitOfWork.entry?, UnitOfWork.entry?, hentries]
  cases he : u.entry? e with
  | none => rw [serving?_of_none he, serving?_of_none (hentry.trans he)]
  | some c =>
    obtain ⟨info, hc, -⟩ := h.current he
    rw [serving?_of_entry he hc, serving?_of_entry (hentry.trans he) (hgrows.info hc)]

/-- Both units use cells of the same access for a type, or the second one uses none and the first
one a cell that cannot be filled. -/
def Lags (make : Constructors ρ) (u v : UnitOfWork ρ τ) (e : EntityType) : Prop :=
  v.serving? e = u.serving? e ∨ v.serving? e = none ∧ u.serving? e = some .readOnly ∧
    ∃ x, make (e, .readOnly) = .error x

theorem Grows.of_contents (hentries : u'.entries = u.entries)
    (hcontent : ∀ c, u'.content? c = u.content? c) : u.Grows u' := by
  have hinfo : ∀ c, u'.info? c = u.info? c := fun c => by
    rw [info?_eq_content?, info?_eq_content?, hcontent]
  refine ⟨fun hc => (hinfo _).trans hc, fun hc => (hcontent _).trans hc,
    fun e => .inr (.inl (cachedInfo?_congr ?_ hinfo))⟩
  rw [UnitOfWork.entry?, UnitOfWork.entry?, hentries]

end UnitOfWork

namespace Scene

variable {make : Constructors ρ} {catalog : Catalog} {s s' A A' B B' : Scene ρ τ} {t w : TaskId}
  {c d : CellId} {cell : Cell ρ}

/-! ## tasks -/

/-- A task is at least as far in the second scene. Where it stands at a cell in the first one, it
stands at a cell of the same kind in the second one, or has been answered from it. -/
inductive Trails (make : Constructors ρ) (A B : Scene ρ τ) (w : TaskId) : Prop
  | same (hplace : A.place? w = none) (htask : B.tasks w = A.tasks w)
  | standing {c d i j} (hplace : A.place? w = some c) (hi : A.unit.info? c = some i)
      (hj : B.unit.info? d = some j) (hkind : j.kind = i.kind)
      (htied : B.Tied w d (make j.kind = .error ·))
      (hturn : A.tasks w = some (.constructing c) → B.tasks w ≠ some (.waiting d))

theorem Tied.grows {refusal : RepoError → Prop} (h : s.Tied t c refusal)
    (htask : s'.tasks t = s.tasks t) (hgrows : s.unit.Grows s'.unit) : s'.Tied t c refusal := by
  obtain ⟨stage, hstage, hfrom⟩ := h
  exact ⟨stage, htask.trans hstage, hfrom.grows hgrows⟩

theorem place?_congr (h : s'.tasks t = s.tasks t) : s'.place? t = s.place? t := by
  rw [place?, place?, h]

theorem Trails.grows (h : Trails make A B w) (htaskA : A'.tasks w = A.tasks w)
    (htaskB : B'.tasks w = B.tasks w) (hA : A.unit.Grows A'.unit) (hB : B.unit.Grows B'.unit) :
    Trails make A' B' w := by
  cases h with
  | same hplace htask =>
    exact .same ((place?_congr htaskA).trans hplace) (htaskB.trans (htask.trans htaskA.symm))
  | standing hplace hi hj hkind htied hturn =>
    refine .standing ((place?_congr htaskA).trans hplace) (hA.info hi) (hB.info hj) hkind
      (htied.grows htaskB hB) ?_
    rw [htaskA, htaskB]
    exact hturn

/-- The scene after a turn of one task, at the cells that were in use. -/
structure Passes (w : TaskId) (s s' : Scene ρ τ) : Prop where
  others : ∀ {w'}, w' ≠ w → s'.tasks w' = s.tasks w'
  grows : s.unit.Grows s'.unit
  entries : s'.unit.entries = s.unit.entries

theorem Passes.refl (w : TaskId) (s : Scene ρ τ) : Passes w s s := ⟨fun _ => rfl, .refl _, rfl⟩

theorem passes_queued (s : Scene ρ τ) (w : TaskId) (c : CellId) : Passes w s (s.queued w c) :=
  ⟨fun hw => replace_other _ _ hw, .of_contents rfl (s.unit.content?_queue w c), rfl⟩

/-- A longer line in the first scene. -/
theorem cell_queued (s : Scene ρ τ) (w : TaskId) (c : CellId) {x y : Cell ρ}
    (hd : s.unit.cell? d = some x) (hxy : x.Behind y) :
    ∃ x', (s.queued w c).unit.cell? d = some x' ∧ x'.Behind y := by
  by_cases hdc : d = c
  · subst hdc
    exact ⟨_, cell?_queued hd w, hxy.queue_left w⟩
  · exact ⟨x, (cell?_queued_other s w hdc).trans hd, hxy⟩

/-! ## scenes -/

/-- A task that stands at cells whose constructor fails, if it stands at any. -/
def Fails (make : Constructors ρ) (s : Scene ρ τ) (t : TaskId) : Prop :=
  ∀ stage, s.tasks t = some stage → stage.isOfCell = true ∧
    ∀ c i, stage.cell? = some c → s.unit.info? c = some i → ∃ e, make i.kind = .error e

/-- All tasks but one, and all cells, are at least as far in the second scene, which that task is
not in. -/
structure Behind (make : Constructors ρ) (t : TaskId) (A B : Scene ρ τ) : Prop where
  alike : A.unit.Alike B.unit
  serving : ∀ e, A.unit.Lags make B.unit e
  cell : ∀ {d y}, B.unit.cell? d = some y → ∃ c x, A.unit.cell? c = some x ∧ x.Behind y
  task : ∀ {w}, w ≠ t → Trails make A B w
  away : B.tasks t = none
  fails : A.Fails make t

theorem Fails.grows (h : s.Fails make t) (hs : s.Lined) (htask : s'.tasks t = s.tasks t)
    (hgrows : s.unit.Grows s'.unit) : s'.Fails make t := by
  intro stage hstage
  rw [htask] at hstage
  obtain ⟨hcell, hfails⟩ := h stage hstage
  refine ⟨hcell, fun c i hc hi => hfails c i hc ?_⟩
  obtain ⟨cell, hcell, -⟩ := hs.waits ((place?_of_task hstage).trans hc)
  have hinfo := UnitOfWork.info?_of_cell hcell
  rw [hgrows.info hinfo] at hi
  rw [hinfo, hi]

namespace Behind

theorem refl (make : Constructors ρ) (hs : s.Lined) (hfree : s.tasks t = none) :
    Behind make t s s where
  alike := .refl _
  serving e := .inl rfl
  cell hd := ⟨_, _, hd, .refl _⟩
  task {w} _ := by
    cases hplace : s.place? w with
    | none => exact .same hplace rfl
    | some c =>
      obtain ⟨cell, hcell, -⟩ := hs.waits hplace
      have hinfo := UnitOfWork.info?_of_cell hcell
      obtain ⟨stage, hstage, hc⟩ := Option.bind_eq_some_iff.mp hplace
      cases stage with
      | waiting c' =>
        cases hc
        refine .standing hplace hinfo hinfo rfl ⟨_, hstage, .waiting⟩ fun hconstructs => ?_
        rw [hstage] at hconstructs
        cases hconstructs
      | constructing c' =>
        cases hc
        refine .standing hplace hinfo hinfo rfl ⟨_, hstage, .constructing⟩ fun _ hwaits => ?_
        rw [hstage] at hwaits
        cases hwaits
      | _ => cases hc
  away := hfree
  fails stage hstage := by
    rw [hfree] at hstage
    cases hstage

theorem lags (h : Behind make t A B) (hA : A.Regular) (hB : B.Regular) (pA : Passes w A A')
    (pB : Passes w B B') (e : EntityType) : A'.unit.Lags make B'.unit e := by
  rw [UnitOfWork.Lags, hA.placed.serving?_of_grows pA.grows pA.entries,
    hB.placed.serving?_of_grows pB.grows pB.entries]
  exact h.serving e

/-- **A turn in both scenes**, or in one of them. -/
theorem turn (h : Behind make t A B) (hA : A.Regular) (hB : B.Regular) (hw : w ≠ t)
    (pA : Passes w A A') (pB : Passes w B B') (halike : A'.unit.Alike B'.unit)
    (hcell : ∀ {d y}, B'.unit.cell? d = some y → ∃ c x, A'.unit.cell? c = some x ∧ x.Behind y)
    (htask : Trails make A' B' w) : Behind make t A' B' where
  alike := halike
  serving := h.lags hA hB pA pB
  cell := hcell
  task {w'} hw' := by
    by_cases hsame : w' = w
    · rw [hsame]
      exact htask
    · exact (h.task hw').grows (pA.others hsame) (pB.others hsame) pA.grows pB.grows
  away := (pB.others hw.symm).trans h.away
  fails := h.fails.grows hA.lined (pA.others hw.symm) pA.grows

/-- **A turn of the task** that only the first scene has. -/
theorem own_turn (h : Behind make t A B) (hA : A.Regular) (hB : B.Regular)
    (pA : Passes t A A') (halike : A'.unit.Alike B.unit)
    (hcell : ∀ {d y}, B.unit.cell? d = some y → ∃ c x, A'.unit.cell? c = some x ∧ x.Behind y)
    (hfails : A'.Fails make t) : Behind make t A' B where
  alike := halike
  serving := h.lags hA hB pA (.refl t B)
  cell := hcell
  task hw := (h.task hw).grows (pA.others hw) rfl pA.grows (.refl _)
  away := h.away
  fails := hfails

end Behind

/-! ## requests that come to an end -/

/-- A request comes to its end at its cell. -/
inductive Ends (make : Constructors ρ) (w : TaskId) (s : Scene ρ τ) : Scene ρ τ → Prop
  | given {c cell r} (ht : s.tasks w = some (.waiting c)) (hcell : s.unit.cell? c = some cell)
      (hvalue : cell.value = some r) :
      Ends make w s ⟨s.unit, replace s.tasks w (some (.finished (.ok (.repository r))))⟩
  | built {c cell r} (ht : s.tasks w = some (.constructing c)) (hcell : s.unit.cell? c = some cell)
      (hmake : make cell.info.kind = .ok r) :
      Ends make w s ⟨s.unit.modifyCell c (·.fill r),
        replace s.tasks w (some (.finished (.ok (.repository r))))⟩
  | failed {c cell e} (ht : s.tasks w = some (.constructing c)) (hcell : s.unit.cell? c = some cell)
      (hmake : make cell.info.kind = .error e) :
      Ends make w s ⟨s.unit.modifyCell c (·.release w),
        replace s.tasks w (some (.finished (.error e)))⟩

namespace Ends

theorem move (h : Ends make w s s') (catalog : Catalog) :
    ∃ g made, s.told make g ≠ .abandon w ∧ Move catalog s (s.told make g) made s' := by
  cases h with
  | given ht hcell hvalue => exact ⟨.wake w, [], nofun, .given ht hcell hvalue⟩
  | @built c cell r ht hcell hmake =>
    have htold := told_constructing make ht (UnitOfWork.info?_of_cell hcell)
      (.constructed (.ok r))
    rw [hmake] at htold
    refine ⟨.answer w (.constructed (.ok r)), [(cell.info, r)], ?_, ?_⟩
    · rw [htold]
      exact nofun
    · rw [htold]
      exact .built ht hcell
  | @failed c cell e ht hcell hmake =>
    have htold := told_constructing make ht (UnitOfWork.info?_of_cell hcell)
      (.constructed (.error e))
    rw [hmake] at htold
    refine ⟨.answer w (.constructed (.error e)), [], ?_, ?_⟩
    · rw [htold]
      exact nofun
    · rw [htold]
      exact .failed ht

theorem faithful (h : Ends make w s s') (hs : s.Faithful make) : s'.Faithful make := by
  obtain ⟨g, made, -, hmove⟩ := h.move (.ofTypes [])
  exact hs.move hmove

theorem passes (h : Ends make w s s') (hs : s.Faithful make) : Passes w s s' := by
  obtain ⟨g, made, -, hmove⟩ := h.move (.ofTypes [])
  refine ⟨fun hw => ?_, hs.grows hmove, ?_⟩
  · cases h <;> exact replace_other _ _ hw
  · cases h <;> rfl

theorem alike (h : Ends make w s s') : s.unit.Alike s'.unit := by
  cases h <;> exact ⟨rfl, rfl, rfl⟩

theorem place?_eq_none (h : Ends make w s s') : s'.place? w = none := by
  cases h <;> exact place?_replace_same ..

theorem reply (h : Ends make w s s') (hs : s.Faithful make) :
    ∃ c info, s.place? w = some c ∧ s.unit.info? c = some info ∧
      s'.tasks w = some (.finished (make.reply info.kind)) := by
  cases h with
  | given ht hcell hvalue =>
    have hcontent := UnitOfWork.content?_of_cell hcell
    rw [hvalue] at hcontent
    refine ⟨_, _, place?_of_task ht, UnitOfWork.info?_of_cell hcell, ?_⟩
    rw [Constructors.reply, hs.made hcontent]
    exact replace_same ..
  | built ht hcell hmake | failed ht hcell hmake =>
    refine ⟨_, _, place?_of_task ht, UnitOfWork.info?_of_cell hcell, ?_⟩
    rw [Constructors.reply, hmake]
    exact replace_same ..

theorem tied (h : Ends make w s s') (hs : s.Faithful make) {info : RepositoryInfo}
    (hinfo : s.unit.info? c = some info) (htied : s.Tied w c (make info.kind = .error ·)) :
    s'.Tied w c (make info.kind = .error ·) := by
  obtain ⟨g, made, hkept, hmove⟩ := h.move (.ofTypes [])
  exact htied.move hs.toRegular hmove hkept fun e he ht => told_eq_constructed he ht hinfo

/-- The cells get further. -/
theorem cell_front (h : Ends make w s s') (hs : s.Lined) {y' : Cell ρ}
    (hc : s'.unit.cell? c = some y') : ∃ y, s.unit.cell? c = some y ∧ y.Behind y' := by
  have hmodify : ∀ {d : CellId} {change : Cell ρ → Cell ρ},
      (s.unit.modifyCell d change).cell? c = some y' →
      (∀ cell, s.unit.cell? d = some cell → cell.Behind (change cell)) →
      ∃ y, s.unit.cell? c = some y ∧ y.Behind y' := by
    intro d change hc hchange
    rw [UnitOfWork.cell?_modifyCell] at hc
    split at hc
    · obtain ⟨cell, hcell, rfl⟩ := Option.map_eq_some_iff.mp hc
      exact ⟨cell, hcell, hchange cell (‹c = d› ▸ hcell)⟩
    · exact ⟨y', hc, .refl y'⟩
  cases h with
  | given => exact ⟨y', hc, .refl y'⟩
  | built ht hcell =>
    exact hmodify hc fun cell hcell => .of_fill (hs.value_eq_none ht hcell) _
  | failed => exact hmodify hc fun cell _ => .of_release cell w

/-- They do not get further than others that the task has left already. -/
theorem cell_back (h : Ends make w s s') {x y : Cell ρ} (hc : s.unit.cell? c = some x)
    (hxy : x.Behind y) (hout : w ∉ y.gate.line)
    (hfilled : ∀ r, s.place? w = some c → make x.info.kind = .ok r →
      y.value = some r ∧ y.gate.line = []) :
    ∃ x', s'.unit.cell? c = some x' ∧ x'.Behind y := by
  have hmodify : ∀ {d : CellId} {change : Cell ρ → Cell ρ},
      (c = d → (change x).Behind y) →
      ∃ x', (s.unit.modifyCell d change).cell? c = some x' ∧ x'.Behind y := by
    intro d change hchange
    rw [UnitOfWork.cell?_modifyCell, hc]
    split
    · exact ⟨change x, rfl, hchange ‹_›⟩
    · exact ⟨x, rfl, hxy⟩
  cases h with
  | given => exact ⟨x, hc, hxy⟩
  | built ht hcell hmake =>
    refine hmodify fun hcd => ?_
    subst hcd
    rw [hc] at hcell
    cases hcell
    obtain ⟨hvalue, hline⟩ := hfilled _ (place?_of_task ht) hmake
    exact hxy.fill_left hvalue hline
  | failed => exact hmodify fun _ => hxy.release_left hout

end Ends

theorem Tied.finished {refusal : RepoError → Prop} (h : s.Tied t c refusal)
    (hplace : s.place? t = none) :
    ∃ reply, s.tasks t = some (.finished reply) ∧ From s.unit c refusal (.finished reply) := by
  obtain ⟨stage, hstage, hfrom⟩ := h
  rw [place?_of_task hstage] at hplace
  cases hfrom with
  | waiting | constructing => cases hplace
  | given h => exact ⟨_, hstage, .given h⟩
  | refused h => exact ⟨_, hstage, .refused h⟩

namespace Behind

/-- **Other tasks may finish first** in the second scene. -/
theorem front (h : Behind make t A B) (hA : A.Regular) (hB : B.Faithful make) (hw : w ≠ t)
    (hends : Ends make w B B') : Behind make t A B' := by
  refine h.turn hA hB.toRegular hw (.refl w A) (hends.passes hB) (h.alike.trans hends.alike) ?_ ?_
  · intro d y' hy'
    obtain ⟨y, hy, hyy⟩ := hends.cell_front hB.lined hy'
    obtain ⟨c, x, hx, hxy⟩ := h.cell hy
    exact ⟨c, x, hx, hxy.trans hyy⟩
  · cases h.task hw with
    | same hplace htask =>
      obtain ⟨c, info, hstands, -⟩ := hends.reply hB
      rw [place?_congr htask, hplace] at hstands
      cases hstands
    | standing hplace hi hj hkind htied _ =>
      refine .standing hplace hi ((hends.passes hB).grows.info hj) hkind (hends.tied hB hj htied)
        fun _ hwaits => ?_
      have hgone := hends.place?_eq_none
      rw [place?_of_task hwaits] at hgone
      cases hgone

/-- What a task builds in the first scene is there in the second one, if the task has gone. -/
theorem filled (h : Behind make t A B) (hB : B.Faithful make) (hdone : B.place? w = none)
    (hplace : A.place? w = some c) {x y : Cell ρ} (hx : A.unit.cell? c = some x)
    (hy : B.unit.cell? d = some y) (hxy : x.Behind y) {r : ρ} (hmake : make x.info.kind = .ok r) :
    y.value = some r ∧ y.gate.line = [] := by
  by_cases hw : w = t
  · -- that task stands where the constructor fails
    subst hw
    obtain ⟨stage, hstage, hc⟩ := Option.bind_eq_some_iff.mp hplace
    obtain ⟨e, he⟩ := (h.fails stage hstage).2 c x.info hc (UnitOfWork.info?_of_cell hx)
    rw [hmake] at he
    cases he
  · cases h.task hw with
    | same hnone _ =>
      rw [hplace] at hnone
      cases hnone
    | standing hplace' hi hj hkind htied _ =>
      rw [hplace] at hplace'
      cases hplace'
      rw [UnitOfWork.info?_of_cell hx] at hi
      cases hi
      obtain ⟨reply, -, hfrom⟩ := htied.finished hdone
      cases hfrom with
      | refused hrefused =>
        rw [hkind, hmake] at hrefused
        cases hrefused
      | given hcontent =>
        have hmade := hB.made hcontent
        have hj' := UnitOfWork.info?_of_content? hcontent
        rw [hj] at hj'
        cases hj'
        rw [hkind, hmake] at hmade
        cases hmade
        cases hB.placed.apart (UnitOfWork.info?_of_cell hy) hj (hxy.kind.trans hkind.symm)
        have hvalue := UnitOfWork.content?_of_cell hy
        rw [hcontent] at hvalue
        have hfilled : y.value = some r := (Prod.mk.inj (Option.some.inj hvalue)).2.symm
        exact ⟨hfilled, hB.lined.empty hy hfilled⟩

/-- **The first scene catches up** with a task that has finished in the second one, or is not there. -/
theorem back (h : Behind make t A B) (hA : A.Faithful make) (hB : B.Faithful make)
    (hends : Ends make w A A') (hdone : B.place? w = none) : Behind make t A' B := by
  have halike : A'.unit.Alike B.unit :=
    ⟨h.alike.disposed.trans hends.alike.disposed.symm,
      h.alike.transaction.trans hends.alike.transaction.symm,
      h.alike.gate.trans hends.alike.gate.symm⟩
  have hcell : ∀ {d y}, B.unit.cell? d = some y →
      ∃ c x, A'.unit.cell? c = some x ∧ x.Behind y := by
    intro d y hy
    obtain ⟨c, x, hx, hxy⟩ := h.cell hy
    have hout : w ∉ y.gate.line := fun hmem => by
      rw [hB.lined.stands hy hmem] at hdone
      cases hdone
    obtain ⟨x', hx', hxy'⟩ := hends.cell_back hx hxy hout fun r hplace hmake =>
      h.filled hB hdone hplace hx hy hxy hmake
    exact ⟨c, x', hx', hxy'⟩
  obtain ⟨c, info, hplace, hinfo, hreply⟩ := hends.reply hA
  by_cases hw : w = t
  · subst hw
    refine h.own_turn hA.toRegular hB.toRegular (hends.passes hA) halike hcell fun stage hstage => ?_
    rw [hreply] at hstage
    cases hstage
    exact ⟨rfl, nofun⟩
  · refine h.turn hA.toRegular hB.toRegular hw (hends.passes hA) (.refl w B) halike hcell
      (.same hends.place?_eq_none ?_)
    cases h.task hw with
    | same hnone _ =>
      rw [hplace] at hnone
      cases hnone
    | standing hplace' hi hj hkind htied _ =>
      rw [hplace] at hplace'
      cases hplace'
      rw [hinfo] at hi
      cases hi
      obtain ⟨reply, htask, hfrom⟩ := htied.finished hdone
      rw [htask, hreply, hB.reply_of_from hj hfrom, hkind]

/-! ## requests on their way -/

theorem front_entered (h : Behind make t A B) (hA : A.Regular) (hB : B.Regular) (hw : w ≠ t)
    (ht : B.tasks w = some (.waiting d)) :
    Behind make t A ⟨B.unit, replace B.tasks w (some (.constructing d))⟩ := by
  refine h.turn hA hB hw (.refl w A) ⟨fun hw => replace_other _ _ hw, .refl _, rfl⟩ h.alike
    h.cell ?_
  cases h.task hw with
  | same hplace htask =>
    rw [← place?_congr htask, place?_of_task ht] at hplace
    cases hplace
  | standing hplace hi hj hkind htied _ =>
    obtain ⟨stage, hstage, hfrom⟩ := htied
    rw [ht] at hstage
    cases hstage
    cases hfrom
    refine .standing hplace hi hj hkind ⟨_, replace_same .., .constructing⟩ fun _ hwaits => ?_
    cases eq_of_replace_same hwaits

theorem back_entered (h : Behind make t A B) (hA : A.Regular) (hB : B.Regular)
    (ht : A.tasks w = some (.waiting c)) (hturn : ∀ d, B.tasks w ≠ some (.waiting d)) :
    Behind make t ⟨A.unit, replace A.tasks w (some (.constructing c))⟩ B := by
  have hpasses : Passes w A ⟨A.unit, replace A.tasks w (some (.constructing c))⟩ :=
    ⟨fun hw => replace_other _ _ hw, .refl _, rfl⟩
  by_cases hw : w = t
  · subst hw
    refine h.own_turn hA hB hpasses h.alike h.cell fun stage hstage => ?_
    cases eq_of_replace_same hstage
    exact ⟨rfl, (h.fails _ ht).2⟩
  · refine h.turn hA hB hw hpasses (.refl w B) h.alike h.cell ?_
    cases h.task hw with
    | same hplace _ =>
      rw [place?_of_task ht] at hplace
      cases hplace
    | standing hplace hi hj hkind htied _ =>
      rw [place?_of_task ht] at hplace
      cases hplace
      exact .standing (place?_replace_same ..) hi hj hkind htied fun _ => hturn _

theorem joined (h : Behind make t A B) (hA : A.Regular) (hB : B.Regular) (hw : w ≠ t)
    {x y : Cell ρ} (hx : A.unit.cell? c = some x) (hy : B.unit.cell? d = some y)
    (hkind : y.info.kind = x.info.kind) : Behind make t (A.queued w c) (B.queued w d) := by
  refine h.turn hA hB hw (passes_queued A w c) (passes_queued B w d)
    ⟨h.alike.disposed, h.alike.transaction, h.alike.gate⟩ ?_ ?_
  · intro d' y' hy'
    by_cases hd : d' = d
    · subst hd
      rw [cell?_queued hy] at hy'
      cases hy'
      obtain ⟨c', x', hx', hxy⟩ := h.cell hy
      cases hA.placed.apart (UnitOfWork.info?_of_cell hx') (UnitOfWork.info?_of_cell hx)
        (hxy.kind.symm.trans hkind)
      rw [hx] at hx'
      cases hx'
      exact ⟨c, _, cell?_queued hx w, hxy.queue w⟩
    · rw [cell?_queued_other B w hd] at hy'
      obtain ⟨c', x', hx', hxy⟩ := h.cell hy'
      exact ⟨c', cell_queued A w c hx' hxy⟩
  · refine .standing (place?_replace_same ..)
      ((passes_queued A w c).grows.info (UnitOfWork.info?_of_cell hx))
      ((passes_queued B w d).grows.info (UnitOfWork.info?_of_cell hy)) hkind
      ⟨_, replace_same .., .waiting⟩ fun hconstructs => ?_
    cases eq_of_replace_same hconstructs

theorem own_joined (h : Behind make t A B) (hA : A.Regular) (hB : B.Regular) {x : Cell ρ}
    (hx : A.unit.cell? c = some x) (hfails : ∃ e, make x.info.kind = .error e) :
    Behind make t (A.queued t c) B := by
  refine h.own_turn hA hB (passes_queued A t c)
    ⟨h.alike.disposed, h.alike.transaction, h.alike.gate⟩ ?_ fun stage hstage => ?_
  · intro d y hy
    obtain ⟨c', x', hx', hxy⟩ := h.cell hy
    exact ⟨c', cell_queued A t c hx' hxy⟩
  · cases eq_of_replace_same hstage
    refine ⟨rfl, fun c' i hc hi => ?_⟩
    cases hc
    rw [(passes_queued A t c).grows.info (UnitOfWork.info?_of_cell hx)] at hi
    cases hi
    exact hfails

/-! ## new cells, other calls -/

/-- Cells are opened in the two scenes, or in one of them. -/
theorem units (h : Behind make t A B) (hA : A.Regular) {u v : UnitOfWork ρ τ}
    (halike : u.Alike v) (growsA : A.unit.Grows u) (growsB : B.unit.Grows v)
    (hserving : ∀ e, u.Lags make v e)
    (hcell : ∀ {d y}, v.cell? d = some y → ∃ c x, u.cell? c = some x ∧ x.Behind y) :
    Behind make t ⟨u, A.tasks⟩ ⟨v, B.tasks⟩ where
  alike := halike
  serving := hserving
  cell := hcell
  task hw := (h.task hw).grows rfl rfl growsA growsB
  away := h.away
  fails := h.fails.grows hA.lined rfl growsA

theorem opened (h : Behind make t A B) (hA : A.Regular) (hB : B.Regular) {info : RepositoryInfo}
    (growsA : A.unit.Grows (A.unit.openCell info).1)
    (growsB : B.unit.Grows (B.unit.openCell info).1) :
    Behind make t ⟨(A.unit.openCell info).1, A.tasks⟩ ⟨(B.unit.openCell info).1, B.tasks⟩ := by
  refine h.units hA ⟨h.alike.disposed, h.alike.transaction, h.alike.gate⟩ growsA growsB
    (fun e => ?_) fun {d y} hy => ?_
  · by_cases he : e = info.entity
    · subst he
      left
      rw [UnitOfWork.serving?_openCell, UnitOfWork.serving?_openCell]
    · rw [UnitOfWork.Lags, hA.placed.serving?_openCell_other he,
        hB.placed.serving?_openCell_other he]
      exact h.serving e
  · rcases UnitOfWork.cell?_openCell_cases hy with rfl | hy
    · have hnew := A.unit.cell?_openCell info A.unit.cells.length
      rw [if_pos rfl] at hnew
      exact ⟨_, _, hnew, .refl _⟩
    · obtain ⟨c, x, hx, hxy⟩ := h.cell hy
      exact ⟨c, x, UnitOfWork.cell?_openCell_of_some hx, hxy⟩

/-- The second scene opens a cell that the first one has already. -/
theorem front_opened (h : Behind make t A B) (hA : A.Faithful make) (hB : B.Regular)
    {info : RepositoryInfo} {x : Cell ρ} (hx : A.unit.cell? c = some x)
    (hkind : x.info.kind = info.kind) (hserving : A.unit.serving? info.entity = some info.access)
    (hfails : ∃ e, make info.kind = .error e) (growsB : B.unit.Grows (B.unit.openCell info).1) :
    Behind make t A ⟨(B.unit.openCell info).1, B.tasks⟩ := by
  refine h.units hA.toRegular ⟨h.alike.disposed, h.alike.transaction, h.alike.gate⟩ (.refl _) growsB
    (fun e => ?_) fun {d y} hy => ?_
  · by_cases he : e = info.entity
    · subst he
      left
      rw [UnitOfWork.serving?_openCell, hserving]
    · rw [UnitOfWork.Lags, hB.placed.serving?_openCell_other he]
      exact h.serving e
  · rcases UnitOfWork.cell?_openCell_cases hy with rfl | hy
    · refine ⟨c, x, hx, hkind.symm, fun {r} hr => ?_, List.nil_sublist _⟩
      -- that cell is empty
      have hcontent := UnitOfWork.content?_of_cell hx
      rw [hr] at hcontent
      have hmade := hA.made hcontent
      obtain ⟨e, he⟩ := hfails
      rw [hkind, he] at hmade
      cases hmade
    · exact h.cell hy

/-- The first scene opens a cell that is never filled. -/
theorem back_opened (h : Behind make t A B) (hA : A.Regular) {info : RepositoryInfo}
    (hread : info.access = .readOnly) (hfails : ∃ e, make info.kind = .error e)
    (hserving : B.unit.serving? info.entity = none)
    (growsA : A.unit.Grows (A.unit.openCell info).1) :
    Behind make t ⟨(A.unit.openCell info).1, A.tasks⟩ B := by
  refine h.units hA ⟨h.alike.disposed, h.alike.transaction, h.alike.gate⟩ growsA (.refl _)
    (fun e => ?_) fun {d y} hy => ?_
  · by_cases he : e = info.entity
    · subst he
      refine .inr ⟨hserving, ?_, ?_⟩
      · rw [UnitOfWork.serving?_openCell, hread]
      · rw [RepositoryInfo.kind, hread] at hfails
        exact hfails
    · rw [UnitOfWork.Lags, hA.placed.serving?_openCell_other he]
      exact h.serving e
  · obtain ⟨c, x, hx, hxy⟩ := h.cell hy
    exact ⟨c, x, UnitOfWork.cell?_openCell_of_some hx, hxy⟩

theorem aside (h : Behind make t A B) (hA : A.Regular) (hB : B.Regular) (hw : w ≠ t)
    {turn turn' : Turn ρ τ} (hturn : turn.Aside A.unit B.unit turn')
    (hopen : turn.unit.disposed = false) :
    Behind make t (A.afterTurn w turn).1 (B.afterTurn w turn').1 := by
  obtain ⟨-, ⟨hentriesA, hcellsA⟩, hentriesB, hcellsB⟩ := hturn.kept hopen
  have hpasses : ∀ {s : Scene ρ τ} {turn : Turn ρ τ}, turn.unit.entries = s.unit.entries →
      turn.unit.cells = s.unit.cells → Passes w s (s.afterTurn w turn).1 :=
    fun hentries hcells => ⟨fun hw => replace_other _ _ hw, .of_contents hentries fun c => by
      rw [UnitOfWork.content?, UnitOfWork.cell?]
      show Option.map _ (Turn.unit _).cells[c]? = _
      rw [hcells]
      rfl, hentries⟩
  refine h.turn hA hB hw (hpasses hentriesA hcellsA) (hpasses hentriesB hcellsB) hturn.alike ?_ ?_
  · intro d y hy
    have hold : B.unit.cell? d = some y := by
      rw [← hy, UnitOfWork.cell?, ← hcellsB]
      rfl
    obtain ⟨c, x, hx, hxy⟩ := h.cell hold
    refine ⟨c, x, ?_, hxy⟩
    rw [← hx, UnitOfWork.cell?, UnitOfWork.cell?, ← hcellsA]
    rfl
  · refine .same ((place?_replace_same ..).trans hturn.cell) ?_
    show replace B.tasks w (some turn'.stage) w = replace A.tasks w (some turn.stage) w
    rw [replace_same, replace_same, hturn.stage]

end Behind

/-! ## dropped tasks -/

theorem step_abandon (ht : s.tasks t = none) : (s.step catalog (.abandon t)).1 = s := by
  rw [step, ht]

/-- A task that is dropped leaves all lines, if it stands in any. -/
theorem Lined.cell?_abandon (hs : s.Lined) (catalog : Catalog) (t : TaskId) (d : CellId) :
    (s.step catalog (.abandon t)).1.unit.cell? d = (s.unit.cell? d).map (·.release t) := by
  have hout : s.place? t ≠ some d → (s.unit.cell? d).map (·.release t) = s.unit.cell? d := by
    intro hplace
    cases hd : s.unit.cell? d with
    | none => rfl
    | some cell =>
      show some { cell with gate := ⟨cell.gate.line.erase t⟩ } = _
      rw [hs.erase_of_place? hd hplace]
  cases ht : s.tasks t with
  | none =>
    rw [step_abandon ht, hout]
    rw [place?, ht]
    exact fun h => by cases h
  | some stage =>
    have hplace := place?_of_task ht
    rw [step, ht]
    have hcell : ∀ {c}, stage.cell? = some c →
        (s.unit.modifyCell c (·.release t)).cell? d = (s.unit.cell? d).map (·.release t) := by
      intro c hc
      rw [UnitOfWork.cell?_modifyCell]
      split
      · rfl
      · rw [hout]
        rw [hplace, hc]
        exact fun hcd => ‹¬ d = c› (Option.some.inj hcd).symm
    cases stage with
    | waiting c | constructing c => exact hcell rfl
    | _ =>
      rw [hout]
      · rfl
      · rw [hplace]
        exact fun h => by cases h

theorem tasks_abandon (s : Scene ρ τ) (catalog : Catalog) (t : TaskId) :
    (s.step catalog (.abandon t)).1.tasks t = none := by
  cases ht : s.tasks t with
  | none => rw [step_abandon ht, ht]
  | some stage =>
    rw [step, ht]
    exact replace_same ..

theorem passes_abandon (hs : s.Lined) (catalog : Catalog) (t : TaskId) :
    Passes t s (s.step catalog (.abandon t)).1 := by
  have hentries : (s.step catalog (.abandon t)).1.unit.entries = s.unit.entries := by
    cases ht : s.tasks t with
    | none => rw [step_abandon ht]
    | some stage =>
      rw [step, ht]
      cases stage <;> rfl
  refine ⟨fun {w} hw => ?_, .of_contents hentries fun c => ?_, hentries⟩
  · cases ht : s.tasks t with
    | none => rw [step_abandon ht]
    | some stage =>
      rw [step, ht]
      exact replace_other _ _ hw
  · rw [UnitOfWork.content?, UnitOfWork.content?, hs.cell?_abandon, Option.map_map]
    rfl

end Scene

namespace UnitOfWork

variable {u u' : UnitOfWork ρ τ} {stage : Stage ρ τ}

theorem Alike.abandon (h : u.Alike u') (t : TaskId) (stage : Stage ρ τ) :
    (u.abandon t stage).Alike (u'.abandon t stage) := by
  have hleft := congrArg (·.leave t) h.gate
  cases stage with
  | waiting | constructing | saving | finished => exact ⟨h.disposed, h.transaction, h.gate⟩
  | _ => exact ⟨h.disposed, h.transaction, hleft⟩

theorem abandon_alike (hs : stage.isOfCell = true) (u : UnitOfWork ρ τ) (t : TaskId) :
    u.Alike (u.abandon t stage) := by
  cases stage with
  | waiting | constructing | finished => exact ⟨rfl, rfl, rfl⟩
  | _ => cases hs

end UnitOfWork

namespace Scene

variable {make : Constructors ρ} {A B : Scene ρ τ} {t w : TaskId}

theorem Behind.abandon (h : Behind make t A B) (hA : A.Regular) (hB : B.Regular) (hw : w ≠ t)
    (catalog : Catalog) :
    Behind make t (A.step catalog (.abandon w)).1 (B.step catalog (.abandon w)).1 := by
  refine h.turn hA hB hw (passes_abandon hA.lined catalog w) (passes_abandon hB.lined catalog w)
    ?_ ?_ (.same ?_ ?_)
  · cases h.task hw with
    | same _ htask =>
      cases ht : A.tasks w with
      | none =>
        rw [step_abandon ht, step_abandon (htask.trans ht)]
        exact h.alike
      | some stage =>
        rw [step, step, htask, ht]
        exact h.alike.abandon w stage
    | standing hplace _ _ _ htied _ =>
      obtain ⟨stage, hstage, hc⟩ := Option.bind_eq_some_iff.mp hplace
      obtain ⟨stage', hstage', hfrom⟩ := htied
      have hcell : stage.isOfCell = true := by
        cases stage with
        | waiting | constructing => rfl
        | _ => cases hc
      have hcell' : stage'.isOfCell = true := by cases hfrom <;> rfl
      have hA' := A.unit.abandon_alike hcell w
      have hB' := B.unit.abandon_alike hcell' w
      rw [step, step, hstage, hstage']
      exact ⟨hB'.disposed.trans (h.alike.disposed.trans hA'.disposed.symm),
        hB'.transaction.trans (h.alike.transaction.trans hA'.transaction.symm),
        hB'.gate.trans (h.alike.gate.trans hA'.gate.symm)⟩
  · intro d y hy
    rw [hB.lined.cell?_abandon] at hy
    obtain ⟨old, hold, rfl⟩ := Option.map_eq_some_iff.mp hy
    obtain ⟨c, x, hx, hxy⟩ := h.cell hold
    refine ⟨c, x.release w, ?_, hxy.release w⟩
    rw [hA.lined.cell?_abandon, hx]
    rfl
  · rw [place?, tasks_abandon]
    rfl
  · rw [tasks_abandon, tasks_abandon]

end Scene

end RowSpec
