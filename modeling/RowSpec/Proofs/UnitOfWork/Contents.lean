import RowSpec.Proofs.UnitOfWork.Lines

/-!
# What the cells hold

A cell is opened empty and filled once. So what it holds only grows, and a request is answered from
the cell that it has been given.

* `UnitOfWork.content?`     the variant of a cell and the repository in it, if there is one;
* `Move.shift`              a move opens a cell, fills one, or changes no content;
* `UnitOfWork.Grows`        what lasts from one moment to a later one;
* `Scene.Regular`           cells in their places and tasks in their lines;
* `Regular.run_induction`   what every move of an open unit keeps, every run keeps;
* `Scene.Tied`              a request at its cell, or answered from it.
-/

namespace RowSpec

variable {ρ τ : Type}

namespace UnitOfWork

variable {u u' u'' : UnitOfWork ρ τ} {c d : CellId} {info : RepositoryInfo} {value : Option ρ}

/-! ## contents -/

def content? (u : UnitOfWork ρ τ) (c : CellId) : Option (RepositoryInfo × Option ρ) :=
  (u.cell? c).map fun cell => (cell.info, cell.value)

theorem content?_of_cell {cell : Cell ρ} (h : u.cell? c = some cell) :
    u.content? c = some (cell.info, cell.value) := by
  rw [content?, h]
  rfl

theorem info?_eq_content? (u : UnitOfWork ρ τ) (c : CellId) :
    u.info? c = (u.content? c).map Prod.fst := by
  rw [info?, content?, Option.map_map]
  rfl

theorem info?_of_content? (h : u.content? c = some (info, value)) : u.info? c = some info := by
  rw [info?_eq_content?, h]
  rfl

theorem content?_of_info? (h : u.info? c = some info) : ∃ value, u.content? c = some (info, value) := by
  rw [info?_eq_content?] at h
  obtain ⟨⟨_, value⟩, hvalue, rfl⟩ := Option.map_eq_some_iff.mp h
  exact ⟨value, hvalue⟩

theorem content?_openCell (u : UnitOfWork ρ τ) (info : RepositoryInfo) (c : CellId) :
    (u.openCell info).1.content? c =
      if c = u.cells.length then some (info, none) else u.content? c := by
  rw [content?, cell?_openCell]
  split <;> rfl

theorem content?_length (u : UnitOfWork ρ τ) : u.content? u.cells.length = none := by
  rw [content?, cell?_length]
  rfl

theorem content?_modifyCell {change : Cell ρ → Cell ρ}
    (hchange : ∀ cell, (change cell).info = cell.info ∧ (change cell).value = cell.value)
    (u : UnitOfWork ρ τ) (c d : CellId) : (u.modifyCell c change).content? d = u.content? d := by
  rw [content?, content?, cell?_modifyCell]
  split
  · cases u.cell? d with
    | none => rfl
    | some cell =>
      obtain ⟨hinfo, hvalue⟩ := hchange cell
      exact congrArg some (Prod.ext hinfo hvalue)
  · rfl

theorem content?_queue (u : UnitOfWork ρ τ) (t : TaskId) (c d : CellId) :
    (u.modifyCell c (·.queue t)).content? d = u.content? d :=
  content?_modifyCell (fun cell => ⟨cell.info_queue t, cell.value_queue t⟩) u c d

theorem content?_release (u : UnitOfWork ρ τ) (t : TaskId) (c d : CellId) :
    (u.modifyCell c (·.release t)).content? d = u.content? d :=
  content?_modifyCell (fun cell => ⟨(rfl : (cell.release t).info = _), rfl⟩) u c d

theorem content?_fill {cell : Cell ρ} (h : u.cell? c = some cell) (r : ρ) (d : CellId) :
    (u.modifyCell c (·.fill r)).content? d =
      if d = c then some (cell.info, some r) else u.content? d := by
  rw [content?, cell?_modifyCell]
  by_cases hd : d = c
  · rw [if_pos hd, if_pos hd, hd, h]
    rfl
  · rw [if_neg hd, if_neg hd]
    rfl

/-! ## growth -/

/-- What a cell holds stays there, and the variants in use advance. -/
structure Grows (u u' : UnitOfWork ρ τ) : Prop where
  info : ∀ {c info}, u.info? c = some info → u'.info? c = some info
  value : ∀ {c info r}, u.content? c = some (info, some r) → u'.content? c = some (info, some r)
  advances : ∀ e, Advances (u.cachedInfo? e) (u'.cachedInfo? e)

theorem Grows.refl (u : UnitOfWork ρ τ) : u.Grows u := ⟨id, id, fun _ => .inr (.inl rfl)⟩

theorem Grows.trans (h : u.Grows u') (h' : u'.Grows u'') : u.Grows u'' :=
  ⟨fun hc => h'.info (h.info hc), fun hc => h'.value (h.value hc),
    fun e => (h.advances e).trans (h'.advances e)⟩

end UnitOfWork

namespace Scene

variable {s s' : Scene ρ τ} {catalog : Catalog} {g : Signal ρ τ} {t : TaskId} {c : CellId}
  {made : List (RepositoryInfo × ρ)}

/-- What a move does to the contents of the cells, and to the cells in use. -/
inductive Shift (catalog : Catalog) (s : Scene ρ τ) (g : Signal ρ τ) (u' : UnitOfWork ρ τ) :
    List (RepositoryInfo × ρ) → Prop
  | same (hentries : u'.entries = s.unit.entries)
      (hcontent : ∀ c, u'.content? c = s.unit.content? c) : Shift catalog s g u' []
  | opened {t i info} (hcall : g = .start t (.resolve i)) (hfree : s.tasks t = none)
      (hinfo : UnitOfWork.variant catalog i = .ok info) (hunserved : s.unit.Unserved info)
      (hunit : u' = (s.unit.openCell info).1) : Shift catalog s g u' []
  | filled {c info r} (hentries : u'.entries = s.unit.entries)
      (hempty : s.unit.content? c = some (info, none))
      (hcontent : ∀ d, u'.content? d =
        if d = c then some (info, some r) else s.unit.content? d) : Shift catalog s g u' [(info, r)]

/-- **Every move** opens a cell, fills one, or changes no content. -/
theorem Move.shift (h : s.Lined) (hmove : Move catalog s g made s') :
    Shift catalog s g s'.unit made := by
  have hkeeps : ∀ {u : UnitOfWork ρ τ}, u.cells = s.unit.cells →
      ∀ c, u.content? c = s.unit.content? c := fun hcells c => by
    rw [UnitOfWork.content?, UnitOfWork.content?, UnitOfWork.cell?, UnitOfWork.cell?, hcells]
  cases hmove with
  | opened hfree hinfo hunserved => exact .opened rfl hfree hinfo hunserved rfl
  | joined => exact .same rfl (s.unit.content?_queue _ _)
  | entered => exact .same rfl fun _ => rfl
  | given => exact .same rfl fun _ => rfl
  | built ht hcell =>
    have hempty := UnitOfWork.content?_of_cell hcell
    rw [h.value_eq_none ht hcell] at hempty
    exact .filled rfl hempty (UnitOfWork.content?_fill hcell _)
  | failed | left => exact .same rfl (s.unit.content?_release _ _)
  | dropped _ hentries hcells => exact .same hentries (hkeeps hcells)
  | aside _ _ hentries hcells => exact .same hentries (hkeeps hcells)

/-- The variants of the cells, as far as a move opens none. -/
theorem Shift.infos {u' : UnitOfWork ρ τ} (h : Shift catalog s g u' made) :
    (∃ t i info, g = .start t (.resolve i) ∧ UnitOfWork.variant catalog i = .ok info ∧
        s.unit.Unserved info ∧ u' = (s.unit.openCell info).1) ∨
      (∀ e, u'.entry? e = s.unit.entry? e) ∧ ∀ c, u'.info? c = s.unit.info? c := by
  have hentry : u'.entries = s.unit.entries → ∀ e, u'.entry? e = s.unit.entry? e :=
    fun hentries e => by rw [UnitOfWork.entry?, UnitOfWork.entry?, hentries]
  cases h with
  | opened hcall _ hinfo hunserved hunit => exact .inl ⟨_, _, _, hcall, hinfo, hunserved, hunit⟩
  | same hentries hcontent =>
    refine .inr ⟨hentry hentries, fun c => ?_⟩
    rw [UnitOfWork.info?_eq_content?, UnitOfWork.info?_eq_content?, hcontent]
  | @filled c info r hentries hempty hcontent =>
    refine .inr ⟨hentry hentries, fun d => ?_⟩
    rw [UnitOfWork.info?_eq_content?, UnitOfWork.info?_eq_content?, hcontent]
    split
    · rw [‹d = c›, hempty]
      rfl
    · rfl

theorem Shift.placed {u' : UnitOfWork ρ τ} (hshift : Shift catalog s g u' made)
    (h : s.unit.Placed) : u'.Placed := by
  rcases hshift.infos with ⟨_, _, info, -, -, hunserved, rfl⟩ | ⟨hentry, hinfo⟩
  · exact h.openCell hunserved
  · exact h.congr hentry hinfo

theorem Shift.grows {u' : UnitOfWork ρ τ} (hshift : Shift catalog s g u' made)
    (h : s.unit.Placed) : s.unit.Grows u' := by
  have hinfos := hshift.infos
  constructor
  · intro c info hc
    rcases hinfos with ⟨_, _, other, -, -, -, rfl⟩ | ⟨-, hinfo⟩
    · rw [UnitOfWork.info?_openCell, if_neg, hc]
      rintro rfl
      rw [UnitOfWork.info?, UnitOfWork.cell?_length] at hc
      cases hc
    · exact (hinfo c).trans hc
  · intro c info r hc
    cases hshift with
    | same _ hcontent => exact (hcontent c).trans hc
    | opened _ _ _ _ hunit =>
      rw [hunit, UnitOfWork.content?_openCell, if_neg, hc]
      rintro rfl
      rw [UnitOfWork.content?_length] at hc
      cases hc
    | @filled d other r' _ hempty hcontent =>
      -- a cell is not filled twice
      rw [hcontent, if_neg, hc]
      rintro rfl
      rw [hempty] at hc
      cases hc
  · intro e
    rcases hinfos with ⟨_, _, info, -, -, hunserved, rfl⟩ | ⟨hentry, hinfo⟩
    · exact h.advances_openCell hunserved e
    · exact .inr (.inl (UnitOfWork.cachedInfo?_congr (hentry e) hinfo))

/-! ## runs -/

/-- Cells in their places and tasks in their lines. -/
structure Regular (s : Scene ρ τ) : Prop where
  placed : s.unit.Placed
  lined : s.Lined

theorem regular_start : ({} : Scene ρ τ).Regular where
  placed := { current := nofun, placed := nofun, apart := nofun }
  lined := .start

theorem Regular.grounded (h : s.Regular) : s.Grounded where
  entry he := by
    obtain ⟨info, hinfo, -⟩ := h.placed.current he
    obtain ⟨cell, hcell, -⟩ := Option.map_eq_some_iff.mp hinfo
    exact ⟨cell, hcell⟩
  task ht := by
    obtain ⟨cell, hcell, -⟩ := h.lined.waits ht
    exact ⟨cell, hcell⟩

theorem Regular.move (h : s.Regular) (hmove : Move catalog s g made s') : s'.Regular :=
  ⟨(hmove.shift h.lined).placed h.placed, h.lined.move hmove⟩

/-- the repositories brought in a run, with their variants -/
def constructions (catalog : Catalog) : Scene ρ τ → List (Signal ρ τ) → List (RepositoryInfo × ρ)
  | _, [] => []
  | s, g :: rest => (s.construction? g).toList ++ constructions catalog (s.step catalog g).1 rest

theorem open_of_run (catalog : Catalog) (s : Scene ρ τ) (signals : List (Signal ρ τ))
    (hopen : (s.run catalog signals).unit.disposed = false) : s.unit.disposed = false := by
  induction signals generalizing s with
  | nil => exact hopen
  | cons g rest ih => exact open_of_step g (ih (s.step catalog g).1 hopen)

section
variable {P : List (RepositoryInfo × ρ) → Scene ρ τ → Prop} {log : List (RepositoryInfo × ρ)}

/-- Only a request comes to moves from scenes in between. -/
theorem Moves.induction (hmoves : Moves catalog g s made s') (hs : s.Regular)
    (log : List (RepositoryInfo × ρ)) (h : P log s)
    (hmove : ∀ {log s₁ made s₂}, s₁ = s ∨ (∃ t i, g = .start t (.resolve i)) → s₁.Regular →
      Move catalog s₁ g made s₂ → P log s₁ → P (log ++ made) s₂) :
    s'.Regular ∧ P (log ++ made) s' := by
  induction hmoves generalizing log with
  | none =>
    rw [List.append_nil]
    exact ⟨hs, h⟩
  | one only => exact ⟨hs.move only, hmove (.inl rfl) hs only h⟩
  | more hg first _ ih =>
    have hfirst := hmove (.inl rfl) hs first h
    rw [List.append_nil] at hfirst
    exact ih (hs.move first) log hfirst fun _ hs hm => hmove (.inr hg) hs hm

/-- **What every move keeps** holds after every run of a unit that stays open; it may be about the
repositories brought so far. -/
theorem Regular.run_induction (hs : s.Regular) (log : List (RepositoryInfo × ρ)) (h : P log s)
    (signals : List (Signal ρ τ))
    (hopen : (s.run catalog signals).unit.disposed = false)
    (hmove : ∀ {log g s made s'}, g ∈ signals → s.Regular → Move catalog s g made s' → P log s →
      P (log ++ made) s') :
    (s.run catalog signals).Regular ∧
      P (log ++ constructions catalog s signals) (s.run catalog signals) := by
  induction signals generalizing s log with
  | nil =>
    rw [constructions, List.append_nil]
    exact ⟨hs, h⟩
  | cons g rest ih =>
    have hnow := open_of_run catalog (s.step catalog g).1 rest hopen
    obtain ⟨hs', h'⟩ := (hs.grounded.moves g hnow).induction hs log h
      fun _ hs hm => hmove List.mem_cons_self hs hm
    rw [constructions, ← List.append_assoc]
    exact ih hs' _ h' hopen fun hg hs hm => hmove (List.mem_cons_of_mem g hg) hs hm

end

theorem Regular.run (hs : s.Regular) (signals : List (Signal ρ τ))
    (hopen : (s.run catalog signals).unit.disposed = false) : (s.run catalog signals).Regular :=
  (hs.run_induction (P := fun _ _ => True) [] trivial signals hopen fun _ _ _ _ => trivial).1

theorem Regular.grows_run (hs : s.Regular) (signals : List (Signal ρ τ))
    (hopen : (s.run catalog signals).unit.disposed = false) :
    s.unit.Grows (s.run catalog signals).unit :=
  (hs.run_induction (P := fun _ s' => s.unit.Grows s'.unit) [] (.refl _) signals hopen
    fun _ hs' hm h => h.trans ((hm.shift hs'.lined).grows hs'.placed)).2

/-! ## requests -/

theorem Move.finished {reply : Reply ρ τ} (hmove : Move catalog s g made s')
    (ht : s.tasks t = some (.finished reply)) (hkept : g ≠ .abandon t) :
    s'.tasks t = some (.finished reply) := by
  -- no move but a drop is one of a task that has finished
  have hothers : ∀ {t' : TaskId} {old : Option (Stage ρ τ)} (stage : Option (Stage ρ τ)),
      s.tasks t' = old → old ≠ some (.finished reply) →
      replace s.tasks t' stage t = some (.finished reply) := by
    intro t' old stage ht' hold
    rw [replace_other _ _ _, ht]
    rintro rfl
    rw [ht] at ht'
    exact hold ht'.symm
  cases hmove with
  | opened => exact ht
  | joined hfree => exact hothers _ hfree nofun
  | entered ht' => exact hothers _ ht' nofun
  | given ht' => exact hothers _ ht' nofun
  | built ht' => exact hothers _ ht' nofun
  | failed ht' => exact hothers _ ht' nofun
  | @left t' =>
    have hne : t ≠ t' := fun h => hkept (congrArg Signal.abandon h.symm)
    exact (replace_other _ _ hne).trans ht
  | @dropped t' =>
    have hne : t ≠ t' := fun h => hkept (congrArg Signal.abandon h.symm)
    exact (replace_other _ _ hne).trans ht
  | aside hother =>
    refine hothers _ rfl fun hold => ?_
    cases hother _ hold

/-- Where a request may stand that has been given a cell; its end comes from what the cell holds, or
is a refusal. -/
inductive From (u : UnitOfWork ρ τ) (c : CellId) (refusal : RepoError → Prop) : Stage ρ τ → Prop
  | waiting : From u c refusal (.waiting c)
  | constructing : From u c refusal (.constructing c)
  | given {info r} (h : u.content? c = some (info, some r)) :
      From u c refusal (.finished (.ok (.repository r)))
  | refused {e} (h : refusal e) : From u c refusal (.finished (.error e))

def Tied (s : Scene ρ τ) (t : TaskId) (c : CellId) (refusal : RepoError → Prop) : Prop :=
  ∃ stage, s.tasks t = some stage ∧ From s.unit c refusal stage

variable {refusal : RepoError → Prop}

theorem From.grows {u u' : UnitOfWork ρ τ} {stage : Stage ρ τ} (h : From u c refusal stage)
    (hgrows : u.Grows u') : From u' c refusal stage := by
  cases h with
  | waiting => exact .waiting
  | constructing => exact .constructing
  | given h => exact .given (hgrows.value h)
  | refused h => exact .refused h

/-- **A request stays with its cell** until its task is dropped. -/
theorem Tied.move (h : s.Tied t c refusal) (hs : s.Regular) (hmove : Move catalog s g made s')
    (hkept : g ≠ .abandon t)
    (hrefusal : ∀ e, g = .answer t (.constructed (.error e)) →
      s.tasks t = some (.constructing c) → refusal e) :
    s'.Tied t c refusal := by
  obtain ⟨stage, ht, hfrom⟩ := h
  have hgrows := (hmove.shift hs.lined).grows hs.placed
  have hothers : ∀ {t' u x}, t ≠ t' → s.unit.Grows u →
      Tied ⟨u, replace s.tasks t' x⟩ t c refusal := fun hne hu =>
    ⟨stage, (replace_other _ _ hne).trans ht, hfrom.grows hu⟩
  have hown : ∀ {t' old}, s.tasks t' = some old → t = t' → From s.unit c refusal old := by
    rintro t' old hold rfl
    rw [ht] at hold
    cases hold
    exact hfrom
  cases hmove with
  | opened => exact ⟨stage, ht, hfrom.grows hgrows⟩
  | @joined t' _ _ _ _ hfree =>
    refine hothers (fun hne => ?_) hgrows
    rw [← hne, ht] at hfree
    cases hfree
  | @entered _ t' _ _ ht' =>
    by_cases hne : t = t'
    · cases hown ht' hne
      subst hne
      exact ⟨_, replace_same .., .constructing⟩
    · exact hothers hne hgrows
  | @given _ t' _ cell r ht' hcell hvalue =>
    by_cases hne : t = t'
    · cases hown ht' hne
      subst hne
      have hcontent := UnitOfWork.content?_of_cell hcell
      rw [hvalue] at hcontent
      exact ⟨_, replace_same .., .given hcontent⟩
    · exact hothers hne hgrows
  | @built t' _ cell r ht' hcell =>
    by_cases hne : t = t'
    · cases hown ht' hne
      subst hne
      have hcontent := UnitOfWork.content?_fill hcell r c
      rw [if_pos rfl] at hcontent
      exact ⟨_, replace_same .., .given hcontent⟩
    · exact hothers hne hgrows
  | @failed t' _ e ht' =>
    by_cases hne : t = t'
    · cases hown ht' hne
      subst hne
      exact ⟨_, replace_same .., .refused (hrefusal e rfl ht')⟩
    · exact hothers hne hgrows
  | @left t' => exact hothers (fun hne => hkept (congrArg _ hne.symm)) hgrows
  | @dropped t' => exact hothers (fun hne => hkept (congrArg _ hne.symm)) hgrows
  | @aside _ t' _ _ hother =>
    refine hothers (fun hne => ?_) hgrows
    have hcell := hother stage (hne ▸ ht)
    cases hfrom <;> cases hcell

theorem Tied.run (h : s.Tied t c refusal) (hs : s.Regular) (signals : List (Signal ρ τ))
    (hopen : (s.run catalog signals).unit.disposed = false) (hkept : .abandon t ∉ signals)
    (hrefusal : ∀ e, .answer t (.constructed (.error e)) ∈ signals → refusal e) :
    (s.run catalog signals).Tied t c refusal :=
  (hs.run_induction (P := fun _ s' => s'.Tied t c refusal) [] h signals hopen
    fun hg hs hm h => h.move hs hm (fun he => hkept (he ▸ hg)) fun e he _ => hrefusal e (he ▸ hg)).2

theorem Move.wake_unit (hmove : Move catalog s (.wake t) made s') :
    s'.unit.entries = s.unit.entries ∧ s'.unit.cells = s.unit.cells := by
  cases hmove with
  | entered | given => exact ⟨rfl, rfl⟩
  | aside _ _ hentries hcells => exact ⟨hentries, hcells⟩

theorem Regular.wake_unit (hs : s.Regular)
    (hopen : (s.step catalog (.wake t)).1.unit.disposed = false) :
    (s.step catalog (.wake t)).1.unit.entries = s.unit.entries ∧
      (s.step catalog (.wake t)).1.unit.cells = s.unit.cells :=
  ((hs.grounded.moves (.wake t) hopen).induction hs []
    (P := fun _ s' => s'.unit.entries = s.unit.entries ∧ s'.unit.cells = s.unit.cells) ⟨rfl, rfl⟩
    fun _ _ hm ⟨hentries, hcells⟩ =>
      ⟨hm.wake_unit.1.trans hentries, hm.wake_unit.2.trans hcells⟩).2

section
variable {i : Interface} {info : RepositoryInfo} {u : UnitOfWork ρ τ} {cell : Cell ρ}

theorem Given.regular (h : s.Given info u c cell) (hs : s.Regular) (hfree : s.tasks t = none)
    (hinfo : UnitOfWork.variant catalog i = .ok info) : Regular ⟨u, s.tasks⟩ := by
  rcases h.opened hfree hinfo with rfl | hopened
  · exact hs
  · exact hs.move hopened

/-- **A request gets the cell in use** for its type, which serves it. -/
theorem Regular.request (hs : s.Regular) (hfree : s.tasks t = none)
    (hinfo : UnitOfWork.variant catalog i = .ok info)
    (hopen : (s.step catalog (.start t (.resolve i))).1.unit.disposed = false)
    (refusal : RepoError → Prop) :
    ∃ c other, (s.step catalog (.start t (.resolve i))).1.unit.entry? info.entity = some c ∧
      (s.step catalog (.start t (.resolve i))).1.unit.info? c = some other ∧
      other.access.satisfies info.access = true ∧
      (s.step catalog (.start t (.resolve i))).1.Tied t c refusal := by
  obtain ⟨u, c, cell, hgiven, hstep⟩ := hs.grounded.given hfree (open_of_step _ hopen) hinfo
  have hqueued := (hgiven.regular hs hfree hinfo).move (hgiven.joined hfree hinfo)
  have htied : (queued ⟨u, s.tasks⟩ t c).Tied t c refusal := ⟨_, replace_same .., .waiting⟩
  rw [hstep] at hopen ⊢
  obtain ⟨hentries, hcells⟩ := hqueued.wake_unit hopen
  refine ⟨c, cell.info, ?_, ?_, hgiven.serves, htied.run hqueued [.wake t] hopen nofun nofun⟩
  · rw [UnitOfWork.entry?, hentries]
    exact hgiven.entry
  · have hinfos := UnitOfWork.info?_of_cell (cell?_queued (s := ⟨u, s.tasks⟩) hgiven.there t)
    rw [cell.info_queue] at hinfos
    rw [UnitOfWork.info?, UnitOfWork.cell?, hcells]
    exact hinfos

end

end Scene

end RowSpec
