import RowSpec.Proofs.UnitOfWork.Turns

/-!
# Lines at the cells

The tasks that stand at a cell are those in its line, and the one that constructs is the first of
them. Where the repository is there, nobody has to wait.

* `Scene.Lined`       cells and tasks agree on who stands where;
* `Lined.depart`      a task that leaves, whatever becomes of it;
* `Lined.move`        every move keeps the lines.
-/

namespace RowSpec

variable {ρ τ : Type}

/-! ## gates -/

namespace Gate

variable {g : Gate} {s t : TaskId}

theorem mem_of_lets (h : g.lets t = true) : t ∈ g.line :=
  List.mem_of_mem_head? (of_decide_eq_true h)

theorem lets_arrive (h : g.lets t = true) (s : TaskId) : (g.arrive s).lets t = true := by
  have hhead : g.line.head? = some t := of_decide_eq_true h
  refine decide_eq_true ?_
  rw [arrive_line, List.head?_append, hhead]
  rfl

theorem lets_leave (h : g.lets t = true) (hne : t ≠ s) : (g.leave s).lets t = true := by
  have hhead : g.line.head? = some t := of_decide_eq_true h
  refine decide_eq_true ?_
  rw [leave_line]
  cases hline : g.line with
  | nil =>
    rw [hline] at hhead
    cases hhead
  | cons a rest =>
    rw [hline] at hhead
    cases hhead
    rw [List.erase_cons_tail (by simpa using hne)]
    rfl

/-- The head of a line is the head of every part of it that it is in. -/
theorem lets_of_sublist {g' : Gate} (hline : g.line.Sublist g'.line) (hnodup : g'.line.Nodup)
    (hmem : t ∈ g.line) (h : g'.lets t = true) : g.lets t = true := by
  obtain ⟨part⟩ := g
  obtain ⟨line⟩ := g'
  have hhead : line.head? = some t := of_decide_eq_true h
  refine decide_eq_true ?_
  cases hline with
  | slnil => cases hhead
  | cons a hrest =>
    cases hhead
    exact absurd (hrest.subset hmem) (List.nodup_cons.mp hnodup).1
  | cons_cons a _ => exact hhead

end Gate

namespace Scene

variable {s s' : Scene ρ τ} {catalog : Catalog} {g : Signal ρ τ} {t : TaskId} {c : CellId}
  {cell : Cell ρ} {u : UnitOfWork ρ τ} {stage : Option (Stage ρ τ)}

theorem place?_replace_same (s : Scene ρ τ) (u : UnitOfWork ρ τ) (t : TaskId)
    (stage : Option (Stage ρ τ)) :
    place? ⟨u, replace s.tasks t stage⟩ t = stage.bind Stage.cell? := by
  show (replace s.tasks t stage t).bind _ = _
  rw [replace_same]

theorem place?_replace_other (s : Scene ρ τ) (u : UnitOfWork ρ τ) (stage : Option (Stage ρ τ))
    {t' : TaskId} (h : t' ≠ t) : place? ⟨u, replace s.tasks t stage⟩ t' = s.place? t' := by
  show (replace s.tasks t stage t').bind _ = _
  rw [replace_other _ _ h]
  rfl

/-! ## lines -/

/-- Cells and tasks agree on who stands where. -/
structure Lined (s : Scene ρ τ) : Prop where
  waits : ∀ {t c}, s.place? t = some c →
    ∃ cell, s.unit.cell? c = some cell ∧ (cell.value = none → t ∈ cell.gate.line)
  stands : ∀ {t c cell}, s.unit.cell? c = some cell → t ∈ cell.gate.line → s.place? t = some c
  nodup : ∀ {c cell}, s.unit.cell? c = some cell → cell.gate.line.Nodup
  empty : ∀ {c cell r}, s.unit.cell? c = some cell → cell.value = some r → cell.gate.line = []
  holds : ∀ {t c cell}, s.tasks t = some (.constructing c) → s.unit.cell? c = some cell →
    cell.gate.lets t = true

namespace Lined

theorem erase_of_place? (h : s.Lined) (hc : s.unit.cell? c = some cell) (ht : s.place? t ≠ some c) :
    cell.gate.line.erase t = cell.gate.line :=
  List.erase_of_not_mem fun hmem => ht (h.stands hc hmem)

/-- No repository is there while a task constructs it. -/
theorem value_eq_none (h : s.Lined) (ht : s.tasks t = some (.constructing c))
    (hc : s.unit.cell? c = some cell) : cell.value = none := by
  cases hvalue : cell.value with
  | none => rfl
  | some r =>
    have hmem := Gate.mem_of_lets (h.holds ht hc)
    rw [h.empty hc hvalue] at hmem
    cases hmem

/-- A task that goes to no cell leaves all lines, and nothing else changes there. -/
theorem depart (h : s.Lined) (hstage : stage.bind Stage.cell? = none)
    (hold : ∀ {c cell}, s.unit.cell? c = some cell → ∃ cell', u.cell? c = some cell')
    (hnew : ∀ {c cell'}, u.cell? c = some cell' → ∃ cell, s.unit.cell? c = some cell ∧
      cell'.gate = cell.gate.leave t ∧ cell'.value = cell.value) :
    Lined ⟨u, replace s.tasks t stage⟩ := by
  have hplace : ∀ {t' c}, place? ⟨u, replace s.tasks t stage⟩ t' = some c →
      t' ≠ t ∧ s.place? t' = some c := by
    intro t' c hc
    by_cases ht : t' = t
    · subst ht
      rw [place?_replace_same, hstage] at hc
      cases hc
    · rw [place?_replace_other s u stage ht] at hc
      exact ⟨ht, hc⟩
  constructor
  · intro t' c hc
    obtain ⟨ht, hc⟩ := hplace hc
    obtain ⟨cell, hcell, hmem⟩ := h.waits hc
    obtain ⟨cell', hcell'⟩ := hold hcell
    refine ⟨cell', hcell', fun hvalue' => ?_⟩
    obtain ⟨cell₀, hcell₀, hgate, hvalue⟩ := hnew hcell'
    rw [hcell] at hcell₀
    cases hcell₀
    rw [hgate, Gate.leave_line]
    exact (List.mem_erase_of_ne ht).mpr (hmem (hvalue ▸ hvalue'))
  · intro t' c cell' hcell' hmem
    obtain ⟨cell, hcell, hgate, -⟩ := hnew hcell'
    rw [hgate, Gate.leave_line] at hmem
    have ht : t' ≠ t := ((h.nodup hcell).mem_erase_iff.mp hmem).1
    rw [place?_replace_other s u stage ht]
    exact h.stands hcell (List.mem_of_mem_erase hmem)
  · intro c cell' hcell'
    obtain ⟨cell, hcell, hgate, -⟩ := hnew hcell'
    rw [hgate, Gate.leave_line]
    exact (h.nodup hcell).erase t
  · intro c cell' r hcell' hvalue'
    obtain ⟨cell, hcell, hgate, hvalue⟩ := hnew hcell'
    rw [hgate, Gate.leave_line, h.empty hcell (hvalue ▸ hvalue')]
    rfl
  · intro t' c cell' ht' hcell'
    obtain ⟨cell, hcell, hgate, -⟩ := hnew hcell'
    obtain ⟨ht, -⟩ := hplace (place?_of_task ht')
    have htask : s.tasks t' = some (.constructing c) := by
      rw [← ht']
      exact (replace_other _ _ ht).symm
    rw [hgate]
    exact Gate.lets_leave (h.holds htask hcell) ht

/-- The same where the cells are as before. -/
theorem depart_of_cells (h : s.Lined) (hstage : stage.bind Stage.cell? = none)
    (hcells : u.cells = s.unit.cells)
    (hline : ∀ {c cell}, s.place? t = some c → s.unit.cell? c = some cell → cell.gate.line = []) :
    Lined ⟨u, replace s.tasks t stage⟩ := by
  have hsame : ∀ c, u.cell? c = s.unit.cell? c := fun c => by
    rw [UnitOfWork.cell?, UnitOfWork.cell?, hcells]
  refine h.depart hstage (fun hc => ⟨_, (hsame _).trans hc⟩) fun {c cell} hc => ?_
  rw [hsame] at hc
  refine ⟨cell, hc, ?_, rfl⟩
  by_cases ht : s.place? t = some c
  · have hnil := hline ht hc
    show cell.gate = ⟨cell.gate.line.erase t⟩
    rw [hnil]
    show cell.gate = ⟨[]⟩
    rw [← hnil]
  · show cell.gate = ⟨cell.gate.line.erase t⟩
    rw [h.erase_of_place? hc ht]

theorem release (h : s.Lined) (hstage : stage.bind Stage.cell? = none)
    (hplace : s.place? t = some c) :
    Lined ⟨s.unit.modifyCell c (·.release t), replace s.tasks t stage⟩ := by
  refine h.depart hstage (fun {d cell} hd => ?_) fun {d cell'} hd => ?_
  · rw [UnitOfWork.cell?_modifyCell, hd]
    split <;> exact ⟨_, rfl⟩
  · rw [UnitOfWork.cell?_modifyCell] at hd
    by_cases hdc : d = c
    · rw [if_pos hdc] at hd
      obtain ⟨cell, hcell, rfl⟩ := Option.map_eq_some_iff.mp hd
      exact ⟨cell, hcell, rfl, rfl⟩
    · rw [if_neg hdc] at hd
      have hother : s.place? t ≠ some d := fun h' => hdc (Option.some.inj (h'.symm.trans hplace))
      refine ⟨cell', hd, ?_, rfl⟩
      show cell'.gate = ⟨cell'.gate.line.erase t⟩
      rw [h.erase_of_place? hd hother]

theorem opened (h : s.Lined) (info : RepositoryInfo) :
    Lined ⟨(s.unit.openCell info).1, s.tasks⟩ := by
  constructor
  · intro t c hc
    obtain ⟨cell, hcell, hmem⟩ := h.waits hc
    exact ⟨cell, UnitOfWork.cell?_openCell_of_some hcell, hmem⟩
  · intro t c cell hc hmem
    rcases UnitOfWork.cell?_openCell_cases hc with rfl | hc
    · cases hmem
    · exact h.stands hc hmem
  · intro c cell hc
    rcases UnitOfWork.cell?_openCell_cases hc with rfl | hc
    · exact List.nodup_nil
    · exact h.nodup hc
  · intro c cell r hc hvalue
    rcases UnitOfWork.cell?_openCell_cases hc with rfl | hc
    · rfl
    · exact h.empty hc hvalue
  · intro t c cell ht hc
    obtain ⟨old, hold, -⟩ := h.waits (place?_of_task ht)
    rw [UnitOfWork.cell?_openCell_of_some hold] at hc
    cases hc
    exact h.holds ht hold

theorem joined (h : s.Lined) (hfree : s.tasks t = none) (hcell : s.unit.cell? c = some cell) :
    (s.queued t c).Lined := by
  have hnew := cell?_queued hcell t
  have hold : ∀ {d}, d ≠ c → (s.queued t c).unit.cell? d = s.unit.cell? d :=
    cell?_queued_other s t
  have hplace : (s.queued t c).place? t = some c :=
    place?_replace_same s (s.unit.modifyCell c (·.queue t)) t (some (.waiting c))
  have hother : ∀ {t'}, t' ≠ t → (s.queued t c).place? t' = s.place? t' :=
    place?_replace_other s (s.unit.modifyCell c (·.queue t)) (some (.waiting c))
  have hnowhere : s.place? t = none := by
    rw [place?, hfree]
    rfl
  have hout : ∀ {d cell'}, s.unit.cell? d = some cell' → t ∉ cell'.gate.line := by
    intro d cell' hd hmem
    have hstands := h.stands hd hmem
    rw [hnowhere] at hstands
    cases hstands
  -- the line of the cell, if there is one
  have hline : cell.value = none ∧ (cell.queue t).gate.line = cell.gate.line ++ [t] ∨
      ∃ r, cell.value = some r ∧ cell.queue t = cell := by
    cases hvalue : cell.value with
    | none => exact .inl ⟨rfl, by rw [Cell.queue_of_none hvalue]; rfl⟩
    | some r => exact .inr ⟨r, rfl, Cell.queue_of_some hvalue t⟩
  constructor
  · intro t' d hd
    by_cases ht : t' = t
    · subst ht
      rw [hplace] at hd
      cases hd
      refine ⟨_, hnew, fun hvalue => ?_⟩
      rcases hline with ⟨-, hline⟩ | ⟨r, hr, hsame⟩
      · rw [hline]
        exact List.mem_append_right _ (List.mem_singleton.mpr rfl)
      · rw [hsame, hr] at hvalue
        cases hvalue
    · rw [hother ht] at hd
      obtain ⟨old, hcell', hmem⟩ := h.waits hd
      by_cases hdc : d = c
      · subst hdc
        rw [hcell] at hcell'
        cases hcell'
        refine ⟨_, hnew, fun hvalue => ?_⟩
        rw [Cell.value_queue] at hvalue
        rcases hline with ⟨-, hline⟩ | ⟨r, hr, -⟩
        · rw [hline]
          exact List.mem_append_left _ (hmem hvalue)
        · rw [hr] at hvalue
          cases hvalue
      · exact ⟨old, (hold hdc).trans hcell', hmem⟩
  · intro t' d cell' hd hmem
    by_cases hdc : d = c
    · subst hdc
      rw [hnew] at hd
      cases hd
      rcases hline with ⟨-, hline⟩ | ⟨r, -, hsame⟩
      · rw [hline] at hmem
        rcases List.mem_append.mp hmem with hmem | hmem
        · rw [hother fun ht => hout hcell (ht ▸ hmem)]
          exact h.stands hcell hmem
        · rw [List.mem_singleton.mp hmem]
          exact hplace
      · rw [hsame] at hmem
        rw [hother fun ht => hout hcell (ht ▸ hmem)]
        exact h.stands hcell hmem
    · rw [hold hdc] at hd
      rw [hother fun ht => hout hd (ht ▸ hmem)]
      exact h.stands hd hmem
  · intro d cell' hd
    by_cases hdc : d = c
    · subst hdc
      rw [hnew] at hd
      cases hd
      rcases hline with ⟨-, hline⟩ | ⟨r, -, hsame⟩
      · rw [hline]
        exact List.nodup_append.mpr ⟨h.nodup hcell, List.pairwise_singleton _ t, fun a ha b hb hab =>
          hout hcell (List.mem_singleton.mp hb ▸ hab ▸ ha)⟩
      · rw [hsame]
        exact h.nodup hcell
    · exact h.nodup ((hold hdc).symm.trans hd)
  · intro d cell' r hd hvalue
    by_cases hdc : d = c
    · subst hdc
      rw [hnew] at hd
      cases hd
      rw [Cell.value_queue] at hvalue
      rw [Cell.queue_of_some hvalue]
      exact h.empty hcell hvalue
    · exact h.empty ((hold hdc).symm.trans hd) hvalue
  · intro t' d cell' ht' hd
    have ht : t' ≠ t := by
      rintro rfl
      rw [show (s.queued t' c).tasks t' = some (.waiting c) from replace_same ..] at ht'
      cases ht'
    rw [show (s.queued t c).tasks t' = s.tasks t' from replace_other _ _ ht] at ht'
    by_cases hdc : d = c
    · subst hdc
      rw [hnew] at hd
      cases hd
      have hlets := h.holds ht' hcell
      rw [Cell.queue_of_none (h.value_eq_none ht' hcell)]
      exact Gate.lets_arrive hlets t
    · exact h.holds ht' ((hold hdc).symm.trans hd)

theorem entered (h : s.Lined) (ht : s.tasks t = some (.waiting c))
    (hcell : s.unit.cell? c = some cell) (hlets : cell.gate.lets t = true) :
    Lined ⟨s.unit, replace s.tasks t (some (.constructing c))⟩ := by
  have hplace : ∀ t', place? ⟨s.unit, replace s.tasks t (some (.constructing c))⟩ t' =
      s.place? t' := by
    intro t'
    by_cases ht' : t' = t
    · subst ht'
      rw [place?_replace_same, place?_of_task ht]
      rfl
    · exact place?_replace_other s s.unit _ ht'
  constructor
  · intro t' d hd
    exact h.waits ((hplace t').symm.trans hd)
  · intro t' d cell' hd hmem
    rw [hplace]
    exact h.stands hd hmem
  · exact h.nodup
  · exact h.empty
  · intro t' d cell' ht' hd
    dsimp only at ht'
    by_cases hte : t' = t
    · subst hte
      rw [replace_same] at ht'
      cases ht'
      rw [hcell] at hd
      cases hd
      exact hlets
    · rw [replace_other _ _ hte] at ht'
      exact h.holds ht' hd

theorem built (h : s.Lined) (ht : s.tasks t = some (.constructing c))
    (hcell : s.unit.cell? c = some cell) (r : ρ) :
    Lined ⟨s.unit.modifyCell c (·.fill r),
      replace s.tasks t (some (.finished (.ok (.repository r))))⟩ := by
  have hnew : (s.unit.modifyCell c (·.fill r)).cell? c = some (cell.fill r) := by
    rw [UnitOfWork.cell?_modifyCell, if_pos rfl, hcell]
    rfl
  have hold : ∀ {d}, d ≠ c → (s.unit.modifyCell c (·.fill r)).cell? d = s.unit.cell? d :=
    fun hd => by rw [UnitOfWork.cell?_modifyCell, if_neg hd]
  have hgone : ∀ {t' d}, place? ⟨s.unit.modifyCell c (·.fill r),
      replace s.tasks t (some (.finished (.ok (.repository r))))⟩ t' = some d →
      t' ≠ t ∧ s.place? t' = some d := by
    intro t' d hd
    by_cases hte : t' = t
    · subst hte
      rw [place?_replace_same] at hd
      cases hd
    · exact ⟨hte, (place?_replace_other s _ _ hte).symm.trans hd⟩
  constructor
  · intro t' d hd
    obtain ⟨hte, hd⟩ := hgone hd
    obtain ⟨old, hcell', hmem⟩ := h.waits hd
    by_cases hdc : d = c
    · subst hdc
      exact ⟨_, hnew, nofun⟩
    · exact ⟨old, (hold hdc).trans hcell', hmem⟩
  · intro t' d cell' hd hmem
    by_cases hdc : d = c
    · subst hdc
      rw [hnew] at hd
      cases hd
      cases hmem
    · rw [hold hdc] at hd
      have hstands := h.stands hd hmem
      rw [place?_replace_other, hstands]
      rintro rfl
      rw [place?_of_task ht] at hstands
      exact hdc (Option.some.inj hstands).symm
  · intro d cell' hd
    by_cases hdc : d = c
    · subst hdc
      rw [hnew] at hd
      cases hd
      exact List.nodup_nil
    · exact h.nodup ((hold hdc).symm.trans hd)
  · intro d cell' r' hd hvalue
    by_cases hdc : d = c
    · subst hdc
      rw [hnew] at hd
      cases hd
      rfl
    · exact h.empty ((hold hdc).symm.trans hd) hvalue
  · intro t' d cell' ht' hd
    obtain ⟨hte, -⟩ := hgone (place?_of_task ht')
    dsimp only at ht'
    rw [replace_other _ _ hte] at ht'
    by_cases hdc : d = c
    · -- no two tasks construct
      subst hdc
      exact absurd (Gate.lets_unique (h.holds ht' hcell) (h.holds ht hcell)) hte
    · exact h.holds ht' ((hold hdc).symm.trans hd)

/-- **Every move** keeps the lines. -/
theorem move {made : List (RepositoryInfo × ρ)} (h : s.Lined) (hmove : Move catalog s g made s') :
    s'.Lined := by
  cases hmove with
  | opened => exact h.opened _
  | joined hfree _ _ hcell => exact h.joined hfree hcell
  | entered ht hcell _ hlets => exact h.entered ht hcell hlets
  | given ht hcell hvalue =>
    refine h.depart_of_cells rfl rfl fun hplace hc => ?_
    rw [place?_of_task ht] at hplace
    cases hplace
    rw [hcell] at hc
    cases hc
    exact h.empty hcell hvalue
  | built ht hcell => exact h.built ht hcell _
  | failed ht => exact h.release rfl (place?_of_task ht)
  | left hplace => exact h.release rfl hplace
  | dropped hplace _ hcells =>
    refine h.depart_of_cells rfl hcells fun hplace' => ?_
    rw [hplace] at hplace'
    cases hplace'
  | @aside g t stage u hother hstage _ hcells =>
    refine h.depart_of_cells hstage hcells fun hplace' => ?_
    obtain ⟨old, hold, hc⟩ := Option.bind_eq_some_iff.mp hplace'
    rw [Stage.cell?_eq_none (Bool.eq_false_iff.mp (hother old hold))] at hc
    cases hc

theorem start : ({} : Scene ρ τ).Lined where
  waits h := nomatch h
  stands h := nomatch h
  nodup h := nomatch h
  empty h := nomatch h
  holds h := nomatch h

end Lined

end Scene

end RowSpec
