import RowSpec.Proofs.UnitOfWork.Behind

/-!
# Plays without one task

A task that stands where the constructor fails can be left out: with the same signals for all the
others, they come at least as far without it.

* `Behind.wake`, `Behind.answer`   turns of other tasks, in both scenes;
* `Behind.given`                   requests of other tasks get cells of the same kind;
* `Behind.own_step`                turns of the task that is left out;
* `Behind.play`                    so it is for whole plays.
-/

namespace RowSpec

variable {ρ τ : Type}

namespace Scene

variable {make : Constructors ρ} {catalog : Catalog} {s s' A B : Scene ρ τ} {t w : TaskId}
  {c d : CellId} {cell x y : Cell ρ} {stage : Stage ρ τ}

/-! ## turns of requests -/

theorem ends_of_answer (hs : s.Faithful make) (ht : s.tasks w = some (.constructing c))
    (hopen : s.unit.disposed = false) (a : Answer ρ τ) :
    Ends make w s (s.step catalog (s.told make (.answer w a))).1 := by
  obtain ⟨cell, hcell⟩ := hs.grounded.task (place?_of_task ht)
  rw [told_constructing make ht (UnitOfWork.info?_of_cell hcell), step_answer ht]
  cases hmake : make cell.info.kind with
  | error e => exact .failed ht hcell hmake
  | ok r =>
    have hfilled : (s.unit.modifyCell c (·.fill r)).disposed = false := hopen
    show Ends make w s (s.afterTurn w ((s.unit.modifyCell c (·.fill r)).give r _)).1
    rw [UnitOfWork.give, hfilled, if_neg Bool.false_ne_true]
    exact .built ht hcell hmake

theorem step_answer_idle (ht : s.tasks w = some stage) (hcell : stage.isOfCell = true)
    (hidle : ∀ c, stage ≠ .constructing c) (a : Answer ρ τ) :
    (s.step catalog (s.told make (.answer w a))).1 = s := by
  rw [told_answer_of_idle, step_answer ht]
  · cases stage with
    | waiting | finished => exact afterTurn_self ht []
    | constructing c => exact absurd rfl (hidle c)
    | _ => cases hcell
  · intro c hc
    rw [ht] at hc
    exact hidle c (Option.some.inj hc)

theorem step_wake_idle (ht : s.tasks w = some stage) (hcell : stage.isOfCell = true)
    (hidle : ∀ c, stage ≠ .waiting c) : (s.step catalog (.wake w)).1 = s := by
  rw [step_wake ht]
  cases stage with
  | constructing | finished => exact afterTurn_self ht []
  | waiting c => exact absurd rfl (hidle c)
  | _ => cases hcell

namespace Behind

theorem back_wake (h : Behind make t A B) (hA : A.Faithful make) (hB : B.Faithful make)
    (hopen : A.unit.disposed = false) (ht : A.tasks w = some (.waiting c))
    (hx : A.unit.cell? c = some x) (hfilled : ∀ r, x.value = some r → B.place? w = none)
    (hlets : x.value = none → x.gate.lets w = true → ∀ d, B.tasks w ≠ some (.waiting d)) :
    Behind make t (A.step catalog (.wake w)).1 B := by
  cases hvalue : x.value with
  | some r =>
    rw [step_wake_filled ht hx hvalue hopen]
    exact h.back hA hB (.given ht hx hvalue) (hfilled r hvalue)
  | none =>
    cases hturn : x.gate.lets w with
    | true =>
      rw [step_wake_let ht hx hvalue hturn]
      exact h.back_entered hA.toRegular hB.toRegular ht (hlets hvalue hturn)
    | false =>
      rw [step_wake_held ht hx hvalue hturn]
      exact h

/-- The cells of a task in the two scenes. -/
theorem cells (h : Behind make t A B) (hA : A.Regular) {i j : RepositoryInfo}
    (hi : A.unit.info? c = some i) (hj : B.unit.info? d = some j) (hkind : j.kind = i.kind) :
    ∃ x y, A.unit.cell? c = some x ∧ B.unit.cell? d = some y ∧ x.Behind y := by
  obtain ⟨y, hy, rfl⟩ := Option.map_eq_some_iff.mp hj
  obtain ⟨c', x, hx, hxy⟩ := h.cell hy
  cases hA.placed.apart (UnitOfWork.info?_of_cell hx) hi (hxy.kind.symm.trans hkind)
  exact ⟨x, y, hx, hy, hxy⟩

/-- A task that waits in both scenes. -/
theorem wake_waiting (h : Behind make t A B) (hA : A.Faithful make) (hB : B.Faithful make)
    (hw : w ≠ t) (hopen : A.unit.disposed = false) (hx : A.unit.cell? c = some x)
    (hy : B.unit.cell? d = some y) (hxy : x.Behind y) (hstage : A.tasks w = some (.waiting c))
    (hstage' : B.tasks w = some (.waiting d)) :
    Behind make t (A.step catalog (.wake w)).1 (B.step catalog (.wake w)).1 := by
  cases hvalue : y.value with
  | some r =>
    -- it gets its repository in the second scene, and perhaps in the first one
    have hends : Ends make w B _ := .given hstage' hy hvalue
    rw [step_wake_filled hstage' hy hvalue (h.alike.disposed.trans hopen)]
    refine (h.front hA.toRegular hB hw hends).back_wake hA (hends.faithful hB) hopen hstage hx
      (fun _ _ => hends.place?_eq_none) fun _ _ d' hwaits => ?_
    have hgone := hends.place?_eq_none
    rw [place?_of_task hwaits] at hgone
    cases hgone
  | none =>
    have hempty : ∀ r, x.value ≠ some r := fun r hr => by
      rw [hxy.value hr] at hvalue
      cases hvalue
    cases hlets : y.gate.lets w with
    | true =>
      rw [step_wake_let hstage' hy hvalue hlets]
      have hentered : Move catalog B (B.told make (.wake w)) [] _ :=
        .entered hstage' hy hvalue hlets
      refine (h.front_entered hA.toRegular hB.toRegular hw hstage').back_wake hA
        (hB.move hentered) hopen hstage hx (fun r hr => absurd hr (hempty r)) fun _ _ d' hwaits => ?_
      cases eq_of_replace_same hwaits
    | false =>
      rw [step_wake_held hstage' hy hvalue hlets]
      refine h.back_wake hA hB hopen hstage hx (fun r hr => absurd hr (hempty r)) fun _ hlets' => ?_
      -- the first of the longer line is the first of the shorter one
      obtain ⟨y', hy', hmem⟩ := hB.lined.waits (place?_of_task hstage')
      rw [hy] at hy'
      cases hy'
      have hfirst := Gate.lets_of_sublist hxy.line (hA.lined.nodup hx) (hmem hvalue) hlets'
      rw [hlets] at hfirst
      cases hfirst

theorem wake (h : Behind make t A B) (hA : A.Faithful make) (hB : B.Faithful make) (hw : w ≠ t)
    (hopen : (A.step catalog (.wake w)).1.unit.disposed = false) :
    Behind make t (A.step catalog (.wake w)).1 (B.step catalog (.wake w)).1 := by
  have hopenA := open_of_step _ hopen
  cases h.task hw with
  | same hplace htask =>
    cases ht : A.tasks w with
    | none =>
      rw [step, step, htask, ht]
      exact h
    | some stage =>
      rw [step_wake ht] at hopen ⊢
      rw [step_wake (htask.trans ht)]
      rw [place?_of_task ht] at hplace
      exact h.aside hA.toRegular hB.toRegular hw (h.alike.wake w hplace) hopen
  | @standing c d i j hplace hi hj hkind htied hturn =>
    obtain ⟨x, y, hx, hy, hxy⟩ := h.cells hA.toRegular hi hj hkind
    obtain ⟨stage, hstage, hc⟩ := Option.bind_eq_some_iff.mp hplace
    obtain ⟨stage', hstage', hfrom⟩ := htied
    cases stage with
    | constructing c' =>
      cases hc
      rw [step_wake_idle hstage rfl fun _ he => by cases he]
      cases hfrom with
      | waiting => exact absurd hstage' (hturn hstage)
      | constructing | given | refused =>
        rw [step_wake_idle hstage' rfl fun _ he => by cases he]
        exact h
    | waiting c' =>
      cases hc
      cases hfrom with
      | waiting => exact h.wake_waiting hA hB hw hopenA hx hy hxy hstage hstage'
      | constructing =>
        rw [step_wake_idle hstage' rfl fun _ he => by cases he]
        refine h.back_wake hA hB hopenA hstage hx (fun r hr => ?_) fun _ _ d' hwaits => ?_
        · have hempty := hB.lined.value_eq_none hstage' hy
          rw [hxy.value hr] at hempty
          cases hempty
        · rw [hstage'] at hwaits
          cases hwaits
      | given | refused =>
        rw [step_wake_idle hstage' rfl fun _ he => by cases he]
        refine h.back_wake hA hB hopenA hstage hx (fun _ _ => place?_of_task hstage')
          fun _ _ d' hwaits => ?_
        rw [hstage'] at hwaits
        cases hwaits
    | _ => cases hc

theorem answer (h : Behind make t A B) (hA : A.Faithful make) (hB : B.Faithful make) (hw : w ≠ t)
    (a : Answer ρ τ)
    (hopen : (A.step catalog (A.told make (.answer w a))).1.unit.disposed = false) :
    Behind make t (A.step catalog (A.told make (.answer w a))).1
      (B.step catalog (B.told make (.answer w a))).1 := by
  have hopenA := open_of_step _ hopen
  have hopenB := h.alike.disposed.trans hopenA
  cases h.task hw with
  | same hplace htask =>
    have hidle : ∀ {s : Scene ρ τ}, s.tasks w = A.tasks w → ∀ c, s.tasks w ≠ some (.constructing c) :=
      fun hs c hc => by
        rw [← place?_congr hs, place?_of_task hc] at hplace
        cases hplace
    rw [told_answer_of_idle (hidle rfl)] at hopen ⊢
    rw [told_answer_of_idle (hidle htask)]
    cases ht : A.tasks w with
    | none =>
      rw [step, step, htask, ht]
      exact h
    | some stage =>
      rw [step_answer ht] at hopen ⊢
      rw [step_answer (htask.trans ht)]
      rw [place?_of_task ht] at hplace
      exact h.aside hA.toRegular hB.toRegular hw (h.alike.answer w hplace a) hopen
  | @standing c d i j hplace hi hj hkind htied hturn =>
    obtain ⟨stage, hstage, hc⟩ := Option.bind_eq_some_iff.mp hplace
    obtain ⟨stage', hstage', hfrom⟩ := htied
    cases stage with
    | waiting c' =>
      rw [step_answer_idle hstage rfl fun _ he => by cases he]
      cases hfrom with
      | constructing => exact h.front hA.toRegular hB hw (ends_of_answer hB hstage' hopenB a)
      | waiting | given | refused =>
        rw [step_answer_idle hstage' rfl fun _ he => by cases he]
        exact h
    | constructing c' =>
      cases hc
      have hends : Ends make w A (A.step catalog _).1 := ends_of_answer hA hstage hopenA a
      cases hfrom with
      | waiting => exact absurd hstage' (hturn hstage)
      | constructing =>
        have hendsB : Ends make w B (B.step catalog _).1 := ends_of_answer hB hstage' hopenB a
        exact (h.front hA.toRegular hB hw hendsB).back hA (hendsB.faithful hB) hends
          hendsB.place?_eq_none
      | given | refused =>
        rw [step_answer_idle hstage' rfl fun _ he => by cases he]
        exact h.back hA hB hends (place?_of_task hstage')
    | _ => cases hc

end Behind

/-! ## requests that start -/

section
variable {i : Interface} {info : RepositoryInfo} {u : UnitOfWork ρ τ}

theorem Given.faithful (h : s.Given info u c cell) (hs : s.Faithful make)
    (hfree : s.tasks w = none) (hinfo : UnitOfWork.variant catalog i = .ok info) :
    Faithful make ⟨u, s.tasks⟩ ∧ (queued ⟨u, s.tasks⟩ w c).Faithful make := by
  have hu : Faithful make ⟨u, s.tasks⟩ := by
    rcases h.opened hfree hinfo with rfl | hopened
    · exact hs
    · exact hs.move (g := .start w (.resolve i)) hopened
  exact ⟨hu, hu.move (g := .start w (.resolve i)) (h.joined hfree hinfo)⟩

theorem Given.grows (h : s.Given info u c cell) (hs : s.Regular) (hfree : s.tasks w = none)
    (hinfo : UnitOfWork.variant catalog i = .ok info) : s.unit.Grows u := by
  rcases h.opened hfree hinfo with rfl | hopened
  · exact .refl _
  · exact hs.grows hopened

theorem Given.kind (h : s.Given info u c cell) (hu : u.Placed) :
    cell.info.kind = (info.entity, cell.info.access) := by
  obtain ⟨other, hother, hentity⟩ := hu.current h.entry
  rw [UnitOfWork.info?_of_cell h.there] at hother
  cases hother
  exact Prod.ext hentity rfl

theorem Given.serving (h : s.Given info u c cell) :
    u.serving? info.entity = some cell.info.access :=
  UnitOfWork.serving?_of_entry h.entry (UnitOfWork.info?_of_cell h.there)

end

namespace Behind

/-- **A request in both scenes** gets cells of the same kind. -/
theorem given (h : Behind make t A B) (hA : A.Faithful make) (hB : B.Faithful make)
    (hfree : A.tasks w = none) (hfree' : B.tasks w = none) {i : Interface} {info : RepositoryInfo}
    (hinfo : UnitOfWork.variant catalog i = .ok info) {u v : UnitOfWork ρ τ}
    (hu : A.Given info u c x) (hv : B.Given info v d y) :
    Behind make t ⟨u, A.tasks⟩ ⟨v, B.tasks⟩ ∧ y.info.kind = x.info.kind := by
  have hlags := h.serving info.entity
  have hservingA := hu.serving
  have hservingB := hv.serving
  have hkindA := hu.kind (hu.regular hA.toRegular hfree hinfo).placed
  have hkindB := hv.kind (hv.regular hB.toRegular hfree' hinfo).placed
  have growsA := hu.grows hA.toRegular hfree hinfo
  have growsB := hv.grows hB.toRegular hfree' hinfo
  rcases hu.fresh with rfl | ⟨hunservedA, rfl, rfl⟩ <;>
    rcases hv.fresh with rfl | ⟨hunservedB, rfl, rfl⟩
  · refine ⟨h, ?_⟩
    rcases hlags with hlags | ⟨hnone, -, -⟩
    · rw [hservingA, hservingB] at hlags
      rw [hkindA, hkindB, Option.some.inj hlags]
    · rw [hservingB] at hnone
      cases hnone
  · rcases hlags with hlags | ⟨-, hread, hfails⟩
    · have hno := hunservedB.serving? (hlags.trans hservingA)
      rw [hu.serves] at hno
      cases hno
    · -- the second scene opens a cell that cannot be filled either
      rw [hservingA] at hread
      have hreadA : x.info.access = .readOnly := Option.some.inj hread
      have hreadB : info.access = .readOnly :=
        Access.eq_readOnly_of_satisfies (hreadA ▸ hu.serves)
      have hkind : info.kind = x.info.kind := by
        rw [hkindA, hreadA, ← hreadB]
        rfl
      refine ⟨h.front_opened hA hB.toRegular hu.there hkind.symm ?_ ?_ growsB, hkind⟩
      · rw [hservingA, hreadA, hreadB]
      · rw [RepositoryInfo.kind, hreadB]
        exact hfails
  · rcases hlags with hlags | ⟨hnone, -, -⟩
    · have hno := hunservedA.serving? (hlags.symm.trans hservingB)
      rw [hv.serves] at hno
      cases hno
    · rw [hservingB] at hnone
      cases hnone
  · exact ⟨h.opened hA.toRegular hB.toRegular growsA growsB, rfl⟩

theorem resolve (h : Behind make t A B) (hA : A.Faithful make) (hB : B.Faithful make) (hw : w ≠ t)
    (i : Interface) (hfree : A.tasks w = none) (hfree' : B.tasks w = none)
    (hopen : (A.step catalog (.start w (.resolve i))).1.unit.disposed = false) :
    Behind make t (A.step catalog (.start w (.resolve i))).1
      (B.step catalog (.start w (.resolve i))).1 := by
  have hopenA := open_of_step _ hopen
  have hopenB := h.alike.disposed.trans hopenA
  cases hinfo : UnitOfWork.variant catalog i with
  | error e =>
    rw [step_resolve_refused hfree hopenA hinfo, step_resolve_refused hfree' hopenB hinfo]
    have hrefused : Turn.Aside A.unit B.unit ⟨A.unit, .finished (.error e), []⟩
        ⟨B.unit, .finished (.error e), []⟩ := h.alike.stays rfl
    exact h.aside hA.toRegular hB.toRegular hw hrefused hopenA
  | ok info =>
    obtain ⟨u, c, x, hu, hstepA⟩ := hA.grounded.given hfree hopenA hinfo
    obtain ⟨v, d, y, hv, hstepB⟩ := hB.grounded.given hfree' hopenB hinfo
    obtain ⟨hbehind, hkind⟩ := h.given hA hB hfree hfree' hinfo hu hv
    obtain ⟨hregularA, hqueuedA⟩ := hu.faithful hA hfree hinfo
    obtain ⟨hregularB, hqueuedB⟩ := hv.faithful hB hfree' hinfo
    have hjoined := hbehind.joined hregularA.toRegular hregularB.toRegular hw hu.there hv.there
      hkind
    rw [hstepA] at hopen ⊢
    rw [hstepB]
    exact hjoined.wake hqueuedA hqueuedB hw hopen

theorem start (h : Behind make t A B) (hA : A.Faithful make) (hB : B.Faithful make) (hw : w ≠ t)
    (call : UnitCall) (hopen : (A.step catalog (.start w call)).1.unit.disposed = false) :
    Behind make t (A.step catalog (.start w call)).1 (B.step catalog (.start w call)).1 := by
  cases hstage : A.tasks w with
  | some stage =>
    have hbusy : ∃ stage', B.tasks w = some stage' := by
      cases h.task hw with
      | same _ htask => exact ⟨stage, htask.trans hstage⟩
      | standing _ _ _ _ htied _ =>
        obtain ⟨stage', hstage', -⟩ := htied
        exact ⟨stage', hstage'⟩
    obtain ⟨stage', hstage'⟩ := hbusy
    rw [step, step, hstage, hstage']
    exact h
  | none =>
    have hfree' : B.tasks w = none := by
      cases h.task hw with
      | same _ htask => exact htask.trans hstage
      | standing hplace _ _ _ _ _ =>
        rw [place?, hstage] at hplace
        cases hplace
    by_cases hcall : ∃ i, call = .resolve i
    · obtain ⟨i, rfl⟩ := hcall
      exact h.resolve hA hB hw i hstage hfree' hopen
    · rw [step_start hstage] at hopen ⊢
      rw [step_start hfree']
      exact h.aside hA.toRegular hB.toRegular hw
        (h.alike.start catalog w fun i hi => hcall ⟨i, hi⟩) hopen

/-! ## signals -/

/-- **A signal of another task**, in both scenes. -/
theorem step (h : Behind make t A B) (hA : A.Faithful make) (hB : B.Faithful make)
    (g : Signal ρ τ) (hg : g.task ≠ t)
    (hopen : (A.step catalog (A.told make g)).1.unit.disposed = false) :
    Behind make t (A.step catalog (A.told make g)).1 (B.step catalog (B.told make g)).1 := by
  cases g with
  | start w call => exact h.start hA hB hg call hopen
  | wake w => exact h.wake hA hB hg hopen
  | answer w a => exact h.answer hA hB hg a hopen
  | abandon w => exact h.abandon hA.toRegular hB.toRegular hg catalog

/-- **A signal of the task** that only the first scene has. -/
theorem own_step (h : Behind make t A B) (hA : A.Faithful make) (hB : B.Faithful make)
    (g : Signal ρ τ) (hg : g.task = t) (hkept : g ≠ .abandon t) (hbusy : A.tasks t ≠ none)
    (hopen : (A.step catalog (A.told make g)).1.unit.disposed = false) :
    Behind make t (A.step catalog (A.told make g)).1 B := by
  have hopenA := open_of_step _ hopen
  obtain ⟨stage, hstage⟩ := Option.ne_none_iff_exists'.mp hbusy
  have hcell := (h.fails stage hstage).1
  have hnowhere : B.place? t = none := by
    rw [place?, h.away]
    rfl
  cases g with
  | start w call =>
    obtain rfl : w = t := hg
    show Behind make w (A.step catalog (.start w call)).1 B
    rw [Scene.step, hstage]
    exact h
  | wake w =>
    obtain rfl : w = t := hg
    show Behind make w (A.step catalog (.wake w)).1 B
    by_cases hwaits : ∃ c, stage = .waiting c
    · obtain ⟨c, rfl⟩ := hwaits
      obtain ⟨x, hx⟩ := hA.grounded.task (place?_of_task hstage)
      refine h.back_wake hA hB hopenA hstage hx (fun _ _ => hnowhere) fun _ _ d hd => ?_
      rw [h.away] at hd
      cases hd
    · rw [step_wake_idle hstage hcell fun c hc => hwaits ⟨c, hc⟩]
      exact h
  | answer w a =>
    obtain rfl : w = t := hg
    by_cases hconstructs : ∃ c, stage = .constructing c
    · obtain ⟨c, rfl⟩ := hconstructs
      exact h.back hA hB (ends_of_answer hA hstage hopenA a) hnowhere
    · rw [step_answer_idle hstage hcell fun c hc => hconstructs ⟨c, hc⟩]
      exact h
  | abandon w =>
    obtain rfl : w = t := hg
    exact absurd rfl hkept

end Behind

theorem busy_step (hbusy : s.tasks t ≠ none) (g : Signal ρ τ) (hkept : g ≠ .abandon t) :
    (s.step catalog g).1.tasks t ≠ none := by
  have hturn : ∀ {w turn}, (s.afterTurn w turn).1.tasks t ≠ none := by
    intro w turn
    show replace s.tasks w (some turn.stage) t ≠ none
    by_cases hw : t = w
    · rw [hw, replace_same]
      exact nofun
    · rw [replace_other _ _ hw]
      exact hbusy
  cases g with
  | start w call =>
    rw [step]
    split
    · exact hturn
    · exact hbusy
  | wake w | answer w a =>
    rw [step]
    split
    · exact hturn
    · exact hbusy
  | abandon w =>
    have hw : t ≠ w := fun hw => hkept (congrArg Signal.abandon hw.symm)
    rw [step]
    split
    · show replace s.tasks w none t ≠ none
      rw [replace_other _ _ hw]
      exact hbusy
    · exact hbusy

/-- **Without the task**, all others come at least as far. -/
theorem Behind.play (h : Behind make t A B) (hA : A.Faithful make) (hB : B.Faithful make)
    (hbusy : A.tasks t ≠ none) (script : List (Signal ρ τ)) (hkept : .abandon t ∉ script)
    (hopen : (A.play catalog make script).unit.disposed = false) :
    Behind make t (A.play catalog make script)
      (B.play catalog make (script.filter (·.task ≠ t))) := by
  induction script generalizing A B with
  | nil => exact h
  | cons g rest ih =>
    obtain ⟨hg, hrest⟩ := not_or.mp (mt List.mem_cons.mpr hkept)
    have hnow := open_of_play catalog make _ rest hopen
    have hA' : (A.step catalog (A.told make g)).1.Faithful make := hA.play [g] hnow
    have hbusy' : (A.step catalog (A.told make g)).1.tasks t ≠ none :=
      busy_step hbusy _ fun he => hg (told_eq_abandon he).symm
    by_cases htask : g.task = t
    · rw [List.filter_cons_of_neg (by simpa using htask)]
      exact ih (h.own_step hA hB g htask (fun he => hg he.symm) hbusy hnow) hA' hB hbusy' hrest hopen
    · rw [List.filter_cons_of_pos (by simpa using htask)]
      have hstep := h.step hA hB g htask hnow
      have hB' : (B.step catalog (B.told make g)).1.Faithful make :=
        hB.play [g] (hstep.alike.disposed.trans hnow)
      exact ih hstep hA' hB' hbusy' hrest hopen

end Scene

end RowSpec
