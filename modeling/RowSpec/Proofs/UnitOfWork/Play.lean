import RowSpec.Proofs.UnitOfWork.Contents

/-!
# Plays

A play is a run in which the constructors succeed or fail by entity type and access alone.

* `Scene.told`                what a signal says once the constructors have answered;
* `Scene.play`                the run of a script with these constructors;
* `Scene.Faithful`            the cells hold what the constructors give;
* `Faithful.play_induction`   what every move of an open unit keeps, every play keeps;
* `Tied.reply`                a request is answered by the constructor for its cell.
-/

namespace RowSpec

variable {ρ τ : Type}

/-- What a constructor gives for an entity type and an access. -/
abbrev Constructors (ρ : Type) := EntityType × Access → Except RepoError ρ

/-- What a request is told that a constructor has served. -/
def Constructors.reply (make : Constructors ρ) (k : EntityType × Access) : Reply ρ τ :=
  (make k).map .repository

namespace Scene

/-- A task that constructs is told what the constructor gives. -/
def told (make : Constructors ρ) (s : Scene ρ τ) : Signal ρ τ → Signal ρ τ
  | .answer t a => match s.request? t with
    | some (.construct info) => .answer t (.constructed (make info.kind))
    | _ => .answer t a
  | g => g

def play (catalog : Catalog) (make : Constructors ρ) (s : Scene ρ τ)
    (script : List (Signal ρ τ)) : Scene ρ τ :=
  script.foldl (fun s g => (s.step catalog (s.told make g)).1) s

variable {catalog : Catalog} {make : Constructors ρ} {s s' : Scene ρ τ} {g : Signal ρ τ}
  {t : TaskId} {c : CellId} {info : RepositoryInfo} {made : List (RepositoryInfo × ρ)}

theorem play_append (catalog : Catalog) (make : Constructors ρ) (s : Scene ρ τ)
    (gs hs : List (Signal ρ τ)) :
    s.play catalog make (gs ++ hs) = (s.play catalog make gs).play catalog make hs :=
  List.foldl_append

/-! ## what is told -/

theorem told_constructing (make : Constructors ρ) (ht : s.tasks t = some (.constructing c))
    (hinfo : s.unit.info? c = some info) (a : Answer ρ τ) :
    s.told make (.answer t a) = .answer t (.constructed (make info.kind)) := by
  obtain ⟨cell, hcell, rfl⟩ := Option.map_eq_some_iff.mp hinfo
  have hrequest : s.request? t = some (.construct cell.info) := by
    rw [request?_of_stage ht, UnitOfWork.request?, hcell]
    rfl
  rw [told, hrequest]

theorem told_answer_of_idle (h : ∀ c, s.tasks t ≠ some (.constructing c)) (a : Answer ρ τ) :
    s.told make (.answer t a) = .answer t a := by
  rw [told]
  split
  · obtain ⟨stage, hstage, hrequest⟩ := Option.bind_eq_some_iff.mp ‹s.request? t = some _›
    cases stage with
    | constructing c => exact absurd hstage (h c)
    | _ => cases hrequest
  · rfl

theorem task_told (make : Constructors ρ) (s : Scene ρ τ) (g : Signal ρ τ) :
    (s.told make g).task = g.task := by
  cases g with
  | answer t a =>
    rw [told]
    split <;> rfl
  | _ => rfl

theorem told_eq_start {call : UnitCall} (h : s.told make g = .start t call) :
    g = .start t call := by
  cases g with
  | answer t' a =>
    rw [told] at h
    split at h <;> cases h
  | _ => exact h

theorem told_eq_abandon (h : s.told make g = .abandon t) : g = .abandon t := by
  cases g with
  | answer t' a =>
    rw [told] at h
    split at h <;> cases h
  | _ => exact h

theorem told_eq_constructed {result : Except RepoError ρ}
    (h : s.told make g = .answer t (.constructed result))
    (ht : s.tasks t = some (.constructing c)) (hinfo : s.unit.info? c = some info) :
    make info.kind = result := by
  have htask : g.task = t := by rw [← task_told make s g, h, Signal.task]
  cases g with
  | answer t' a =>
    obtain rfl : t' = t := htask
    rw [told_constructing make ht hinfo] at h
    cases h
    rfl
  | _ => cases h

theorem open_of_play (catalog : Catalog) (make : Constructors ρ) (s : Scene ρ τ)
    (script : List (Signal ρ τ)) (hopen : (s.play catalog make script).unit.disposed = false) :
    s.unit.disposed = false := by
  induction script generalizing s with
  | nil => exact hopen
  | cons g rest ih => exact open_of_step _ (ih _ hopen)

/-! ## faithful scenes -/

/-- Each cell that is filled holds what the constructor gives for its variant. -/
structure Faithful (make : Constructors ρ) (s : Scene ρ τ) : Prop extends s.Regular where
  made : ∀ {c info r}, s.unit.content? c = some (info, some r) → make info.kind = .ok r

theorem faithful_start : ({} : Scene ρ τ).Faithful make where
  toRegular := regular_start
  made h := nomatch h

theorem Move.brought {g' : Signal ρ τ} (hmove : Move catalog s g' made s')
    (hg : s.told make g = g') : ∀ p ∈ made, make p.1.kind = .ok p.2 := by
  cases hmove with
  | built ht hcell =>
    intro p hp
    cases List.mem_singleton.mp hp
    exact told_eq_constructed hg ht (UnitOfWork.info?_of_cell hcell)
  | _ => exact fun _ hp => nomatch hp

theorem Faithful.move (h : s.Faithful make) (hmove : Move catalog s (s.told make g) made s') :
    s'.Faithful make := by
  refine ⟨h.toRegular.move hmove, fun {c info r} hc => ?_⟩
  have hbrought := hmove.brought rfl
  cases hmove.shift h.lined with
  | same _ hcontent => exact h.made ((hcontent c).symm.trans hc)
  | opened _ _ _ _ hunit =>
    rw [hunit, UnitOfWork.content?_openCell] at hc
    split at hc
    · cases hc
    · exact h.made hc
  | filled _ _ hcontent =>
    rw [hcontent] at hc
    split at hc
    · cases hc
      exact hbrought _ (List.mem_singleton.mpr rfl)
    · exact h.made hc

theorem Regular.grows (hs : s.Regular) (hmove : Move catalog s g made s') :
    s.unit.Grows s'.unit := (hmove.shift hs.lined).grows hs.placed

/-- **What every move keeps** holds after every play of a unit that stays open. -/
theorem Faithful.play_induction {P : Scene ρ τ → Prop} (hs : s.Faithful make) (h : P s)
    (script : List (Signal ρ τ)) (hopen : (s.play catalog make script).unit.disposed = false)
    (hmove : ∀ {g s made s'}, g ∈ script → s.Faithful make →
      Move catalog s (s.told make g) made s' → P s → P s') :
    (s.play catalog make script).Faithful make ∧ P (s.play catalog make script) := by
  induction script generalizing s with
  | nil => exact ⟨hs, h⟩
  | cons g rest ih =>
    have hnow := open_of_play catalog make _ rest hopen
    have hstep := (hs.grounded.moves (s.told make g) hnow).induction hs.toRegular []
      (P := fun _ s => s.Faithful make ∧ P s) ⟨hs, h⟩
      fun {_ s₁ made s₂} hwhich _ hm ⟨hs₁, h₁⟩ => by
        -- a request is told nothing, so it says the same in between
        have htold : s.told make g = s₁.told make g := by
          rcases hwhich with rfl | ⟨t, i, hcall⟩
          · rfl
          · rw [hcall, told_eq_start hcall]
            rfl
        rw [htold] at hm
        exact ⟨hs₁.move hm, hmove List.mem_cons_self hs₁ hm h₁⟩
    obtain ⟨-, hs', h'⟩ := hstep
    exact ih hs' h' hopen fun hg hs hm => hmove (List.mem_cons_of_mem g hg) hs hm

theorem Faithful.play (hs : s.Faithful make) (script : List (Signal ρ τ))
    (hopen : (s.play catalog make script).unit.disposed = false) :
    (s.play catalog make script).Faithful make :=
  (hs.play_induction (P := fun _ => True) trivial script hopen fun _ _ _ _ => trivial).1

theorem Faithful.grows_play (hs : s.Faithful make) (script : List (Signal ρ τ))
    (hopen : (s.play catalog make script).unit.disposed = false) :
    s.unit.Grows (s.play catalog make script).unit :=
  (hs.play_induction (P := fun s' => s.unit.Grows s'.unit) (.refl _) script hopen
    fun _ hs' hm h => h.trans (hs'.grows hm)).2

/-! ## requests -/

/-- How a request stands at a cell whose constructor is known. -/
theorem Faithful.reply_of_from (hs : s.Faithful make) {reply : Reply ρ τ}
    (hinfo : s.unit.info? c = some info)
    (h : From s.unit c (make info.kind = .error ·) (.finished reply)) :
    reply = make.reply info.kind := by
  cases h with
  | given hcontent =>
    have hmade := hs.made hcontent
    rw [UnitOfWork.info?_of_content? hcontent] at hinfo
    cases hinfo
    rw [Constructors.reply, hmade]
    rfl
  | refused hrefused =>
    rw [Constructors.reply, hrefused]
    rfl

/-- **A request is answered** by the constructor for the cell that it has been given. -/
theorem Tied.reply (hs : s.Faithful make) (hinfo : s.unit.info? c = some info)
    (h : s.Tied t c (make info.kind = .error ·)) (script : List (Signal ρ τ))
    (hopen : (s.play catalog make script).unit.disposed = false) (hkept : .abandon t ∉ script)
    {reply : Reply ρ τ} (hreply : (s.play catalog make script).reply? t = some reply) :
    reply = make.reply info.kind := by
  obtain ⟨hs', hinfo', stage, hstage, hfrom⟩ := hs.play_induction
    (P := fun s' => s'.unit.info? c = some info ∧ s'.Tied t c (make info.kind = .error ·))
    ⟨hinfo, h⟩ script hopen fun {g s made s'} hg hs hm ⟨hinfo, h⟩ =>
      ⟨(hs.grows hm).info hinfo, h.move hs.toRegular hm
        (fun he => hkept (told_eq_abandon he ▸ hg))
        fun e he ht => told_eq_constructed he ht hinfo⟩
  rw [reply?, hstage] at hreply
  cases stage with
  | finished =>
    cases hreply
    exact hs'.reply_of_from hinfo' hfrom
  | _ => cases hreply

end Scene

end RowSpec
