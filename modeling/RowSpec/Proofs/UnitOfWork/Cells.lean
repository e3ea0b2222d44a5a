import RowSpec.Proofs.UnitOfWork.Substitution

/-!
# The cells of a unit

A unit in use has opened at most one cell for each entity type and access. The cell in use for a
type is the mutating one as soon as there is one.

* `RepositoryInfo.kind`     entity type and access of a variant;
* `variant_kind`            a request is answered by a variant of its own kind;
* `UnitOfWork.info?`        the variant of a cell;
* `cellFor_cases`           the cell of a request is the one in use, or a new one;
* `Advances`                how the variant in use may change;
* `Placed`                  what holds of the cells opened, and `Placed.openCell` why it lasts.
-/

namespace RowSpec

/-! ## variants -/

theorem Access.eq_mutating_of_satisfies {access : Access} (h : access.satisfies .mutating = true) :
    access = .mutating := by
  cases access with
  | mutating => rfl
  | readOnly => cases h

theorem Access.eq_readOnly_of_satisfies {access : Access}
    (h : Access.readOnly.satisfies access = true) : access = .readOnly := by
  cases access with
  | readOnly => rfl
  | mutating => cases h

/-- Repositories of one kind can stand in for each other. -/
def RepositoryInfo.kind (r : RepositoryInfo) : EntityType × Access := (r.entity, r.access)

def Interface.kind (i : Interface) : EntityType × Access := (i.entity, i.access)

namespace UnitOfWork

theorem variant_kind {types : List EntityType} {i : Interface} {info : RepositoryInfo}
    (h : variant (.ofTypes types) i = .ok info) : info.kind = i.kind := by
  obtain ⟨hentity, haccess, -⟩ := entry_of_variant h
  exact Prod.ext hentity haccess

/-! ## cells -/

variable {ρ τ : Type} {u u' : UnitOfWork ρ τ} {c d : CellId} {e : EntityType}
  {info other : RepositoryInfo}

/-- the variant of a cell -/
def info? (u : UnitOfWork ρ τ) (c : CellId) : Option RepositoryInfo := (u.cell? c).map (·.info)

theorem info?_of_cell {cell : Cell ρ} (h : u.cell? c = some cell) : u.info? c = some cell.info := by
  rw [info?, h]
  rfl

theorem cachedInfo?_of_entry (h : u.entry? e = some c) : u.cachedInfo? e = u.info? c := by
  rw [cachedInfo?, h]
  rfl

theorem cachedInfo?_of_none (h : u.entry? e = none) : u.cachedInfo? e = none := by
  rw [cachedInfo?, h]
  rfl

theorem cachedInfo?_congr (hentry : u'.entry? e = u.entry? e)
    (hinfo : ∀ c, u'.info? c = u.info? c) : u'.cachedInfo? e = u.cachedInfo? e := by
  cases he : u.entry? e with
  | none => rw [cachedInfo?_of_none he, cachedInfo?_of_none (hentry.trans he)]
  | some c => rw [cachedInfo?_of_entry he, cachedInfo?_of_entry (hentry.trans he), hinfo]

theorem cell?_length (u : UnitOfWork ρ τ) : u.cell? u.cells.length = none :=
  List.getElem?_eq_none (Nat.le_refl _)

theorem cell?_openCell (u : UnitOfWork ρ τ) (info : RepositoryInfo) (c : CellId) :
    (u.openCell info).1.cell? c = if c = u.cells.length then some { info } else u.cell? c := by
  show (u.cells ++ [(⟨info, {}, none⟩ : Cell ρ)])[c]? = _
  by_cases hc : c = u.cells.length
  · rw [if_pos hc, hc, List.getElem?_concat_length]
  · rw [if_neg hc, List.getElem?_append]
    by_cases hlt : c < u.cells.length
    · rw [if_pos hlt]
      rfl
    · have hbeyond := Nat.lt_of_le_of_ne (Nat.le_of_not_lt hlt) (Ne.symm hc)
      rw [if_neg hlt, cell?, List.getElem?_eq_none (Nat.le_of_lt hbeyond)]
      exact List.getElem?_eq_none (Nat.le_sub_of_add_le (Nat.one_add_le_iff.mpr hbeyond))

theorem cell?_openCell_of_some {cell : Cell ρ} (h : u.cell? c = some cell) :
    (u.openCell info).1.cell? c = some cell := by
  rw [cell?_openCell, if_neg, h]
  rintro rfl
  rw [cell?_length] at h
  cases h

theorem cell?_openCell_cases {cell : Cell ρ} (h : (u.openCell info).1.cell? c = some cell) :
    cell = { info } ∨ u.cell? c = some cell := by
  rw [cell?_openCell] at h
  split at h
  · exact .inl (Option.some.inj h).symm
  · exact .inr h

theorem entry?_openCell (u : UnitOfWork ρ τ) (info : RepositoryInfo) (e : EntityType) :
    entry? (u.openCell info).1 e = if e = info.entity then some u.cells.length else u.entry? e :=
  lookup_setKey ..

theorem info?_openCell (u : UnitOfWork ρ τ) (info : RepositoryInfo) (c : CellId) :
    (u.openCell info).1.info? c = if c = u.cells.length then some info else u.info? c := by
  rw [info?, cell?_openCell]
  split <;> rfl

theorem cell?_modifyCell (u : UnitOfWork ρ τ) (c d : CellId) (change : Cell ρ → Cell ρ) :
    (u.modifyCell c change).cell? d = if d = c then (u.cell? d).map change else u.cell? d := by
  show (u.cells.modify c change)[d]? = _
  rw [List.getElem?_modify]
  by_cases h : d = c
  · rw [if_pos h]
    simp only [if_pos h.symm]
    rfl
  · rw [if_neg h]
    simp only [if_neg (Ne.symm h)]
    exact id_map _

/-- No cell is in use that serves requests of this kind. -/
def Unserved (u : UnitOfWork ρ τ) (info : RepositoryInfo) : Prop :=
  ∀ c other, u.entry? info.entity = some c → u.info? c = some other →
    other.access.satisfies info.access = false

theorem cellFor_cases (u : UnitOfWork ρ τ) (info : RepositoryInfo)
    (hcurrent : ∀ c, u.entry? info.entity = some c → ∃ other, u.info? c = some other) :
    (∃ c other, u.entry? info.entity = some c ∧ u.info? c = some other ∧
        other.access.satisfies info.access = true ∧ u.cellFor info = (u, c, [])) ∨
      u.Unserved info ∧ ∃ events, u.cellFor info = ((u.openCell info).1, u.cells.length, events) := by
  cases hentry : u.entry? info.entity with
  | none =>
    refine .inr ⟨fun c other hc => ?_, [], ?_⟩
    · rw [hentry] at hc
      cases hc
    · rw [cellFor, hentry]
      rfl
  | some c =>
    obtain ⟨other, hother⟩ := hcurrent c hentry
    obtain ⟨cell, hcell, rfl⟩ := Option.map_eq_some_iff.mp hother
    cases hserves : cell.info.access.satisfies info.access with
    | true =>
      refine .inl ⟨c, cell.info, rfl, hother, hserves, ?_⟩
      simp only [cellFor, hentry, hcell]
      exact if_pos hserves
    | false =>
      refine .inr ⟨fun d other' hd hother' => ?_, [.upgrading], ?_⟩
      · rw [hentry] at hd
        cases hd
        rw [hother] at hother'
        cases hother'
        exact hserves
      · simp only [cellFor, hentry, hcell]
        exact if_neg (hserves ▸ Bool.false_ne_true)

/-! ## places -/

/-- Nothing is in use at first, then a variant, and a read-only one gives way to a mutating one. -/
def Advances (old new : Option RepositoryInfo) : Prop :=
  old = none ∨ new = old ∨
    ∃ i j, old = some i ∧ new = some j ∧ i.access = .readOnly ∧ j.access = .mutating

theorem Advances.trans {x y z : Option RepositoryInfo} (h : Advances x y) (h' : Advances y z) :
    Advances x z := by
  rcases h with rfl | rfl | ⟨i, j, rfl, rfl, hi, hj⟩
  · exact .inl rfl
  · exact h'
  · rcases h' with h' | rfl | ⟨i', j', h', -, hi', -⟩
    · cases h'
    · exact .inr (.inr ⟨i, j, rfl, rfl, hi, hj⟩)
    · cases h'
      rw [hj] at hi'
      cases hi'

/-- The cells opened so far: each is the one in use for its type, or a read-only one that has given
way to a mutating one; no two are of one kind. -/
structure Placed (u : UnitOfWork ρ τ) : Prop where
  current : ∀ {e c}, u.entry? e = some c → ∃ info, u.info? c = some info ∧ info.entity = e
  placed : ∀ {c info}, u.info? c = some info → u.entry? info.entity = some c ∨
    info.access = .readOnly ∧ ∃ other, u.cachedInfo? info.entity = some other ∧
      other.access = .mutating
  apart : ∀ {c d info other}, u.info? c = some info → u.info? d = some other →
    info.kind = other.kind → c = d

theorem Placed.congr (h : u.Placed) (hentry : ∀ e, u'.entry? e = u.entry? e)
    (hinfo : ∀ c, u'.info? c = u.info? c) : u'.Placed := by
  have hcached : ∀ e, u'.cachedInfo? e = u.cachedInfo? e :=
    fun e => cachedInfo?_congr (hentry e) hinfo
  constructor
  · intro e c hc
    rw [hinfo]
    exact h.current ((hentry e).symm.trans hc)
  · intro c info hc
    rw [hentry, hcached]
    exact h.placed ((hinfo c).symm.trans hc)
  · intro c d info other hc hd
    exact h.apart ((hinfo c).symm.trans hc) ((hinfo d).symm.trans hd)

/-- Where no cell serves a request, none is of its kind. -/
theorem Placed.kind_ne (h : u.Placed) (hunserved : u.Unserved info) (hc : u.info? c = some other) :
    other.kind ≠ info.kind := by
  intro hkind
  obtain ⟨hentity, haccess⟩ := Prod.mk.inj hkind
  rcases h.placed hc with hentry | ⟨hread, used, hused, hmutating⟩
  · have hno := hunserved c other (hentity ▸ hentry) hc
    rw [show other.access = info.access from haccess, Access.satisfies_self] at hno
    cases hno
  · obtain ⟨d, hd, hused⟩ : ∃ d, u.entry? info.entity = some d ∧ u.info? d = some used := by
      cases hentry : u.entry? other.entity with
      | none =>
        rw [cachedInfo?_of_none hentry] at hused
        cases hused
      | some d =>
        rw [cachedInfo?_of_entry hentry] at hused
        exact ⟨d, hentity ▸ hentry, hused⟩
    have hno := hunserved d used hd hused
    rw [hmutating] at hno
    cases hno

/-- A cell that is replaced is read-only and gives way to a mutating one. -/
theorem Unserved.access (hunserved : u.Unserved info) (hc : u.entry? info.entity = some c)
    (hother : u.info? c = some other) : other.access = .readOnly ∧ info.access = .mutating := by
  have hno := hunserved c other hc hother
  cases hhave : other.access <;> cases hwant : info.access <;> rw [hhave, hwant] at hno
  · cases hno
  · exact ⟨rfl, rfl⟩
  · cases hno
  · cases hno

theorem cachedInfo?_openCell (u : UnitOfWork ρ τ) (info : RepositoryInfo) :
    (u.openCell info).1.cachedInfo? info.entity = some info := by
  have hentry := entry?_openCell u info info.entity
  rw [if_pos rfl] at hentry
  rw [cachedInfo?_of_entry hentry, info?_openCell, if_pos rfl]

theorem Placed.cachedInfo?_openCell_other (h : u.Placed) (he : e ≠ info.entity) :
    (u.openCell info).1.cachedInfo? e = u.cachedInfo? e := by
  have hentry := entry?_openCell u info e
  rw [if_neg he] at hentry
  cases hu : u.entry? e with
  | none => rw [cachedInfo?_of_none hu, cachedInfo?_of_none (hentry.trans hu)]
  | some c =>
    obtain ⟨other, hother, -⟩ := h.current hu
    rw [cachedInfo?_of_entry hu, cachedInfo?_of_entry (hentry.trans hu), info?_openCell, if_neg]
    rintro rfl
    rw [info?, cell?_length] at hother
    cases hother

theorem Placed.advances_openCell (h : u.Placed) (hunserved : u.Unserved info) (e : EntityType) :
    Advances (u.cachedInfo? e) ((u.openCell info).1.cachedInfo? e) := by
  by_cases he : e = info.entity
  · subst he
    rw [cachedInfo?_openCell]
    cases hentry : u.entry? info.entity with
    | none => exact .inl (cachedInfo?_of_none hentry)
    | some c =>
      obtain ⟨other, hother, -⟩ := h.current hentry
      rw [cachedInfo?_of_entry hentry, hother]
      obtain ⟨hread, hmutating⟩ := hunserved.access hentry hother
      exact .inr (.inr ⟨other, info, rfl, rfl, hread, hmutating⟩)
  · rw [h.cachedInfo?_openCell_other he]
    exact .inr (.inl rfl)

theorem Placed.openCell (h : u.Placed) (hunserved : u.Unserved info) :
    (u.openCell info).1.Placed := by
  have hnew : u.info? u.cells.length = none := by
    rw [info?, cell?_length]
    rfl
  have hold : ∀ {c other}, u.info? c = some other → (u.openCell info).1.info? c = some other := by
    intro c other hc
    rw [info?_openCell, if_neg, hc]
    rintro rfl
    rw [hnew] at hc
    cases hc
  have hcases : ∀ {c other}, (u.openCell info).1.info? c = some other →
      c = u.cells.length ∧ other = info ∨ u.info? c = some other := by
    intro c other hc
    rw [info?_openCell] at hc
    split at hc
    · exact .inl ⟨‹_›, (Option.some.inj hc).symm⟩
    · exact .inr hc
  constructor
  · intro e c hc
    rw [entry?_openCell] at hc
    split at hc
    · cases hc
      refine ⟨info, ?_, ‹e = info.entity›.symm⟩
      rw [info?_openCell, if_pos rfl]
    · obtain ⟨other, hother, hentity⟩ := h.current hc
      exact ⟨other, hold hother, hentity⟩
  · intro c other hc
    rcases hcases hc with ⟨rfl, rfl⟩ | hc
    · exact .inl ((entry?_openCell u other _).trans (if_pos rfl))
    · by_cases he : other.entity = info.entity
      · -- the cell in use for this type has just given way
        rcases h.placed hc with hentry | ⟨hread, -⟩
        · obtain ⟨hread, hmutating⟩ := hunserved.access (he ▸ hentry) hc
          exact .inr ⟨hread, info, he ▸ cachedInfo?_openCell u info, hmutating⟩
        · refine .inr ⟨hread, info, he ▸ cachedInfo?_openCell u info, ?_⟩
          cases hwant : info.access with
          | mutating => rfl
          | readOnly => exact absurd (Prod.ext he (hread.trans hwant.symm)) (h.kind_ne hunserved hc)
      · rw [entry?_openCell, if_neg he, h.cachedInfo?_openCell_other he]
        exact h.placed hc
  · intro c d i j hc hd hkind
    rcases hcases hc with ⟨rfl, rfl⟩ | hc <;> rcases hcases hd with ⟨rfl, hd'⟩ | hd
    · rfl
    · exact absurd hkind.symm (h.kind_ne hunserved hd)
    · exact absurd (hkind.trans (congrArg _ hd')) (h.kind_ne hunserved hc)
    · exact h.apart hc hd hkind

end UnitOfWork

end RowSpec
