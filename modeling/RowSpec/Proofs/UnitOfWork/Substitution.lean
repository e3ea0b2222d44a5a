import RowSpec.Proofs.Catalog.Tables
import RowSpec.UnitOfWork.Basic

/-!
# Requests and the variants that answer them

A request names an interface. The long variant of an entity type answers for the generic one, where
there is a long one; what answers is always an entry of the catalog.

* `Interface.answering`          the interface of the variant that answers;
* `UnitOfWork.variant_ofTypes`   what answers a request, or why none does;
* `tables_and_requests_agree`    the tables of the catalog, the variants kept with entity types, and
                                 the answers to requests all say the same.
-/

namespace RowSpec

/-! ## the answer -/

namespace Interface

/-- the interface of what answers a request: the long one where the entity type has one -/
def answering (i : Interface) : Interface := .ofKind i.entity i.access i.entity.hasLongId

theorem supported_answering (i : Interface) : i.answering.Supported :=
  supported_ofKind_iff.mpr of_decide_eq_true

theorem answering_answering (i : Interface) : i.answering.answering = i.answering := by
  rw [answering, answering, entity_ofKind, access_ofKind]

end Interface

theorem EntityInfo.hasLongId_ofType (e : EntityType) : (ofType e).hasLongId = e.hasLongId := by
  show (if e.hasLongId then some _ else none : Option RepositoryInfo).isSome = e.hasLongId
  cases e.hasLongId <;> rfl

namespace UnitOfWork

theorem longId?_ofType (i : Interface) : longId? (.ofType i.entity) i.shape =
    if i.Supported then some i.entity.hasLongId else none := by
  obtain ⟨e, access, shape⟩ := i
  cases shape with
  | generic id =>
    have hi : (⟨e, access, .generic id⟩ : Interface).Supported ↔ id = e.idType := by
      simp [Interface.Supported]
    rw [longId?, EntityInfo.hasLongId_ofType]
    exact if_congr hi.symm rfl rfl
  | longId =>
    have hi : (⟨e, access, .longId⟩ : Interface).Supported ↔ e.hasLongId = true := by
      simp [Interface.Supported, EntityType.hasLongId]
    rw [longId?, EntityInfo.hasLongId_ofType]
    by_cases h : e.hasLongId = true
    · rw [if_pos h, if_pos (hi.mpr h), h]
    · rw [if_neg h, if_neg fun h' => h (hi.mp h')]

/-- The entity type has to be registered, and then the interface has to be one of its own. -/
theorem variant_ofTypes (es : List EntityType) (i : Interface) : variant (.ofTypes es) i =
    if i.entity ∉ es then .error (.unknownEntity i.entity)
    else if i.Supported then .ok (.ofInterface i.answering)
    else .error (.incompatibleId i.entity i.shape.idType) := by
  rw [variant, Catalog.entityInfo?_ofTypes]
  by_cases he : i.entity ∈ es
  · rw [if_pos he, if_neg (not_not_intro he)]
    dsimp only
    rw [longId?_ofType]
    by_cases hi : i.Supported
    · have hanswer := (EntityInfo.repository?_ofType i.entity i.access i.entity.hasLongId).trans
        (if_pos i.supported_answering)
      rw [if_pos hi, if_pos hi]
      dsimp only
      rw [hanswer]
      rfl
    · rw [if_neg hi, if_neg hi]
  · rw [if_neg he, if_pos he]

theorem variant_eq_ok_iff {es : List EntityType} {i : Interface} {r : RepositoryInfo} :
    variant (.ofTypes es) i = .ok r ↔
      i.entity ∈ es ∧ i.Supported ∧ r = .ofInterface i.answering := by
  rw [variant_ofTypes]
  by_cases he : i.entity ∈ es
  · by_cases hi : i.Supported
    · simp [he, hi, eq_comm]
    · simp [he, hi]
  · simp [he]

theorem exists_variant_iff {es : List EntityType} {i : Interface} :
    (∃ r, variant (.ofTypes es) i = .ok r) ↔
      ((Catalog.ofTypes es).repositoryInfo? i).isSome = true := by
  simp only [variant_eq_ok_iff, Option.isSome_iff_exists, Catalog.repositoryInfo?_eq_some_iff,
    exists_and_left, exists_eq]

/-- What answers a request is an entry of the catalog, and answers for itself. -/
theorem entry_of_variant {es : List EntityType} {i : Interface} {r : RepositoryInfo}
    (h : variant (.ofTypes es) i = .ok r) :
    r.entity = i.entity ∧ r.access = i.access ∧
      (Catalog.ofTypes es).repositoryInfo? r.interface = some r ∧
      variant (.ofTypes es) r.interface = .ok r := by
  obtain ⟨he, -, rfl⟩ := variant_eq_ok_iff.mp h
  have hentity : i.answering.entity = i.entity := Interface.entity_ofKind
  have hregistered : i.answering.entity ∈ es := by rwa [hentity]
  refine ⟨hentity, Interface.access_ofKind, ?_, ?_⟩
  · exact Catalog.repositoryInfo?_eq_some_iff.mpr ⟨hregistered, i.supported_answering, rfl⟩
  · refine variant_eq_ok_iff.mpr ⟨hregistered, i.supported_answering, ?_⟩
    show RepositoryInfo.ofInterface i.answering = .ofInterface i.answering.answering
    rw [Interface.answering_answering]

theorem resolveInfo_eq_variant {ρ τ : Type} {u : UnitOfWork ρ τ} (hu : u.disposed = false)
    (catalog : Catalog) (i : Interface) : u.resolveInfo catalog i = variant catalog i := by
  rw [resolveInfo, hu]
  rfl

end UnitOfWork

/-! ## agreement -/

/-- **Tables and requests agree.** After any registrations, an entity type is found iff it has been
registered, and an interface iff it is one of a registered type; the variants kept with a type are
those found by interface, and other registrations of the same types make the same tables. A unit in
use answers the requests for the interfaces found and no others, each with a variant of its entity
type and access that is found under its own interface, where it answers again. -/
theorem tables_and_requests_agree {ρ τ : Type} (u : UnitOfWork ρ τ) (hu : u.disposed = false)
    (es es' : List EntityType) (hsame : ∀ e, e ∈ es' ↔ e ∈ es) :
    let c := Catalog.ofTypes es
    let c' := Catalog.ofTypes es'
    (∀ e, c.entityInfo? e = if e ∈ es then some (.ofType e) else none) ∧
    (∀ i, (c.repositoryInfo? i).isSome = true ↔ i.entity ∈ es ∧
      (i.shape = .generic i.entity.idType ∨ i.shape = .longId ∧ i.entity.idType = .long)) ∧
    (∀ i r, c.repositoryInfo? i = some r → r.interface = i) ∧
    (∀ e info, c.entityInfo? e = some info → ∀ access longId,
      info.repository? access longId = c.repositoryInfo? (.ofKind e access longId)) ∧
    (c'.entityInfo? = c.entityInfo? ∧ c'.repositoryInfo? = c.repositoryInfo? ∧
      c'.entities.Perm c.entities ∧ c'.repositories.Perm c.repositories) ∧
    (∀ i, (∃ r, u.resolveInfo c i = .ok r) ↔ (c.repositoryInfo? i).isSome = true) ∧
    ∀ i r, u.resolveInfo c i = .ok r → r.entity = i.entity ∧ r.access = i.access ∧
      c.repositoryInfo? r.interface = some r ∧ u.resolveInfo c r.interface = .ok r := by
  intro c c'
  simp only [UnitOfWork.resolveInfo_eq_variant hu]
  refine ⟨Catalog.entityInfo?_ofTypes es, fun i => ?_, fun i r h => ?_,
    fun e info h => Catalog.repository?_eq_repositoryInfo? h, ⟨Catalog.entityInfo?_congr hsame,
      Catalog.repositoryInfo?_congr hsame, Catalog.entities_perm hsame,
      Catalog.repositories_perm hsame⟩,
    fun i => UnitOfWork.exists_variant_iff, fun i r h => UnitOfWork.entry_of_variant h⟩
  · simp only [c, Option.isSome_iff_exists, Catalog.repositoryInfo?_eq_some_iff, exists_and_left,
      exists_eq, and_true]
    rfl
  · obtain ⟨-, -, rfl⟩ := Catalog.repositoryInfo?_eq_some_iff.mp h
    rfl

/-! ## two entity types -/

def orderType : EntityType := ⟨"order", .long, "id", {}, "orders", "orders"⟩

def deviceType : EntityType := ⟨"device", ⟨"uuid"⟩, "id", {}, "devices", "devices"⟩

/-- A generic request for orders is answered by the long variant; one for devices with another
identifier type is not answered. -/
theorem orders_and_devices_agree :
    let u : UnitOfWork String Unit := {}
    let c := Catalog.ofTypes [orderType, deviceType, orderType]
    let long := RepositoryInfo.ofInterface (.long orderType .mutating)
    u.disposed = false ∧
    (∀ e, e ∈ [deviceType, orderType] ↔ e ∈ [orderType, deviceType, orderType]) ∧
    (Catalog.ofTypes [deviceType, orderType]).repositoryInfo? = c.repositoryInfo? ∧
    u.resolveInfo c (.generic orderType .mutating) = .ok long ∧
    c.repositoryInfo? long.interface = some long ∧
    ¬ ∃ r, u.resolveInfo c ⟨deviceType, .readOnly, .generic .long⟩ = .ok r := by
  intro u c long
  have hsame : ∀ e, e ∈ [deviceType, orderType] ↔ e ∈ [orderType, deviceType, orderType] := by
    intro e
    simp only [List.mem_cons, List.not_mem_nil, or_false]
    constructor
    · rintro (rfl | rfl) <;> simp
    · rintro (rfl | rfl | rfl) <;> simp
  obtain ⟨-, -, -, -, ⟨-, htable, -⟩, hfound, hentry⟩ :=
    tables_and_requests_agree u rfl [orderType, deviceType, orderType] _ hsame
  refine ⟨rfl, hsame, htable, rfl, ?_, ?_⟩
  · exact (hentry (.generic orderType .mutating) long rfl).2.2.1
  · rw [hfound]
    decide

end RowSpec
