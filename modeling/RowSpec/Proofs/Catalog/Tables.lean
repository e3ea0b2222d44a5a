import RowSpec.Catalog.Basic
import RowSpec.Proofs.FirstAppearances

/-!
# The tables of a catalog

A catalog is asked for the info of an entity type and for the repository variant of an interface.
Its answers depend on which types have been registered, not on when or how often.

* `find?_of_mem_iff`              looking up in a table whose rows are made from their keys;
* `Interface.Supported`           the interfaces that an entity type comes with;
* `EntityInfo.repository?_ofType`   the variants kept with an entity type;
* `Catalog.entities_ofTypes_eq`   every type is registered once, where it comes first;
* `Catalog.entityInfo?_ofTypes`, `Catalog.repositoryInfo?_ofTypes`   what the tables hold;
* `Catalog.repository?_eq_repositoryInfo?`   variants kept with a type are found by interface;
* `Catalog.entities_perm`, `Catalog.repositories_perm`   registrations in another order.
-/

namespace RowSpec

/-- In a table whose rows are made from their keys, a key finds the row made from it. -/
theorem find?_of_mem_iff {α κ : Type} [DecidableEq κ] {table : List α} {key : α → κ}
    {make : κ → α} {known : κ → Prop} [DecidablePred known] (hkey : ∀ k, key (make k) = k)
    (hmem : ∀ row, row ∈ table ↔ ∃ k, known k ∧ row = make k) (k : κ) :
    table.find? (key · = k) = if known k then some (make k) else none := by
  cases hfind : table.find? (key · = k) with
  | none =>
    have hnot : ¬ known k := by
      intro hk
      have hrow := (hmem (make k)).mpr ⟨k, hk, rfl⟩
      exact List.find?_eq_none.mp hfind _ hrow (decide_eq_true (hkey k))
    rw [if_neg hnot]
  | some row =>
    have hrow := List.find?_some hfind
    obtain ⟨j, hj, rfl⟩ := (hmem row).mp (List.mem_of_find?_eq_some hfind)
    obtain rfl : j = k := (hkey j).symm.trans (of_decide_eq_true hrow)
    rw [if_pos hj]

/-! ## the variants of a type -/

namespace Interface

/-- The generic shape with the identifier type of the entity; the long one if that type is long. -/
def Supported (i : Interface) : Prop :=
  i.shape = .generic i.entity.idType ∨ i.shape = .longId ∧ i.entity.idType = .long

instance (i : Interface) : Decidable i.Supported := inferInstanceAs (Decidable (_ ∨ _))

/-- the interface of an access level, long or generic -/
def ofKind (e : EntityType) (access : Access) (longId : Bool) : Interface :=
  if longId then .long e access else .generic e access

variable {e : EntityType} {access : Access} {longId : Bool}

theorem entity_ofKind : (ofKind e access longId).entity = e := by
  cases longId <;> rfl

theorem access_ofKind : (ofKind e access longId).access = access := by
  cases longId <;> rfl

theorem supported_ofKind_iff :
    (ofKind e access longId).Supported ↔ (longId = true → e.idType = .long) := by
  cases longId <;> simp [ofKind, Supported, long, generic]

theorem eq_ofKind_of_supported {i : Interface} (h : i.Supported) :
    ∃ longId, i = .ofKind i.entity i.access longId := by
  obtain ⟨e, access, shape⟩ := i
  rcases h with h | ⟨h, -⟩
  · exact ⟨false, congrArg (Interface.mk e access) h⟩
  · exact ⟨true, congrArg (Interface.mk e access) h⟩

end Interface

namespace EntityInfo

/-- The variant of a kind is there iff its interface is supported. -/
theorem repository?_ofType (e : EntityType) (access : Access) (longId : Bool) :
    (ofType e).repository? access longId =
      if (Interface.ofKind e access longId).Supported
      then some (.ofInterface (.ofKind e access longId)) else none := by
  cases longId with
  | false =>
    rw [if_pos (Interface.supported_ofKind_iff.mpr fun h => absurd h Bool.false_ne_true)]
    cases access <;> rfl
  | true =>
    have hfield : (ofType e).repository? access true =
        if e.hasLongId then some (.ofInterface (.long e access)) else none := by
      cases access <;> rfl
    have hlong : (Interface.ofKind e access true).Supported ↔ e.hasLongId = true := by
      rw [Interface.supported_ofKind_iff, EntityType.hasLongId, decide_eq_true_iff]
      exact ⟨fun h => h rfl, fun h _ => h⟩
    rw [hfield]
    exact if_congr hlong.symm rfl rfl

theorem mem_repositories {info : EntityInfo} {r : RepositoryInfo} :
    r ∈ info.repositories ↔ ∃ access longId, info.repository? access longId = some r := by
  simp only [repositories, List.mem_append, List.mem_cons, List.not_mem_nil, or_false,
    Option.mem_toList]
  constructor
  · rintro (((rfl | rfl) | h) | h)
    · exact ⟨.readOnly, false, rfl⟩
    · exact ⟨.mutating, false, rfl⟩
    · exact ⟨.readOnly, true, h⟩
    · exact ⟨.mutating, true, h⟩
  · rintro ⟨_ | _, _ | _, h⟩
    · exact .inl (.inl (.inl (Option.some.inj h).symm))
    · exact .inl (.inr h)
    · exact .inl (.inl (.inr (Option.some.inj h).symm))
    · exact .inr h

/-- A type comes with one variant for each interface that it supports. -/
theorem mem_repositories_ofType {e : EntityType} {r : RepositoryInfo} :
    r ∈ (ofType e).repositories ↔
      ∃ i : Interface, i.entity = e ∧ i.Supported ∧ r = .ofInterface i := by
  simp only [mem_repositories, repository?_ofType, Option.ite_none_right_eq_some,
    Option.some.injEq]
  constructor
  · rintro ⟨access, longId, hi, rfl⟩
    exact ⟨_, Interface.entity_ofKind, hi, rfl⟩
  · rintro ⟨i, rfl, hi, rfl⟩
    obtain ⟨longId, h⟩ := Interface.eq_ofKind_of_supported hi
    exact ⟨i.access, longId, h ▸ hi, by rw [← h]⟩

end EntityInfo

namespace Catalog

variable {es es' : List EntityType}

/-! ## registrations -/

theorem entities_ofTypes_eq (es : List EntityType) :
    (ofTypes es).entities = es.eraseDups.map .ofType := by
  -- from the end of the list: the last registration is the one that may change nothing
  induction es using List.reverseRecOn with
  | nil => rfl
  | append_singleton es e ih =>
    have hany : (ofTypes es).entities.any (·.entity = e) = decide (e ∈ es) := by
      simp [ih, EntityInfo.ofType, List.any_eq]
    rw [ofTypes_append_one, register, hany, eraseDups_concat]
    by_cases he : e ∈ es
    · rw [if_pos (decide_eq_true he), if_pos he, ih]
    · rw [if_neg (by simpa using he), if_neg he, ih, List.map_append]
      rfl

theorem mem_entities_ofTypes {info : EntityInfo} :
    info ∈ (ofTypes es).entities ↔ ∃ e, e ∈ es ∧ info = .ofType e := by
  simp only [entities_ofTypes_eq, List.mem_map, List.mem_eraseDups, eq_comm]

theorem mem_repositories_ofTypes {r : RepositoryInfo} : r ∈ (ofTypes es).repositories ↔
    ∃ i : Interface, (i.entity ∈ es ∧ i.Supported) ∧ r = .ofInterface i := by
  rw [repositories, List.mem_flatMap]
  constructor
  · rintro ⟨info, hinfo, hr⟩
    obtain ⟨e, he, rfl⟩ := mem_entities_ofTypes.mp hinfo
    obtain ⟨i, rfl, hi, rfl⟩ := EntityInfo.mem_repositories_ofType.mp hr
    exact ⟨i, ⟨he, hi⟩, rfl⟩
  · rintro ⟨i, ⟨he, hi⟩, rfl⟩
    refine ⟨.ofType i.entity, mem_entities_ofTypes.mpr ⟨_, he, rfl⟩, ?_⟩
    exact EntityInfo.mem_repositories_ofType.mpr ⟨i, rfl, hi, rfl⟩

/-! ## what the tables hold -/

theorem entityInfo?_ofTypes (es : List EntityType) (e : EntityType) :
    (ofTypes es).entityInfo? e = if e ∈ es then some (.ofType e) else none :=
  find?_of_mem_iff (fun _ => rfl) (fun _ => mem_entities_ofTypes) e

theorem repositoryInfo?_ofTypes (es : List EntityType) (i : Interface) :
    (ofTypes es).repositoryInfo? i =
      if i.entity ∈ es ∧ i.Supported then some (.ofInterface i) else none :=
  find?_of_mem_iff (fun _ => rfl) (fun _ => mem_repositories_ofTypes) i

theorem repositoryInfo?_eq_some_iff {i : Interface} {r : RepositoryInfo} :
    (ofTypes es).repositoryInfo? i = some r ↔
      i.entity ∈ es ∧ i.Supported ∧ r = .ofInterface i := by
  rw [repositoryInfo?_ofTypes, Option.ite_none_right_eq_some, and_assoc, Option.some.injEq,
    eq_comm]

/-- A variant kept with an entity type is the one found by its interface. -/
theorem repository?_eq_repositoryInfo? {e : EntityType} {info : EntityInfo}
    (h : (ofTypes es).entityInfo? e = some info) (access : Access) (longId : Bool) :
    info.repository? access longId = (ofTypes es).repositoryInfo? (.ofKind e access longId) := by
  rw [entityInfo?_ofTypes] at h
  obtain ⟨he, h⟩ := Option.ite_none_right_eq_some.mp h
  cases h
  rw [EntityInfo.repository?_ofType, repositoryInfo?_ofTypes, Interface.entity_ofKind]
  exact if_congr (and_iff_right he).symm rfl rfl

/-! ## order and repetitions -/

theorem entityInfo?_congr (h : ∀ e, e ∈ es' ↔ e ∈ es) :
    (ofTypes es').entityInfo? = (ofTypes es).entityInfo? := by
  funext e
  rw [entityInfo?_ofTypes, entityInfo?_ofTypes]
  exact if_congr (h e) rfl rfl

theorem repositoryInfo?_congr (h : ∀ e, e ∈ es' ↔ e ∈ es) :
    (ofTypes es').repositoryInfo? = (ofTypes es).repositoryInfo? := by
  funext i
  rw [repositoryInfo?_ofTypes, repositoryInfo?_ofTypes]
  exact if_congr (and_congr_left' (h i.entity)) rfl rfl

theorem entities_perm (h : ∀ e, e ∈ es' ↔ e ∈ es) :
    (ofTypes es').entities.Perm (ofTypes es).entities := by
  rw [entities_ofTypes_eq, entities_ofTypes_eq]
  refine ((List.perm_ext_iff_of_nodup (nodup_eraseDups es') (nodup_eraseDups es)).mpr ?_).map _
  intro e
  rw [List.mem_eraseDups, List.mem_eraseDups, h]

theorem repositories_perm (h : ∀ e, e ∈ es' ↔ e ∈ es) :
    (ofTypes es').repositories.Perm (ofTypes es).repositories :=
  (entities_perm h).flatMap_right _

end Catalog

end RowSpec
