import RowSpec.Catalog.Interface
import RowSpec.Journal

/-!
# Catalog of entity types

* `RepositoryInfo`            one repository variant of an entity type;
* `EntityInfo`                an entity type with its variants: two, or four with a long identifier;
* `Catalog`                   the entity types registered, in order of registration;
* `Catalog.entityInfo?`, `Catalog.repositoryInfo?`   the look-ups by type and by interface.
-/

namespace RowSpec

structure RepositoryInfo where
  interface : Interface
  implementation : String
  idType : IdType
deriving DecidableEq, Repr

namespace RepositoryInfo

def entity (r : RepositoryInfo) : EntityType := r.interface.entity

def access (r : RepositoryInfo) : Access := r.interface.access

def isMutating (r : RepositoryInfo) : Bool := r.access = .mutating

def isLongId (r : RepositoryInfo) : Bool := r.interface.shape = .longId

/-- The variant of the interface's own entity type. -/
def ofInterface (i : Interface) : RepositoryInfo :=
  ⟨i,
    match i.access with
    | .readOnly => i.entity.readImplementation
    | .mutating => i.entity.mutatingImplementation,
    i.entity.idType⟩

end RepositoryInfo

structure EntityInfo where
  entity : EntityType
  readOnly : RepositoryInfo
  mutating : RepositoryInfo
  longReadOnly : Option RepositoryInfo
  longMutating : Option RepositoryInfo
deriving DecidableEq, Repr

namespace EntityInfo

def ofType (e : EntityType) : EntityInfo :=
  let long := fun access =>
    if e.hasLongId then some (RepositoryInfo.ofInterface (.long e access)) else none
  ⟨e, .ofInterface (.generic e .readOnly), .ofInterface (.generic e .mutating),
    long .readOnly, long .mutating⟩

def hasLongId (i : EntityInfo) : Bool := i.longMutating.isSome

/-- the variant of an access level -/
def repository? (i : EntityInfo) : Access → (longId : Bool) → Option RepositoryInfo
  | .readOnly, false => some i.readOnly
  | .mutating, false => some i.mutating
  | .readOnly, true => i.longReadOnly
  | .mutating, true => i.longMutating

def repositories (i : EntityInfo) : List RepositoryInfo :=
  [i.readOnly, i.mutating] ++ i.longReadOnly.toList ++ i.longMutating.toList

end EntityInfo

structure Catalog where
  entities : List EntityInfo := []
deriving DecidableEq, Repr

namespace Catalog

/-- A type that is registered already stays as it is. -/
def register (c : Catalog) (e : EntityType) : Catalog :=
  if c.entities.any (·.entity = e) then c else ⟨c.entities ++ [.ofType e]⟩

def ofTypes (es : List EntityType) : Catalog := es.foldl register {}

/-- What is reported while types are registered, and then for each type once. -/
def events (es : List EntityType) : List Event :=
  List.replicate (es.length - (ofTypes es).entities.length) .alreadyRegistered ++
    List.replicate (ofTypes es).entities.length .registered

def entityInfo? (c : Catalog) (e : EntityType) : Option EntityInfo :=
  c.entities.find? (·.entity = e)

def repositories (c : Catalog) : List RepositoryInfo := c.entities.flatMap (·.repositories)

def repositoryInfo? (c : Catalog) (i : Interface) : Option RepositoryInfo :=
  c.repositories.find? (·.interface = i)

/-- The entity info that a repository variant belongs to, as long as the catalog is there. -/
def owner? (c : Option Catalog) (r : RepositoryInfo) : Option EntityInfo :=
  c.bind (·.entityInfo? r.entity)

theorem ofTypes_append_one (es : List EntityType) (e : EntityType) :
    ofTypes (es ++ [e]) = (ofTypes es).register e := by simp [ofTypes]

end Catalog

end RowSpec
