/-!
# Repository interfaces

* `EntityType`     a type of entity: its name, identifier type and capabilities;
* `Access`         reading only, or changing as well;
* `Interface`      what is asked for: an entity type, an access and a shape;
* `Interface.render`   its written form.
-/

namespace RowSpec

structure IdType where
  name : String
deriving DecidableEq, Repr

/-- the 64-bit integer, which has a repository shape of its own -/
def IdType.long : IdType := ⟨"i64"⟩

structure Capabilities where
  /-- rows are disabled instead of deleted -/
  disableable : Bool := false
  /-- identifiers come from the application, not from the store -/
  distributedId : Bool := false
deriving DecidableEq, Repr

structure EntityType where
  name : String
  idType : IdType
  /-- field that holds the identifier -/
  idField : String := "id"
  capabilities : Capabilities := {}
  /-- names of the repositories that serve the type unless it brings its own -/
  readImplementation : String
  mutatingImplementation : String
deriving DecidableEq, Repr

def EntityType.hasLongId (e : EntityType) : Bool := e.idType = .long

inductive Access
  | readOnly | mutating
deriving DecidableEq, Repr

def Access.name : Access → String
  | readOnly => "read-only"
  | mutating => "mutating"

/-- A mutating repository serves read-only requests as well. -/
def Access.satisfies (have_ want : Access) : Bool := have_ = mutating || want = readOnly

inductive KeyShape
  | generic (id : IdType)
  | longId
deriving DecidableEq, Repr

/-- the identifier type asked for -/
def KeyShape.idType : KeyShape → IdType
  | generic id => id
  | longId => .long

structure Interface where
  entity : EntityType
  access : Access
  shape : KeyShape
deriving DecidableEq, Repr

namespace Interface

def generic (entity : EntityType) (access : Access) : Interface :=
  ⟨entity, access, .generic entity.idType⟩

def long (entity : EntityType) (access : Access) : Interface := ⟨entity, access, .longId⟩

def baseName : Access → String
  | .readOnly => "ReadRepository"
  | .mutating => "Repository"

def render (i : Interface) : String :=
  baseName i.access ++ "<" ++ i.entity.name ++
    (match i.shape with
      | .generic id => ", " ++ id.name
      | .longId => "") ++ ">"

end Interface

theorem Access.satisfies_self (a : Access) : a.satisfies a = true := by cases a <;> rfl

end RowSpec
