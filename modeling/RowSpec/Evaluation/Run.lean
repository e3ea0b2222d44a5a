import RowSpec.Evaluation.Shape

/-!
# Running specifications

* `shapeQuery`, `criteriaQuery`   a query shaped by all facets, or by the selecting ones;
* `evaluate`                      the shaped query fetched, then the transform;
* `evaluateProjected`             the same with a projection or a mapper in between;
* `countMatching`, `anyMatching`  answers about the selected rows, whatever the paging.
-/

namespace RowSpec

variable {ρ β : Type} [Record ρ]

/-- Turns all rows into results; it is told which members of the result to expand. -/
structure Mapper (ρ β : Type) where
  project : List ρ → List String → List β

def Mapper.ofFn (f : ρ → β) : Mapper ρ β := ⟨fun rows _ => rows.map f⟩

def shapeQuery (limits : PageLimits) (f : Facets) (q : Query ρ) : Query ρ :=
  q.shape (f.directives limits)

def criteriaQuery (f : Facets) (q : Query ρ) : Query ρ := q.shape f.criteriaDirectives

def evaluate (limits : PageLimits) (spec : Specification ρ) (q : Query ρ) (cancelled : Bool) :
    Traced (Except StorageError (List ρ)) :=
  ⟨spec.events, ((shapeQuery limits spec.toFacets q).fetch cancelled).map (applyPost spec.post)⟩

/-- The selector of the specification, or else the mapper. -/
def resultsOf? (spec : Projected ρ β) (mapper : Option (Mapper ρ β)) :
    Option (List ρ → List β) :=
  match spec.projection, mapper with
  | some p, _ => some p.apply
  | none, some m => some fun rows => m.project rows spec.allMembers
  | none, none => none

def evaluateProjected (limits : PageLimits) (resultType : String) (spec : Projected ρ β)
    (mapper : Option (Mapper ρ β)) (q : Query ρ) (cancelled : Bool) :
    Traced (Except EvalError (List β)) :=
  match resultsOf? spec mapper with
  | none => .silent (.error (.missingProjection resultType))
  | some results =>
    ⟨spec.base.events,
      match (shapeQuery limits spec.base.toFacets q).fetch cancelled with
      | .ok rows => .ok (applyPost spec.post (results rows))
      | .error e => .error (.storage e)⟩

def countMatching (f : Facets) (q : Query ρ) (cancelled : Bool) :
    Traced (Except StorageError Nat) :=
  ⟨f.criteriaEvents, (criteriaQuery f q).count cancelled⟩

def anyMatching (f : Facets) (q : Query ρ) (cancelled : Bool) :
    Traced (Except StorageError Bool) :=
  ⟨f.criteriaEvents, (criteriaQuery f q).any cancelled⟩

end RowSpec
