import RowSpec.Config.Basic
import RowSpec.Error.Repository
import RowSpec.Evaluation.Run

/-!
# Readers

A reader answers specifications from one query.

* `Reader.list`, `Reader.first`, `Reader.count`, `Reader.any`, `Reader.page`, `Reader.getById`,
  `Reader.project`, `Reader.source`
* `Reader.cacheHints?`   the hints under which a result may be cached;
* `narrowed`             a specification of which only the first row is wanted.
-/

namespace RowSpec

structure Reader (ε : Type) where
  query : Query ε
  limits : PageLimits
  /-- where hints that a specification leaves open come from, if they are filled at all -/
  defaults : Option Config

/-- A transform sees all rows, and own paging stands, so neither can be narrowed. -/
def narrowed {ε : Type} (spec : Specification ε) : Specification ε :=
  if spec.post.isSome then spec
  else match spec.toFacets.setTake 1 with
    | .ok f => { spec with toFacets := f }
    | .error _ => spec

def storageResult {α : Type} (t : Traced (Except StorageError α)) : Traced (Except RepoError α) :=
  t.map (·.mapError .storage)

namespace Reader

variable {ε β : Type} [Record ε]

omit [Record ε] in
def cacheHints? (r : Reader ε) (f : Facets) : Option CacheHints :=
  match r.defaults with
  | some config => f.cache.map config.fill
  | none => f.cache

def list (r : Reader ε) (spec : Specification ε) (cancelled : Bool) :
    Traced (Except RepoError (List ε)) :=
  (storageResult (evaluate r.limits spec r.query cancelled)).after
    (if (r.cacheHints? spec.toFacets).isSome then [.cacheEligible] else [])

def first (r : Reader ε) (spec : Specification ε) (cancelled : Bool) :
    Traced (Except RepoError (Option ε)) :=
  (r.list (narrowed spec) cancelled).map (·.map List.head?)

def count (r : Reader ε) (spec : Specification ε) (cancelled : Bool) :
    Traced (Except RepoError Nat) :=
  storageResult (countMatching spec.toFacets r.query cancelled)

def any (r : Reader ε) (spec : Specification ε) (cancelled : Bool) :
    Traced (Except RepoError Bool) :=
  storageResult (anyMatching spec.toFacets r.query cancelled)

/-- One page of a specification that has no paging of its own. -/
def page (r : Reader ε) (spec : Specification ε) (request : PageRequest) (cancelled : Bool) :
    Traced (Except RepoError (Page ε)) :=
  match spec.toFacets.setPage request with
  | .error e => .silent (.error (.specification e))
  | .ok f =>
    (r.count spec cancelled).andThen fun total =>
      (r.list { spec with toFacets := f } cancelled).map fun items =>
        items.map fun items =>
          ⟨items, PageLimits.effectiveNumber request, r.limits.effectiveSize request, total⟩

def project (r : Reader ε) (resultType : String) (spec : Projected ε β)
    (mapper : Option (Mapper ε β)) (cancelled : Bool) : Traced (Except RepoError (List β)) :=
  (evaluateProjected r.limits resultType spec mapper r.query cancelled).map
    (·.mapError RepoError.ofEval)

/-- all rows that the default filters let through -/
def source (r : Reader ε) (cancelled : Bool) : Except StorageError (List ε) :=
  r.query.fetch cancelled

/-- Writes know rows by their identifiers, a reader by the values of these in a field. -/
def getById {ε : Type} [Entity ε] (r : Reader ε) (idField : String) (id : Entity.Id ε)
    (cancelled : Bool) : Traced (Except RepoError (Option ε)) :=
  r.first { predicates := [(FieldRef.mk idField).compare .eq (Identifier.toValue id)] } cancelled

end Reader

theorem narrowed_of_post {ε : Type} {spec : Specification ε} (h : spec.post.isSome) :
    narrowed spec = spec := if_pos h

end RowSpec
