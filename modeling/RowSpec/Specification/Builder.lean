import RowSpec.Specification.Basic

/-!
# Building specifications

A specification is built by a sequence of calls. Ordering, include and cache calls open a chain on
top of the chains already open; a call that belongs to a chain acts on the innermost one.

* `Call`              the calls;
* `Link`              a chain that is open, with the state of its conditions;
* `Builder`           the specification so far and its open chains, innermost first;
* `Builder.permits`   whether a call is offered at the builder's position;
* `Builder.apply`     one call: the new builder, or why it is refused;
* `Builder.run`       calls in order, until one is refused.
-/

namespace RowSpec

inductive Call (α β : Type)
  | filter (predicate : Expr) (condition : Bool)
  | orderBy (key : SortKey) (condition : Bool)
  | thenBy (key : SortKey) (condition : Bool)
  | include (navigation target : String) (condition : Bool)
  | thenInclude (navigation target : String) (condition : Bool)
  | includePath (path : String) (condition : Bool)
  | groupBy (key : String)
  | search (field pattern : String) (group : Nat) (condition : Bool)
  | take (count : Nat)
  | skip (count : Nat)
  | paginate (request : PageRequest)
  | track (mode : TrackingMode)
  | splitQuery
  | ignoreQueryFilters
  | caching (enabled : Bool)
  | expirationMode (mode : ExpirationMode)
  | expirationTimeout (timeout : Duration)
  | postProcess (f : PostProcess β)
  /-- out of the innermost chain -/
  | intoInner
  /-- out of all chains -/
  | finish
  | select (f : α → β)
  | selectMany (f : α → List β)
  | expand (member : String)
  | expandPath (path : String)

/-- group of a search that names none -/
def defaultSearchGroup : Nat := 1

/-- A false condition discards the rest of its chain. -/
inductive ChainState
  | active | discarded
deriving DecidableEq, Repr

def ChainState.name : ChainState → String
  | active => "active"
  | discarded => "discarded"

def ChainState.ofCondition (condition : Bool) : ChainState :=
  if condition then active else discarded

/-- The state after a further call of the chain. -/
def ChainState.next (state : ChainState) (condition : Bool) : ChainState :=
  if state = active ∧ condition then active else discarded

inductive Link
  | ordered (state : ChainState)
  | included (state : ChainState) (path target : String)
  | cached
deriving DecidableEq

structure Builder (α β : Type) where
  /-- name of the type the specification is about -/
  entity : String
  spec : Projected α β
  chain : List Link := []

inductive BuildError
  /-- the call is not offered at this position -/
  | misplaced
  | refused (e : SpecError)
deriving DecidableEq

namespace Builder

variable {α β : Type}

def new (entity : String) : Builder α β := { entity, spec := { base := {} } }

/-- Goes on from a specification built before. -/
def ofBase (entity : String) (base : Specification α) : Builder α β := { entity, spec := { base } }

/-! ## position -/

def inCache (b : Builder α β) : Bool := b.chain.head? = some .cached

def permits (b : Builder α β) : Call α β → Bool
  | .thenBy .. => match b.chain with
    | .ordered _ :: _ => true
    | _ => false
  | .thenInclude .. => match b.chain with
    | .included .. :: _ => true
    | _ => false
  | .expirationMode _ | .expirationTimeout _ => b.inCache
  | .intoInner => !b.chain.isEmpty
  | .finish => true
  | .select _ | .selectMany _ | .expand _ | .expandPath _ => b.chain.isEmpty
  | _ => !b.inCache

/-! ## effect -/

def facets (b : Builder α β) : Facets := b.spec.base.toFacets

def withFacets (b : Builder α β) (f : Facets) : Builder α β :=
  { b with spec := { b.spec with base := { b.spec.base with toFacets := f } } }

def modify (b : Builder α β) (change : Facets → Facets) : Builder α β :=
  b.withFacets (change b.facets)

def modifyM (b : Builder α β) (change : Facets → Except SpecError Facets) :
    Except SpecError (Builder α β) := do
  return b.withFacets (← change b.facets)

def push (b : Builder α β) (link : Link) : Builder α β := { b with chain := link :: b.chain }

/-- The builder with its innermost chain replaced. -/
def replaceTop (b : Builder α β) (link : Link) : Builder α β :=
  { b with chain := link :: b.chain.tail }

def startOrdering (b : Builder α β) (key : SortKey) (condition : Bool) :
    Except SpecError (Builder α β) := do
  let b ← if condition then b.modifyM (·.addOrdering key) else pure b
  return b.push (.ordered (.ofCondition condition))

def goOnOrdering (b : Builder α β) (key : SortKey) (condition : Bool) (state : ChainState) :
    Builder α β :=
  let next := state.next condition
  (if next = .active then b.modify (·.addTieBreak key) else b).replaceTop (.ordered next)

def addInclude (b : Builder α β) (entry : IncludeEntry) : Builder α β :=
  b.modify fun f => { f with includes := f.includes ++ [entry] }

def startInclude (b : Builder α β) (navigation target : String) (condition : Bool) :
    Builder α β :=
  let entry := ⟨navigation, ⟨navigation, b.entity, target⟩, .start⟩
  (if condition then b.addInclude entry else b).push
    (.included (.ofCondition condition) navigation target)

def goOnInclude (b : Builder α β) (navigation target : String) (condition : Bool)
    (state : ChainState) (path root : String) : Builder α β :=
  let next := state.next condition
  let path := path ++ "." ++ navigation
  (if next = .active then b.addInclude ⟨path, ⟨navigation, root, target⟩, .onward⟩
    else b).replaceTop (.included next path target)

def setProjection (b : Builder α β) (p : Projection α β) : Except SpecError (Builder α β) :=
  if b.spec.projection.isSome then .error .duplicateSelector
  else .ok { b with spec := { b.spec with projection := some p } }

/-- The effect of a call that is permitted. -/
def perform (b : Builder α β) : Call α β → Except SpecError (Builder α β)
  | .filter predicate condition => .ok (if condition then
      b.modify fun f => { f with predicates := f.predicates ++ [predicate] } else b)
  | .orderBy key condition => b.startOrdering key condition
  | .thenBy key condition => match b.chain with
    | .ordered state :: _ => .ok (b.goOnOrdering key condition state)
    | _ => .ok b
  | .include navigation target condition => .ok (b.startInclude navigation target condition)
  | .thenInclude navigation target condition => match b.chain with
    | .included state path root :: _ =>
      .ok (b.goOnInclude navigation target condition state path root)
    | _ => .ok b
  | .includePath path condition => .ok (if condition then
      b.modify fun f => { f with includePaths := f.includePaths ++ [path] } else b)
  | .groupBy key => b.modifyM (·.setGroup key)
  | .search field pattern group condition => .ok (if condition then
      b.modify fun f => { f with searches := f.searches ++ [⟨field, pattern, group⟩] } else b)
  | .take count => b.modifyM (·.setTake count)
  | .skip count => b.modifyM (·.setSkip count)
  | .paginate request => b.modifyM (·.setPage request)
  | .track mode => .ok (b.modify fun f => { f with tracking := mode })
  | .splitQuery => .ok (b.modify fun f => { f with splitQuery := true })
  | .ignoreQueryFilters => .ok (b.modify fun f => { f with ignoreQueryFilters := true })
  | .caching enabled => .ok ((b.modify (·.setCaching enabled)).push .cached)
  | .expirationMode mode => .ok (b.modify (·.hint ({ · with mode := some mode })))
  | .expirationTimeout timeout => .ok (b.modify (·.hint ({ · with timeout := some timeout })))
  | .postProcess f => .ok { b with spec := { b.spec with post := some f } }
  | .intoInner => .ok { b with chain := b.chain.tail }
  | .finish => .ok { b with chain := [] }
  | .select f => b.setProjection (.select f)
  | .selectMany f => b.setProjection (.selectMany f)
  | .expand member => .ok { b with spec := { b.spec with members := b.spec.members ++ [member] } }
  | .expandPath path =>
    .ok { b with spec := { b.spec with memberPaths := b.spec.memberPaths ++ [path] } }

def apply (b : Builder α β) (c : Call α β) : Except BuildError (Builder α β) :=
  if b.permits c then (b.perform c).mapError .refused else .error .misplaced

def run (b : Builder α β) : List (Call α β) → Except BuildError (Builder α β)
  | [] => .ok b
  | c :: cs => do (← b.apply c).run cs

/-- The specification built on rows alone, whose transform acts on the rows. -/
def specification (b : Builder α α) : Specification α := { b.spec.base with post := b.spec.post }

def projected (b : Builder α β) : Projected α β := b.spec

theorem run_nil (b : Builder α β) : b.run [] = .ok b := rfl

theorem run_append (b : Builder α β) (cs ds : List (Call α β)) :
    b.run (cs ++ ds) = (b.run cs).bind fun b => b.run ds := by
  induction cs generalizing b with
  | nil => rfl
  | cons c cs ih =>
    simp only [List.cons_append, run]
    cases b.apply c with
    | error e => rfl
    | ok b' => exact ih b'

end Builder

end RowSpec
