import RowSpec.Specification.Builder

/-!
# What calls do

A call opens, goes on with or leaves a chain, and adds to the specification what its condition lets
through. On which chain it is made can be told from the calls alone.

* `Call.links`                 the chains that are open after a call;
* `Call.orderEntries`, `Call.includeEntries`, `Call.rawPaths`   what it adds;
* `Call.Adds`, `Builder.perform_adds`   that a call which succeeds does just this;
* `onChain`                    the calls that are made on a chain before it is left;
* `Call.stack`                 the open chains, each with the number of its call;
* `Call.stack_above`, `Call.links_above`   what a call that is not a further one of a chain does to
                               the chain.
-/

namespace RowSpec

variable {α β : Type}

/-! ## settings that may be refused -/

namespace Facets

variable {f f' : Facets}

theorem addOrdering_eq_ok_iff {key : SortKey} : f.addOrdering key = .ok f' ↔
    f.hasPrimary = false ∧ f' = { f with orderings := f.orderings ++ [⟨key, .primary⟩] } := by
  rw [addOrdering]
  cases f.hasPrimary <;> simp [eq_comm]

theorem setGroup_eq_ok_iff {key : String} : f.setGroup key = .ok f' ↔
    f.groupKey.isSome = false ∧ f' = { f with groupKey := some key } := by
  rw [setGroup]
  cases f.groupKey <;> simp [eq_comm]

theorem setTake_eq_ok_iff {count : Nat} : f.setTake count = .ok f' ↔
    count ≤ maxCount ∧ (f.paging.takeCount?.isSome = false ∧ f.paging.request?.isSome = false) ∧
      f' = { f with paging := .window f.paging.skipCount? (some count) } := by
  rw [setTake, ← Nat.not_lt]
  by_cases hcount : count > maxCount
  · simp [hcount]
  · rcases f.paging with _ | ⟨skip, _ | _⟩ | _ <;>
      simp [hcount, Paging.takeCount?, Paging.skipCount?, Paging.request?, eq_comm]

theorem setSkip_eq_ok_iff {count : Nat} : f.setSkip count = .ok f' ↔
    count ≤ maxCount ∧ (f.paging.skipCount?.isSome = false ∧ f.paging.request?.isSome = false) ∧
      f' = { f with paging := .window (some count) f.paging.takeCount? } := by
  rw [setSkip, ← Nat.not_lt]
  by_cases hcount : count > maxCount
  · simp [hcount]
  · rcases f.paging with _ | ⟨_ | _, take⟩ | _ <;>
      simp [hcount, Paging.takeCount?, Paging.skipCount?, Paging.request?, eq_comm]

theorem setPage_eq_ok_iff {request : PageRequest} : f.setPage request = .ok f' ↔
    f.paging = .none ∧ f' = { f with paging := .page request } := by
  rw [setPage]
  cases f.paging <;> simp [eq_comm]

end Facets

/-! ## one call -/

namespace Call

/-- The chains that are open after a call, innermost first. -/
def links : Call α β → List Link → List Link
  | .orderBy _ condition, ls => .ordered (.ofCondition condition) :: ls
  | .include navigation target condition, ls =>
    .included (.ofCondition condition) navigation target :: ls
  | .caching _, ls => .cached :: ls
  | .thenBy _ condition, .ordered state :: ls => .ordered (state.next condition) :: ls
  | .thenInclude navigation target condition, .included state path _ :: ls =>
    .included (state.next condition) (path ++ "." ++ navigation) target :: ls
  | .intoInner, ls => ls.tail
  | .finish, _ => []
  | _, ls => ls

/-- an ordering that is not a tie break and whose condition holds -/
def leads : Call α β → Bool
  | .orderBy _ condition => condition
  | _ => false

def orderEntries : Call α β → List Link → List OrderEntry
  | .orderBy key true, _ => [⟨key, .primary⟩]
  | .thenBy key true, .ordered .active :: _ => [⟨key, .secondary⟩]
  | _, _ => []

/-- `entity` is the type that the specification is about. -/
def includeEntries (entity : String) : Call α β → List Link → List IncludeEntry
  | .include navigation target true, _ => [⟨navigation, ⟨navigation, entity, target⟩, .start⟩]
  | .thenInclude navigation target true, .included .active path root :: _ =>
    [⟨path ++ "." ++ navigation, ⟨navigation, root, target⟩, .onward⟩]
  | _, _ => []

def rawPaths : Call α β → List String
  | .includePath path true => [path]
  | _ => []

/-- The builder before the call and the one after it. -/
structure Adds (c : Call α β) (b b' : Builder α β) : Prop where
  entity : b'.entity = b.entity
  chain : b'.chain = c.links b.chain
  orderings : b'.facets.orderings = b.facets.orderings ++ c.orderEntries b.chain
  includes : b'.facets.includes = b.facets.includes ++ c.includeEntries b.entity b.chain
  includePaths : b'.facets.includePaths = b.facets.includePaths ++ c.rawPaths
  /-- A leading ordering is accepted only if there is none. -/
  leads : c.leads = true → b.facets.hasPrimary = false

end Call

namespace Builder

variable {b b' : Builder α β} {c : Call α β}

theorem adds_nothing (hentity : b'.entity = b.entity) (hchain : b'.chain = c.links b.chain)
    (hfacets : b'.facets.orderings = b.facets.orderings ∧ b'.facets.includes = b.facets.includes ∧
      b'.facets.includePaths = b.facets.includePaths)
    (hnothing : c.orderEntries b.chain = [] ∧ c.includeEntries b.entity b.chain = [] ∧
      c.rawPaths = [])
    (hleads : c.leads = false) : c.Adds b b' := by
  obtain ⟨ho, hi, hp⟩ := hfacets
  obtain ⟨hno, hni, hnp⟩ := hnothing
  refine ⟨hentity, hchain, ?_, ?_, ?_, fun h => absurd (hleads.symm.trans h) Bool.false_ne_true⟩
  · rw [hno, ho, List.append_nil]
  · rw [hni, hi, List.append_nil]
  · rw [hnp, hp, List.append_nil]

theorem modifyM_eq_ok_iff {change : Facets → Except SpecError Facets} :
    b.modifyM change = .ok b' ↔ ∃ f, change b.facets = .ok f ∧ b' = b.withFacets f := by
  rw [modifyM]
  cases change b.facets <;> simp [bind, Except.bind, pure, Except.pure, eq_comm]

theorem startOrdering_adds {key : SortKey} {condition : Bool}
    (h : b.startOrdering key condition = .ok b') : (Call.orderBy key condition).Adds b b' := by
  rw [startOrdering] at h
  cases condition with
  | false =>
    cases h
    exact adds_nothing rfl rfl ⟨rfl, rfl, rfl⟩ ⟨rfl, rfl, rfl⟩ rfl
  | true =>
    rw [if_pos rfl] at h
    cases hm : b.modifyM (·.addOrdering key) with
    | error e => rw [hm] at h; cases h
    | ok b₁ =>
      rw [hm] at h
      cases h
      obtain ⟨f, hf, rfl⟩ := modifyM_eq_ok_iff.mp hm
      obtain ⟨hnone, rfl⟩ := Facets.addOrdering_eq_ok_iff.mp hf
      exact ⟨rfl, rfl, rfl, (List.append_nil _).symm, (List.append_nil _).symm, fun _ => hnone⟩

theorem goOnOrdering_adds {state : ChainState} {rest : List Link}
    (hchain : b.chain = .ordered state :: rest) (key : SortKey) (condition : Bool) :
    (Call.thenBy key condition).Adds b (b.goOnOrdering key condition state) := by
  have hlinks : (Call.thenBy key condition : Call α β).links b.chain =
      .ordered (state.next condition) :: b.chain.tail := by
    rw [hchain]
    rfl
  rw [goOnOrdering]
  by_cases hnext : state.next condition = .active
  · -- both the chain was active and the condition holds
    cases state <;> cases condition <;> cases hnext
    refine ⟨rfl, hlinks.symm, ?_, (List.append_nil _).symm, (List.append_nil _).symm, nofun⟩
    rw [hchain]
    rfl
  · rw [if_neg hnext]
    refine adds_nothing rfl hlinks.symm ⟨rfl, rfl, rfl⟩ ⟨?_, rfl, rfl⟩ rfl
    rw [hchain]
    cases state <;> cases condition <;> first | rfl | exact absurd rfl hnext

theorem startInclude_adds (b : Builder α β) (navigation target : String) (condition : Bool) :
    (Call.include navigation target condition).Adds b
      (b.startInclude navigation target condition) := by
  cases condition with
  | false => exact adds_nothing rfl rfl ⟨rfl, rfl, rfl⟩ ⟨rfl, rfl, rfl⟩ rfl
  | true => exact ⟨rfl, rfl, (List.append_nil _).symm, rfl, (List.append_nil _).symm, nofun⟩

theorem goOnInclude_adds {state : ChainState} {path root : String} {rest : List Link}
    (hchain : b.chain = .included state path root :: rest) (navigation target : String)
    (condition : Bool) : (Call.thenInclude navigation target condition).Adds b
      (b.goOnInclude navigation target condition state path root) := by
  have hlinks : (Call.thenInclude navigation target condition : Call α β).links b.chain =
      .included (state.next condition) (path ++ "." ++ navigation) target :: b.chain.tail := by
    rw [hchain]
    rfl
  rw [goOnInclude]
  by_cases hnext : state.next condition = .active
  · cases state <;> cases condition <;> cases hnext
    refine ⟨rfl, hlinks.symm, (List.append_nil _).symm, ?_, (List.append_nil _).symm, nofun⟩
    rw [hchain]
    rfl
  · rw [if_neg hnext]
    refine adds_nothing rfl hlinks.symm ⟨rfl, rfl, rfl⟩ ⟨rfl, ?_, rfl⟩ rfl
    rw [hchain]
    cases state <;> cases condition <;> first | rfl | exact absurd rfl hnext

/-- **One call** that succeeds. -/
theorem perform_adds (h : b.perform c = .ok b') : c.Adds b b' := by
  cases c with
  | filter predicate condition | search field pattern group condition =>
    cases h
    cases condition <;> exact adds_nothing rfl rfl ⟨rfl, rfl, rfl⟩ ⟨rfl, rfl, rfl⟩ rfl
  | orderBy key condition => exact startOrdering_adds h
  | thenBy key condition =>
    rw [perform] at h
    split at h
    · rename_i hchain
      cases h
      exact goOnOrdering_adds hchain key condition
    · rename_i hother
      cases h
      have hstay : (Call.thenBy key condition : Call α β).links b.chain = b.chain ∧
          (Call.thenBy key condition : Call α β).orderEntries b.chain = [] := by
        rcases hchain : b.chain with _ | ⟨_ | _ | _, rest⟩
        · cases condition <;> exact ⟨rfl, rfl⟩
        · exact absurd hchain (hother _ _)
        · cases condition <;> exact ⟨rfl, rfl⟩
        · cases condition <;> exact ⟨rfl, rfl⟩
      exact adds_nothing rfl hstay.1.symm ⟨rfl, rfl, rfl⟩ ⟨hstay.2, rfl, rfl⟩ rfl
  | «include» navigation target condition =>
    cases h
    exact b.startInclude_adds navigation target condition
  | thenInclude navigation target condition =>
    rw [perform] at h
    split at h
    · rename_i hchain
      cases h
      exact goOnInclude_adds hchain navigation target condition
    · rename_i hother
      cases h
      have hstay : (Call.thenInclude navigation target condition : Call α β).links b.chain =
            b.chain ∧
          (Call.thenInclude navigation target condition : Call α β).includeEntries b.entity
            b.chain = [] := by
        rcases hchain : b.chain with _ | ⟨_ | _ | _, rest⟩
        · cases condition <;> exact ⟨rfl, rfl⟩
        · cases condition <;> exact ⟨rfl, rfl⟩
        · exact absurd hchain (hother _ _ _ _)
        · cases condition <;> exact ⟨rfl, rfl⟩
      exact adds_nothing rfl hstay.1.symm ⟨rfl, rfl, rfl⟩ ⟨rfl, hstay.2, rfl⟩ rfl
  | includePath path condition =>
    cases h
    cases condition with
    | false => exact adds_nothing rfl rfl ⟨rfl, rfl, rfl⟩ ⟨rfl, rfl, rfl⟩ rfl
    | true => exact ⟨rfl, rfl, (List.append_nil _).symm, (List.append_nil _).symm, rfl, nofun⟩
  | groupBy key =>
    obtain ⟨f, hf, rfl⟩ := modifyM_eq_ok_iff.mp h
    obtain ⟨-, rfl⟩ := Facets.setGroup_eq_ok_iff.mp hf
    exact adds_nothing rfl rfl ⟨rfl, rfl, rfl⟩ ⟨rfl, rfl, rfl⟩ rfl
  | take count =>
    obtain ⟨f, hf, rfl⟩ := modifyM_eq_ok_iff.mp h
    obtain ⟨-, -, rfl⟩ := Facets.setTake_eq_ok_iff.mp hf
    exact adds_nothing rfl rfl ⟨rfl, rfl, rfl⟩ ⟨rfl, rfl, rfl⟩ rfl
  | skip count =>
    obtain ⟨f, hf, rfl⟩ := modifyM_eq_ok_iff.mp h
    obtain ⟨-, -, rfl⟩ := Facets.setSkip_eq_ok_iff.mp hf
    exact adds_nothing rfl rfl ⟨rfl, rfl, rfl⟩ ⟨rfl, rfl, rfl⟩ rfl
  | paginate request =>
    obtain ⟨f, hf, rfl⟩ := modifyM_eq_ok_iff.mp h
    obtain ⟨-, rfl⟩ := Facets.setPage_eq_ok_iff.mp hf
    exact adds_nothing rfl rfl ⟨rfl, rfl, rfl⟩ ⟨rfl, rfl, rfl⟩ rfl
  | track mode | splitQuery | ignoreQueryFilters | caching enabled | expirationMode mode
  | expirationTimeout timeout | postProcess f | intoInner | finish | expand member
  | expandPath path =>
    cases h
    exact adds_nothing rfl rfl ⟨rfl, rfl, rfl⟩ ⟨rfl, rfl, rfl⟩ rfl
  | select f | selectMany f =>
    rw [perform, setProjection] at h
    split at h <;> cases h
    exact adds_nothing rfl rfl ⟨rfl, rfl, rfl⟩ ⟨rfl, rfl, rfl⟩ rfl

/-! ## all calls -/

theorem run_cons_eq_ok {cs : List (Call α β)} (h : b.run (c :: cs) = .ok b') :
    ∃ b₁, b.perform c = .ok b₁ ∧ b₁.run cs = .ok b' := by
  rw [run, apply] at h
  split at h
  · cases hp : b.perform c with
    | error e => rw [hp] at h; cases h
    | ok b₁ =>
      rw [hp] at h
      exact ⟨b₁, rfl, h⟩
  · cases h

/-- What each call keeps that succeeds, all of them keep. -/
theorem run_induction {P : Builder α β → Prop} {calls : List (Call α β)}
    (hstep : ∀ c ∈ calls, ∀ b b' : Builder α β, P b → c.Adds b b' → P b') (hb : P b)
    (h : b.run calls = .ok b') : P b' := by
  induction calls generalizing b with
  | nil => cases h; exact hb
  | cons c cs ih =>
    obtain ⟨b₁, hp, hrest⟩ := run_cons_eq_ok h
    obtain ⟨hc, hcs⟩ := List.forall_mem_cons.mp hstep
    exact ih hcs (hc b b₁ hb (perform_adds hp)) hrest

end Builder

/-! ## the calls of a chain -/

namespace Call

/-- is a further call of the chain -/
def goesOn : Call α β → Link → Bool
  | .thenBy .., .ordered _ | .thenInclude .., .included .. => true
  | _, _ => false

/-- How many chains lie on top of a chain after the call, if `d` do before; none if the chain is
left. -/
def depth? : Call α β → Nat → Option Nat
  | .orderBy .., d | .include .., d | .caching _, d => some (d + 1)
  | .intoInner, 0 => none
  | .intoInner, d + 1 => some d
  | .finish, _ => none
  | _, d => some d

end Call

/-- The calls that are made on a chain on top of which `d` others lie, before it is left. -/
def onChain : Nat → List (Call α β) → List (Call α β)
  | _, [] => []
  | d, c :: cs =>
    (if d = 0 then [c] else []) ++
      match c.depth? d with
      | some e => onChain e cs
      | none => []

section

variable {γ : Type} {f : Call α β → Option γ} {c : Call α β} {cs : List (Call α β)}

/-- Only the calls that `f` picks matter. -/
theorem filterMap_onChain_cons {d : Nat} (h : d = 0 → f c = none) :
    (onChain d (c :: cs)).filterMap f =
      (c.depth? d).elim [] fun e => (onChain e cs).filterMap f := by
  have hfront : (if d = 0 then [c] else []).filterMap f = [] := by
    split
    · exact List.filterMap_cons_none (h ‹_›)
    · rfl
  rw [onChain, List.filterMap_append, hfront, List.nil_append]
  cases c.depth? d <;> rfl

theorem filterMap_onChain_of_some {a : γ} (hf : f c = some a) (hd : c.depth? 0 = some 0) :
    (onChain 0 (c :: cs)).filterMap f = a :: (onChain 0 cs).filterMap f := by
  rw [onChain, hd, if_pos rfl, List.singleton_append]
  exact List.filterMap_cons_some hf

end

namespace Call

/-- The open chains after call `n`, each with the number of the call that opened it. -/
def stack (n : Nat) : Call α β → List (Nat × Link) → List (Nat × Link)
  | .orderBy _ condition, s => (n, .ordered (.ofCondition condition)) :: s
  | .include navigation target condition, s =>
    (n, .included (.ofCondition condition) navigation target) :: s
  | .caching _, s => (n, .cached) :: s
  | .thenBy _ condition, (k, .ordered state) :: s => (k, .ordered (state.next condition)) :: s
  | .thenInclude navigation target condition, (k, .included state path _) :: s =>
    (k, .included (state.next condition) (path ++ "." ++ navigation) target) :: s
  | .intoInner, s => s.tail
  | .finish, _ => []
  | _, s => s

variable {n : Nat} {c : Call α β}

theorem map_stack (n : Nat) (c : Call α β) (s : List (Nat × Link)) :
    (c.stack n s).map (·.2) = c.links (s.map (·.2)) := by
  cases c with
  | thenBy | thenInclude => rcases s with _ | ⟨⟨k, _ | _ | _⟩, s⟩ <;> rfl
  | intoInner => exact List.map_tail
  | _ => rfl

/-- A call that is not a further one of a chain leaves the chain, or acts on what lies on top. -/
theorem stack_above {l : Nat × Link} (inner : List (Nat × Link))
    (h : inner = [] → c.goesOn l.2 = false) (outer : List (Nat × Link)) :
    (c.depth? inner.length = none ∧ c.stack n (inner ++ l :: outer) ⊆ outer) ∨
    (c.depth? inner.length = some (c.stack n inner).length ∧
      c.stack n (inner ++ l :: outer) = c.stack n inner ++ l :: outer) := by
  obtain ⟨k, l⟩ := l
  cases inner with
  | nil =>
    cases c with
    | intoInner => exact .inl ⟨rfl, List.Subset.refl outer⟩
    | finish => exact .inl ⟨rfl, List.nil_subset outer⟩
    | thenBy | thenInclude => cases l <;> first | exact .inr ⟨rfl, rfl⟩ | cases h rfl
    | _ => exact .inr ⟨rfl, rfl⟩
  | cons x inner =>
    obtain ⟨j, x⟩ := x
    cases c with
    | finish => exact .inl ⟨rfl, List.nil_subset outer⟩
    | _ => cases x <;> exact .inr ⟨rfl, rfl⟩

theorem links_above {l : Link} {inner : List Link} (h : inner = [] → c.goesOn l = false)
    (outer : List Link) :
    (c.depth? inner.length = none ∧ c.links (inner ++ l :: outer) ⊆ outer) ∨
    (c.depth? inner.length = some (c.links inner).length ∧
      c.links (inner ++ l :: outer) = c.links inner ++ l :: outer) := by
  have hlinks : ∀ ls : List Link, c.links ls = (c.stack 0 (ls.map (0, ·))).map (·.2) := by
    simp [map_stack, Function.comp_def]
  have hcases := stack_above (n := 0) (l := (0, l)) (inner.map (0, ·)) (by simpa using h)
    (outer.map (0, ·))
  rw [← List.map_cons, ← List.map_append, List.length_map] at hcases
  refine hcases.imp (fun ⟨hdepth, hsub⟩ => ⟨hdepth, fun x hx => ?_⟩) fun ⟨hdepth, hstack⟩ => ?_
  · rw [hlinks] at hx
    obtain ⟨e, he, rfl⟩ := List.mem_map.mp hx
    obtain ⟨y, hy, rfl⟩ := List.mem_map.mp (hsub he)
    exact hy
  · rw [hlinks, hlinks, hdepth, hstack]
    simp [Function.comp_def]

end Call

end RowSpec
