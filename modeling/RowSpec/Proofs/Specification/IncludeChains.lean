import RowSpec.Proofs.Evaluation.Meaning
import RowSpec.Proofs.Specification.Includes
import RowSpec.Proofs.Text.Reading

/-!
# The includes that calls declare

Several include chains can be open at once and are gone on with in turn. To tell their entries
apart, each chain carries the number of the call that opened it.

* `chainEntries`              the entries of a chain whose calls all hold;
* `recorded`                  what calls record, each entry with the number of its chain;
* `Builder.run_includes`      builders record just that;
* `recorded_of_chain`         the entries of an open chain, up to the first call that fails;
* `includes_of_run`           what is recorded, and what is asked of a query.
-/

namespace RowSpec

variable {α β : Type}

/-! ## chains -/

/-- a call that goes on with an include chain, with its condition -/
structure Hop where
  navigation : String
  target : String
  holds : Bool

def Call.hop? : Call α β → Option Hop
  | .thenInclude navigation target condition => some ⟨navigation, target, condition⟩
  | _ => none

/-- The entries along the hops, from the end of a path to rows of type `root`. -/
def entriesFrom : String → String → List Hop → List IncludeEntry
  | _, _, [] => []
  | path, root, hop :: hops =>
    ⟨path ++ "." ++ hop.navigation, ⟨hop.navigation, root, hop.target⟩, .onward⟩ ::
      entriesFrom (path ++ "." ++ hop.navigation) hop.target hops

/-- The entries of a whole chain, which starts at the type that the specification is about. -/
def chainEntries (entity : String) : List Hop → List IncludeEntry
  | [] => []
  | hop :: hops =>
    ⟨hop.navigation, ⟨hop.navigation, entity, hop.target⟩, .start⟩ ::
      entriesFrom hop.navigation hop.target hops

/-- The hops on a chain on top of which `d` others lie, up to the first whose condition is false. -/
def hopsOn (d : Nat) (cs : List (Call α β)) : List Hop :=
  ((onChain d cs).filterMap Call.hop?).takeWhile (·.holds)

theorem hopsOn_cons {c : Call α β} {d : Nat} (h : d = 0 → c.hop? = none) (cs : List (Call α β)) :
    hopsOn d (c :: cs) = (c.depth? d).elim [] (hopsOn · cs) := by
  rw [hopsOn, filterMap_onChain_cons h]
  cases c.depth? d <;> rfl

theorem hopsOn_thenInclude (navigation target : String) (condition : Bool)
    (cs : List (Call α β)) : hopsOn 0 (.thenInclude navigation target condition :: cs) =
      if condition then ⟨navigation, target, condition⟩ :: hopsOn 0 cs else [] := by
  have h : (onChain 0 (.thenInclude navigation target condition :: cs)).filterMap Call.hop? =
      ⟨navigation, target, condition⟩ :: (onChain 0 cs).filterMap Call.hop? :=
    filterMap_onChain_of_some rfl rfl
  rw [hopsOn, h, List.takeWhile_cons]
  cases condition <;> rfl

/-! ## numbered chains -/

namespace Call

/-- What call `n` records, with the number of its chain. -/
def records (entity : String) (n : Nat) : Call α β → List (Nat × Link) → List (Nat × IncludeEntry)
  | .include navigation target true, _ => [(n, ⟨navigation, ⟨navigation, entity, target⟩, .start⟩)]
  | .thenInclude navigation target true, (k, .included .active path root) :: _ =>
    [(k, ⟨path ++ "." ++ navigation, ⟨navigation, root, target⟩, .onward⟩)]
  | _, _ => []

variable {n k : Nat} {c : Call α β} {s : List (Nat × Link)} {entity : String}

theorem map_records (entity : String) (n : Nat) (c : Call α β) (s : List (Nat × Link)) :
    (c.records entity n s).map (·.2) = c.includeEntries entity (s.map (·.2)) := by
  cases c with
  | «include» navigation target condition => cases condition <;> rfl
  | thenInclude navigation target condition =>
    cases condition <;> rcases s with _ | ⟨⟨k, _ | ⟨_ | _⟩ | _⟩, s⟩ <;> rfl
  | _ => rfl

/-- The chains after a call are those before it, or one that it opened. -/
theorem fst_stack_subset (n : Nat) (c : Call α β) (s : List (Nat × Link)) :
    (c.stack n s).map (·.1) ⊆ n :: s.map (·.1) := by
  cases c with
  | thenBy | thenInclude =>
    rcases s with _ | ⟨⟨k, _ | _ | _⟩, s⟩ <;> exact List.subset_cons_self n _
  | orderBy | «include» | caching => exact List.Subset.refl _
  | intoInner =>
    rw [stack, List.map_tail]
    exact List.subset_cons_of_subset n (List.tail_subset _)
  | finish => exact List.nil_subset _
  | _ => exact List.subset_cons_self n _

/-- An include chain after a call was open before it, or is the one that the call opened. -/
theorem mem_stack {state : ChainState} {path target : String}
    (h : (k, .included state path target) ∈ c.stack n s) :
    (∃ state path target, (k, .included state path target) ∈ s) ∨
      (k = n ∧ ∃ navigation target condition, c = .include navigation target condition) := by
  cases c with
  | «include» navigation target condition =>
    rcases List.mem_cons.mp h with h | h
    · cases h
      exact .inr ⟨rfl, _, _, _, rfl⟩
    · exact .inl ⟨_, _, _, h⟩
  | orderBy | caching => exact .inl ⟨_, _, _, (List.mem_cons.mp h).resolve_left nofun⟩
  | thenBy =>
    rcases s with _ | ⟨⟨j, _ | _ | _⟩, s⟩
    case cons.ordered =>
      exact .inl ⟨_, _, _, List.mem_cons_of_mem _ ((List.mem_cons.mp h).resolve_left nofun)⟩
    all_goals exact .inl ⟨_, _, _, h⟩
  | thenInclude =>
    rcases s with _ | ⟨⟨j, _ | ⟨state', path', root⟩ | _⟩, s⟩
    case cons.included =>
      rcases List.mem_cons.mp h with h | h
      · cases h
        exact .inl ⟨_, _, _, List.mem_cons_self⟩
      · exact .inl ⟨_, _, _, List.mem_cons_of_mem _ h⟩
    all_goals exact .inl ⟨_, _, _, h⟩
  | intoInner => exact .inl ⟨_, _, _, List.mem_of_mem_tail h⟩
  | finish => cases h
  | _ => exact .inl ⟨_, _, _, h⟩

theorem records_above {l : Nat × Link} {inner : List (Nat × Link)}
    (h : inner = [] → c.goesOn l.2 = false) (outer : List (Nat × Link)) :
    c.records entity n (inner ++ l :: outer) = c.records entity n inner := by
  cases c with
  | «include» navigation target condition => cases condition <;> rfl
  | thenInclude navigation target condition =>
    cases inner with
    | nil =>
      obtain ⟨k, _ | _ | _⟩ := l
      case included => cases h rfl
      all_goals cases condition <;> rfl
    | cons x inner => rcases x with ⟨k, _ | ⟨_ | _⟩ | _⟩ <;> cases condition <;> rfl
  | _ => rfl

/-- What is recorded belongs to an include chain that was open, or to the one just opened. -/
theorem mem_records {e : Nat × IncludeEntry} (h : e ∈ c.records entity n s) :
    (∃ state path target, (e.1, .included state path target) ∈ s) ∨
      (e.1 = n ∧ ∃ navigation target condition, c = .include navigation target condition) := by
  cases c with
  | «include» navigation target condition =>
    cases condition with
    | false => cases h
    | true =>
      rw [List.mem_singleton.mp h]
      exact .inr ⟨rfl, _, _, _, rfl⟩
  | thenInclude navigation target condition =>
    cases condition with
    | false => cases h
    | true =>
      rcases s with _ | ⟨⟨j, _ | ⟨_ | _, path, root⟩ | _⟩, s⟩
      case cons.included.active =>
        rw [List.mem_singleton.mp h]
        exact .inl ⟨_, _, _, List.mem_cons_self⟩
      all_goals cases h
  | _ => cases h

end Call

/-! ## all calls -/

/-- What calls record from call `n` on, each entry with the number of its chain. -/
def recorded (entity : String) : Nat → List (Nat × Link) → List (Call α β) →
    List (Nat × IncludeEntry)
  | _, _, [] => []
  | n, s, c :: cs => c.records entity n s ++ recorded entity (n + 1) (c.stack n s) cs

/-- **Builders** record just that. -/
theorem Builder.run_includes {b b' : Builder α β} {calls : List (Call α β)} (n : Nat)
    {s : List (Nat × Link)} (hs : s.map (·.2) = b.chain) (h : b.run calls = .ok b') :
    b'.facets.includes =
      b.facets.includes ++ (recorded b.entity n s calls).map (·.2) := by
  induction calls generalizing b n s with
  | nil => cases h; exact (List.append_nil _).symm
  | cons c cs ih =>
    obtain ⟨b₁, hp, hrest⟩ := run_cons_eq_ok h
    have hadds := perform_adds hp
    have hs₁ : (c.stack n s).map (·.2) = b₁.chain := by rw [Call.map_stack, hs, hadds.chain]
    rw [ih (n + 1) hs₁ hrest, hadds.includes, hadds.entity, recorded, List.map_append,
      Call.map_records, hs, List.append_assoc]

/-- Raw paths are taken as they come. -/
theorem Builder.run_includePaths {b b' : Builder α β} {calls : List (Call α β)}
    (h : b.run calls = .ok b') :
    b'.facets.includePaths = b.facets.includePaths ++ calls.flatMap Call.rawPaths := by
  induction calls generalizing b with
  | nil => cases h; exact (List.append_nil _).symm
  | cons c cs ih =>
    obtain ⟨b₁, hp, hrest⟩ := run_cons_eq_ok h
    rw [ih hrest, (perform_adds hp).includePaths, List.flatMap_cons, List.append_assoc]

section

variable {entity : String} {n k : Nat} {s : List (Nat × Link)} {cs : List (Call α β)}

/-- Each entry belongs to an include chain. -/
theorem mem_recorded {e : Nat × IncludeEntry} (h : e ∈ recorded entity n s cs) :
    (∃ state path target, (e.1, .included state path target) ∈ s) ∨
      ∃ before navigation target condition after,
        cs = before ++ .include navigation target condition :: after ∧ e.1 = n + before.length := by
  induction cs generalizing n s with
  | nil => cases h
  | cons c cs ih =>
    rcases List.mem_append.mp h with h | h
    · rcases Call.mem_records h with hopen | ⟨hn, navigation, target, condition, rfl⟩
      · exact .inl hopen
      · exact .inr ⟨[], navigation, target, condition, cs, rfl, hn⟩
    · rcases ih h with ⟨state, path, target, hmem⟩ | ⟨before, nav, target, cond, after, rfl, hn⟩
      · rcases Call.mem_stack hmem with hopen | ⟨hn, navigation, target, condition, rfl⟩
        · exact .inl hopen
        · exact .inr ⟨[], navigation, target, condition, cs, rfl, hn⟩
      · refine .inr ⟨c :: before, nav, target, cond, after, rfl, ?_⟩
        rw [hn, List.length_cons]
        omega

/-- the entries of chain `k` -/
def entriesOf (k : Nat) (log : List (Nat × IncludeEntry)) : List IncludeEntry :=
  (log.filter (·.1 = k)).map (·.2)

theorem entriesOf_append (k : Nat) (log log' : List (Nat × IncludeEntry)) :
    entriesOf k (log ++ log') = entriesOf k log ++ entriesOf k log' := by
  simp [entriesOf]

theorem entriesOf_eq_nil {log : List (Nat × IncludeEntry)} (h : ∀ e ∈ log, e.1 ≠ k) :
    entriesOf k log = [] := by
  simpa [entriesOf] using h

theorem entriesOf_records (hk : k ∉ s.map (·.1)) (hn : k ≠ n) (c : Call α β) :
    entriesOf k (c.records entity n s) = [] := by
  refine entriesOf_eq_nil fun e he => ?_
  rcases Call.mem_records he with ⟨state, path, target, hmem⟩ | ⟨he, -⟩
  · rintro rfl
    exact hk (List.mem_map_of_mem hmem)
  · rintro rfl
    exact hn he

/-- A chain that was left, or never opened, records nothing. -/
theorem entriesOf_recorded (hk : k ∉ s.map (·.1)) (hn : k < n) :
    entriesOf k (recorded entity n s cs) = [] := by
  refine entriesOf_eq_nil fun e he => ?_
  rcases mem_recorded he with ⟨state, path, target, hmem⟩ | ⟨before, _, _, _, _, -, he⟩
  · rintro rfl
    exact hk (List.mem_map_of_mem hmem)
  · omega

/-- The stack falls into what lies on top of the chain, the chain itself and what lies below. -/
theorem recorded_of_chain (inner : List (Nat × Link)) {outer : List (Nat × Link)}
    {state : ChainState} {path target : String}
    (hs : s = inner ++ (k, .included state path target) :: outer)
    (hinner : k ∉ inner.map (·.1)) (houter : k ∉ outer.map (·.1)) (hn : k < n) :
    entriesOf k (recorded entity n s cs) =
      match state with
      | .active => entriesFrom path target (hopsOn inner.length cs)
      | .discarded => [] := by
  induction cs generalizing n s inner state path target with
  | nil => cases state <;> rfl
  | cons c cs ih =>
    subst hs
    rw [recorded, entriesOf_append]
    by_cases hhop : inner = [] ∧ ∃ navigation target condition,
        c = .thenInclude navigation target condition
    · obtain ⟨rfl, navigation, target', condition, rfl⟩ := hhop
      rw [List.length_nil, hopsOn_thenInclude]
      cases state with
      | discarded => cases condition <;> exact ih [] rfl hinner (Nat.lt_succ_of_lt hn)
      | active =>
        cases condition with
        | false => exact ih [] rfl hinner (Nat.lt_succ_of_lt hn)
        | true =>
          have hone : entriesOf k ((Call.thenInclude navigation target' true : Call α β).records
              entity n ((k, .included .active path target) :: outer)) =
              [⟨path ++ "." ++ navigation, ⟨navigation, target, target'⟩, .onward⟩] := by
            simp [entriesOf, Call.records]
          rw [List.nil_append, hone]
          exact congrArg _ (ih [] rfl hinner (Nat.lt_succ_of_lt hn))
    · have hgo : inner = [] →
          c.goesOn (.included state path target) = false ∧ c.hop? = none := by
        intro hnil
        cases c with
        | thenInclude navigation target condition =>
          exact absurd ⟨hnil, navigation, target, condition, rfl⟩ hhop
        | _ => exact ⟨rfl, rfl⟩
      have hnone : entriesOf k
          (c.records entity n (inner ++ (k, .included state path target) :: outer)) = [] := by
        rw [Call.records_above fun hnil => (hgo hnil).1]
        exact entriesOf_records hinner hn.ne c
      rw [hnone, List.nil_append,
        hopsOn_cons fun hnil => (hgo (List.length_eq_zero_iff.mp hnil)).2]
      rcases Call.stack_above (n := n) (l := (k, .included state path target)) inner
          (fun hnil => (hgo hnil).1) outer with
        ⟨hdepth, hsub⟩ | ⟨hdepth, hstack⟩
      · have hleft : k ∉ (c.stack n (inner ++ (k, .included state path target) :: outer)).map
            (·.1) := fun hmem => houter (List.map_subset _ hsub hmem)
        rw [hdepth, entriesOf_recorded hleft (Nat.lt_succ_of_lt hn)]
        cases state <;> rfl
      · have hstill : k ∉ (c.stack n inner).map (·.1) := fun hmem =>
          (List.mem_cons.mp (c.fst_stack_subset n inner hmem)).elim hn.ne hinner
        rw [hdepth]
        exact ih _ hstack hstill (Nat.lt_succ_of_lt hn)

/-- The chain that a call opens, whatever was open before it. -/
theorem recorded_of_include {before after : List (Call α β)} {navigation target : String}
    {condition : Bool} (hs : ∀ k ∈ s.map (·.1), k < n) :
    entriesOf (n + before.length)
        (recorded entity n s (before ++ .include navigation target condition :: after)) =
      chainEntries entity ((⟨navigation, target, condition⟩ ::
        (onChain 0 after).filterMap Call.hop?).takeWhile (·.holds)) := by
  have hlt : ∀ {k m : Nat} {s : List (Nat × Link)}, (∀ k ∈ s.map (·.1), k < m) → m ≤ k →
      k ∉ s.map (·.1) := fun hs hle hmem => absurd (hs _ hmem) (Nat.not_lt.mpr hle)
  induction before generalizing n s with
  | nil =>
    have hk : n ∉ s.map (·.1) := hlt hs (Nat.le_refl n)
    have hrest : entriesOf n (recorded entity (n + 1)
          ((n, .included (.ofCondition condition) navigation target) :: s) after) =
        match ChainState.ofCondition condition with
        | .active => entriesFrom navigation target (hopsOn 0 after)
        | .discarded => [] :=
      recorded_of_chain [] rfl List.not_mem_nil hk (Nat.lt_succ_self n)
    rw [List.nil_append, List.length_nil, Nat.add_zero, recorded, entriesOf_append,
      List.takeWhile_cons]
    cases condition with
    | false => exact hrest
    | true =>
      have hone : entriesOf n ((Call.include navigation target true : Call α β).records entity n s)
          = [⟨navigation, ⟨navigation, entity, target⟩, .start⟩] := by
        simp [entriesOf, Call.records]
      rw [hone]
      exact congrArg _ hrest
  | cons c before ih =>
    have hs₁ : ∀ k ∈ (c.stack n s).map (·.1), k < n + 1 := fun k hk =>
      (List.mem_cons.mp (c.fst_stack_subset n s hk)).elim (fun h => h ▸ Nat.lt_succ_self n)
        fun h => Nat.lt_succ_of_lt (hs k h)
    have hnone : entriesOf (n + (c :: before).length) (c.records entity n s) = [] :=
      entriesOf_records (hlt hs (Nat.le_add_right n _)) (by simp) c
    rw [List.cons_append, recorded, entriesOf_append, hnone, List.nil_append, List.length_cons,
      Nat.add_comm before.length, ← Nat.add_assoc]
    exact ih hs₁

end

/-! ## directives -/

def Directive.include? : Directive → Option String
  | .include path => some path
  | _ => none

/-- Only the includes of a specification ask for a path. -/
theorem Facets.filterMap_include?_directives (limits : PageLimits) (f : Facets) :
    (f.directives limits).filterMap (·.include?) = f.includeOrder := by
  have hnone : ∀ {ds : List Directive}, (∀ d ∈ ds, d.include? = none) →
      ds.filterMap (·.include?) = [] := List.filterMap_eq_nil_iff.mpr
  have hordering : ∀ keys, ∀ d ∈ orderingDirectives keys, d.include? = none := by
    intro keys
    cases keys <;> simp [orderingDirectives, Directive.include?]
  have hpaths : (f.includeOrder.map Directive.include).filterMap (·.include?) = f.includeOrder := by
    rw [List.filterMap_map]
    exact List.filterMap_some
  rw [directives, criteriaDirectives, orderDirectives_eq, pagingDirectives]
  simp only [List.filterMap_append, hpaths]
  rw [hnone, hnone, hnone, hnone (hordering _), hnone, hnone, hnone, hnone]
  · simp
  · cases f.splitQuery <;> simp [Directive.include?]
  all_goals simp [Directive.include?]

/-! ## parents -/

/-- the navigation of an include call -/
def Call.navigation? : Call α β → Option String
  | .include navigation _ _ | .thenInclude navigation _ _ => some navigation
  | _ => none

theorem Call.navigation_of_mem {c : Call α β} {entity : String} {ls : List Link}
    {i : IncludeEntry} (hi : i ∈ c.includeEntries entity ls) :
    c.navigation? = some i.navigation.name := by
  cases c with
  | «include» navigation target condition =>
    cases condition with
    | false => cases hi
    | true => rw [List.mem_singleton.mp hi]; rfl
  | thenInclude navigation target condition =>
    cases condition with
    | false => cases hi
    | true =>
      rcases ls with _ | ⟨_ | ⟨_ | _, path, root⟩ | _, ls⟩
      case cons.included.active => rw [List.mem_singleton.mp hi]; rfl
      all_goals cases hi
  | _ => cases hi

theorem Builder.run_navigations {b b' : Builder α β} {calls : List (Call α β)}
    {P : String → Prop} (hcalls : ∀ c ∈ calls, ∀ name ∈ c.navigation?, P name)
    (hb : ∀ i ∈ b.facets.includes, P i.navigation.name) (h : b.run calls = .ok b') :
    ∀ i ∈ b'.facets.includes, P i.navigation.name := by
  refine run_induction (P := fun b => ∀ i ∈ b.facets.includes, P i.navigation.name)
    (fun c hc b b' hb hadds i hi => ?_) hb h
  rw [hadds.includes] at hi
  rcases List.mem_append.mp hi with hi | hi
  · exact hb i hi
  · exact hcalls c hc _ (Call.navigation_of_mem hi)

/-- A path that is followed by a name without a point is recorded before the longer path. -/
theorem IncludeEntry.Grown.parent_before {is : List IncludeEntry} (h : Grown is)
    (hnames : ∀ i ∈ is, '.' ∉ i.navigation.name.toList) {parent name : String}
    (hname : '.' ∉ name.toList) {before after : List String}
    (hsplit : is.map (·.path) = before ++ (parent ++ "." ++ name) :: after) : parent ∈ before := by
  obtain ⟨front, back, rfl, rfl, hback⟩ := List.map_eq_append_iff.mp hsplit
  obtain ⟨i, back, rfl, hpath, -⟩ := List.map_eq_cons_iff.mp hback
  have hi := hnames i (List.mem_append_right _ List.mem_cons_self)
  have hpoints : ∀ p n : String, (p ++ "." ++ n).toList = p.toList ++ '.' :: n.toList := by
    simp
  have hfrom := h front i back rfl
  cases hkind : i.kind with
  | start =>
    -- the path of a start is a name, which has no point
    refine absurd ?_ hi
    rw [← hfrom.start hkind, hpath, hpoints]
    exact List.mem_append_right _ List.mem_cons_self
  | onward =>
    obtain ⟨p, hp, hlonger, -⟩ := hfrom.onward hkind
    have he : p.path.toList ++ '.' :: i.navigation.name.toList =
        parent.toList ++ '.' :: name.toList := by
      rw [← hpoints, ← hpoints, ← hlonger, hpath]
    rw [← String.toList_injective (last_inj hi hname he).1]
    exact List.mem_map_of_mem hp

/-- The typed paths come first, so a parent that is recorded before its child is asked for before
it. -/
theorem Facets.parent_before_includeOrder {f : Facets} (h : IncludeEntry.Grown f.includes)
    (hnames : ∀ i ∈ f.includes, '.' ∉ i.navigation.name.toList) {i : IncludeEntry}
    (hi : i ∈ f.includes) {parent name : String} (hname : '.' ∉ name.toList)
    (hpath : i.path = parent ++ "." ++ name) {before after : List String}
    (hsplit : f.includeOrder = before ++ i.path :: after) : parent ∈ before := by
  obtain ⟨front, back, htyped, hfirst⟩ := List.eq_append_cons_of_mem
    (List.mem_map_of_mem hi : i.path ∈ f.includes.map (·.path))
  have hparent : parent ∈ front := h.parent_before hnames hname (hpath ▸ htyped)
  have hpaths : f.includes.map (·.path) ++ f.includePaths =
      front ++ (i.path :: back ++ f.includePaths) := by rw [htyped, List.append_assoc]
  refine mem_before_eraseDups hsplit ?_ ?_
  · rw [hpaths]
    exact List.mem_append_left _ hparent
  · have hlt := List.idxOf_lt_length_of_mem hparent
    rw [hpaths, List.idxOf_append_of_mem hparent, List.idxOf_append_of_notMem hfirst]
    omega

/-! ## specifications that were built -/

/-- **The includes of a specification built from new.** Every path starts with a navigation or goes
on from a path recorded before; the entries are those of the include chains, each as far as the
conditions of its calls hold; a query is asked for every path once, typed paths first, and for no
path before the one it goes on from. -/
theorem includes_of_run {ρ : Type} [Record ρ] {entity : String} {calls : List (Call α β)}
    {b : Builder α β} (hnames : ∀ c ∈ calls, ∀ name ∈ c.navigation?, '.' ∉ name.toList)
    (h : (Builder.new entity).run calls = .ok b) :
    IncludeEntry.Grown b.facets.includes ∧
    (∃ log : List (Nat × IncludeEntry), log.map (·.2) = b.facets.includes ∧
      (∀ e ∈ log, ∃ before navigation target condition after,
        calls = before ++ .include navigation target condition :: after ∧ e.1 = before.length) ∧
      ∀ before navigation target condition after,
        calls = before ++ .include navigation target condition :: after →
        entriesOf before.length log = chainEntries entity ((⟨navigation, target, condition⟩ ::
          (onChain 0 after).filterMap Call.hop?).takeWhile (·.holds))) ∧
    b.facets.includePaths = calls.flatMap Call.rawPaths ∧
    ∀ (limits : PageLimits) (rows : List ρ) (filters : List Expr),
      let paths := b.facets.includes.map (·.path) ++ b.facets.includePaths
      let issued := (shapeQuery limits b.facets ⟨rows, filters, []⟩).directives.filterMap
        (·.include?)
      issued.Nodup ∧ (∀ path, path ∈ issued ↔ path ∈ paths) ∧
      issued.Pairwise (fun p q => paths.idxOf p < paths.idxOf q) ∧
      ∀ i ∈ b.facets.includes, i.kind = .onward → ∀ parent name, '.' ∉ name.toList →
        i.path = parent ++ "." ++ name →
        ∀ before after, issued = before ++ i.path :: after → parent ∈ before := by
  have hgrown : IncludeEntry.Grown b.facets.includes := (Facets.Built.new h).grown
  have hrecorded := Builder.run_includes 0 (s := []) rfl h
  refine ⟨hgrown, ⟨recorded entity 0 [] calls, hrecorded.symm, fun e he => ?_, ?_⟩, ?_, ?_⟩
  · rcases mem_recorded he with ⟨_, _, _, hmem⟩ | ⟨before, nav, target, cond, after, hsplit, he⟩
    · cases hmem
    · exact ⟨before, nav, target, cond, after, hsplit, he.trans (Nat.zero_add _)⟩
  · rintro before navigation target condition after rfl
    rw [← recorded_of_include (s := []) (n := 0) (by simp), Nat.zero_add]
  · exact Builder.run_includePaths h
  · intro limits rows filters paths issued
    have hissued : issued = paths.eraseDups := b.facets.filterMap_include?_directives limits
    have hdots := Builder.run_navigations hnames (b := Builder.new entity) nofun h
    rw [hissued]
    refine ⟨nodup_eraseDups _, fun path => List.mem_eraseDups, pairwise_idxOf_eraseDups _, ?_⟩
    exact fun i hi _ parent name hname hpath before after hsplit =>
      Facets.parent_before_includeOrder hgrown hdots hi hname hpath hsplit

/-- Two chains are gone on with in turn, one of them until a condition fails. -/
theorem includes_of_interleaved_chains :
    let calls : List (Call Keyed Keyed) :=
      [.include "owner" "person" true, .include "team" "team" true,
        .thenInclude "lead" "person" true, .orderBy ⟨"id", .asc⟩ true, .intoInner, .intoInner,
        .thenInclude "address" "address" true, .includePath "team" true, .includePath "a.b" true,
        .thenInclude "city" "city" false, .thenInclude "mayor" "person" true]
    (∀ c ∈ calls, ∀ name ∈ c.navigation?, '.' ∉ name.toList) ∧
    ∃ b, (Builder.new "job").run calls = .ok b ∧
      b.facets.includes.map (·.path) = ["owner", "team", "team.lead", "owner.address"] ∧
      IncludeEntry.Grown b.facets.includes ∧
      (shapeQuery {} b.facets ⟨[sampleJob 1 1 true], [], []⟩).directives.filterMap (·.include?) =
        ["owner", "team", "team.lead", "owner.address", "a.b"] := by
  intro calls
  have hnames : ∀ c ∈ calls, ∀ name ∈ c.navigation?, '.' ∉ name.toList := by decide
  obtain ⟨b, h⟩ : ∃ b, (Builder.new "job").run calls = .ok b := ⟨_, rfl⟩
  have hgrown := (includes_of_run (ρ := Keyed) hnames h).1
  refine ⟨hnames, b, h, ?_, hgrown, (b.facets.filterMap_include?_directives {}).trans ?_⟩
  · cases h
    decide
  · cases h
    decide

end RowSpec
