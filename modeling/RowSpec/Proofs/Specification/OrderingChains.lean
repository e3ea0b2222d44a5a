import RowSpec.Proofs.Evaluation.Meaning

/-!
# The orderings that calls declare

Ordering chains lie among chains of all kinds, and those of a false condition may lie above or below
the one that is active. Only one ordering leads, and the tie breaks that count are those called on
its chain.

* `tieBreaks`                       the tie breaks of a chain, up to the first that is refused;
* `Builder.run_orderings_of_idle`   without an active chain, a primary ordering stays alone;
* `Builder.run_orderings_of_active` the calls on the active chain add its tie breaks;
* `Builder.run_orderings_of_none`   the calls up to the leading ordering add nothing;
* `orderings_of_run`                what is declared, and what is asked of a query.
-/

namespace RowSpec

variable {α β : Type}

/-! ## calls -/

namespace Call

/-- a tie break, with its condition -/
def tieBreak? : Call α β → Option (SortKey × Bool)
  | .thenBy key condition => some (key, condition)
  | _ => none

variable {c : Call α β} {ls : List Link}

theorem orderEntries_of_idle (hidle : .ordered .active ∉ ls) (hleads : c.leads = false) :
    c.orderEntries ls = [] := by
  rcases c.orderEntries_cases ls with hnone | ⟨key, rfl, -⟩ | ⟨key, hactive, -⟩
  · exact hnone
  · cases hleads
  · exact absurd hactive hidle

theorem idle_links (hidle : .ordered .active ∉ ls) (hleads : c.leads = false) :
    .ordered .active ∉ c.links ls := fun h =>
  (active_mem_links h).elim hidle fun h => Bool.false_ne_true (hleads.symm.trans h)

theorem orderEntries_above {inner : List Link} (hleads : c.leads = false)
    (hinner : .ordered .active ∉ inner) (h : inner = [] → c.tieBreak? = none) (outer : List Link) :
    c.orderEntries (inner ++ .ordered .active :: outer) = [] := by
  cases inner with
  | nil =>
    cases c with
    | orderBy key condition =>
      obtain rfl : condition = false := hleads
      rfl
    | thenBy => cases h rfl
    | _ => rfl
  | cons x inner =>
    have htop : c.orderEntries (x :: inner ++ .ordered .active :: outer) =
        c.orderEntries (x :: inner) := by
      cases c with
      | orderBy key condition => cases condition <;> rfl
      | thenBy key condition => rcases x with ⟨_ | _⟩ | _ | _ <;> cases condition <;> rfl
      | _ => rfl
    rw [htop]
    exact orderEntries_of_idle hinner hleads

theorem count_links (c : Call α β) (ls : List Link) :
    (c.links ls).count (.ordered .active) ≤
      ls.count (.ordered .active) + if c.leads then 1 else 0 := by
  cases c with
  | orderBy key condition => cases condition <;> simp [links, leads, ChainState.ofCondition]
  | thenBy key condition =>
    rcases ls with _ | ⟨⟨_ | _⟩ | _ | _, rest⟩ <;> simp [links, leads, ChainState.next]
    split <;> simp
  | thenInclude navigation target condition =>
    rcases ls with _ | ⟨_ | _ | _, rest⟩ <;> simp [links, leads]
  | intoInner => exact List.tail_sublist ls |>.count_le _
  | _ => simp [links, leads]

end Call

/-! ## tie breaks -/

/-- The tie breaks called on a chain on top of which `d` others lie, up to the first whose condition
is false. -/
def tieBreaks (d : Nat) (cs : List (Call α β)) : List SortKey :=
  (((onChain d cs).filterMap Call.tieBreak?).takeWhile (·.2)).map (·.1)

theorem tieBreaks_cons {c : Call α β} {d : Nat} (h : d = 0 → c.tieBreak? = none)
    (cs : List (Call α β)) : tieBreaks d (c :: cs) = (c.depth? d).elim [] (tieBreaks · cs) := by
  rw [tieBreaks, filterMap_onChain_cons h]
  cases c.depth? d <;> rfl

theorem tieBreaks_thenBy (key : SortKey) (condition : Bool) (cs : List (Call α β)) :
    tieBreaks 0 (.thenBy key condition :: cs) = if condition then key :: tieBreaks 0 cs else [] := by
  have h : (onChain 0 (.thenBy key condition :: cs)).filterMap Call.tieBreak? =
      (key, condition) :: (onChain 0 cs).filterMap Call.tieBreak? :=
    filterMap_onChain_of_some rfl rfl
  rw [tieBreaks, h, List.takeWhile_cons]
  cases condition <;> rfl

/-! ## runs -/

namespace Builder

variable {b b' : Builder α β} {calls : List (Call α β)}

theorem leads_of_primary {c : Call α β} (hprimary : b.facets.hasPrimary = true)
    (h : c.Adds b b') : c.leads = false ∧ b'.facets.hasPrimary = true := by
  constructor
  · rw [← Bool.not_eq_true]
    intro hleads
    exact absurd hprimary (by simp [h.leads hleads])
  · rw [Facets.hasPrimary, h.orderings, List.any_append]
    exact Bool.or_eq_true_iff.mpr (.inl hprimary)

/-- Once there is a primary ordering, no other call leads. -/
theorem run_leads_of_primary (hprimary : b.facets.hasPrimary = true)
    (h : b.run calls = .ok b') : ∀ c ∈ calls, c.leads = false := by
  induction calls generalizing b with
  | nil => exact List.forall_mem_nil _
  | cons c cs ih =>
    obtain ⟨b₁, hp, hrest⟩ := run_cons_eq_ok h
    obtain ⟨hleads, hprimary⟩ := leads_of_primary hprimary (perform_adds hp)
    exact List.forall_mem_cons.mpr ⟨hleads, ih hprimary hrest⟩

theorem run_orderings_of_idle (hprimary : b.facets.hasPrimary = true)
    (hidle : .ordered .active ∉ b.chain) (h : b.run calls = .ok b') :
    b'.facets.orderings = b.facets.orderings := by
  induction calls generalizing b with
  | nil => cases h; rfl
  | cons c cs ih =>
    obtain ⟨b₁, hp, hrest⟩ := run_cons_eq_ok h
    have hadds := perform_adds hp
    obtain ⟨hleads, hprimary⟩ := leads_of_primary hprimary hadds
    have hidle₁ : .ordered .active ∉ b₁.chain := hadds.chain ▸ Call.idle_links hidle hleads
    rw [ih hprimary hidle₁ hrest, hadds.orderings, Call.orderEntries_of_idle hidle hleads,
      List.append_nil]

/-- The stack falls into what lies on top of the active chain, the chain itself and what lies
below. -/
theorem run_orderings_of_active (inner : List Link) {outer : List Link} (hprimary : b.facets.hasPrimary = true)
    (hchain : b.chain = inner ++ .ordered .active :: outer) (hinner : .ordered .active ∉ inner)
    (houter : .ordered .active ∉ outer) (h : b.run calls = .ok b') :
    b'.facets.orderings =
      b.facets.orderings ++ (tieBreaks inner.length calls).map (⟨·, .secondary⟩) := by
  induction calls generalizing b inner with
  | nil => cases h; exact (List.append_nil _).symm
  | cons c cs ih =>
    obtain ⟨b₁, hp, hrest⟩ := run_cons_eq_ok h
    have hadds := perform_adds hp
    obtain ⟨hleads, hprimary₁⟩ := leads_of_primary hprimary hadds
    have hlinks := hadds.chain
    have horderings := hadds.orderings
    rw [hchain] at hlinks horderings
    -- once the chain is left or discarded, nothing more is added
    have hover (hidle : .ordered .active ∉ b₁.chain) : b'.facets.orderings = b₁.facets.orderings :=
      run_orderings_of_idle hprimary₁ hidle hrest
    by_cases hbreak : inner = [] ∧ ∃ key condition, c = .thenBy key condition
    · obtain ⟨rfl, key, condition, rfl⟩ := hbreak
      rw [List.length_nil, tieBreaks_thenBy]
      cases condition with
      | true =>
        rw [ih [] hprimary₁ hlinks hinner hrest, horderings, List.append_assoc]
        rfl
      | false =>
        have hidle : .ordered .active ∉ b₁.chain := by
          rw [hlinks]
          exact fun hmem => houter ((List.mem_cons.mp hmem).resolve_left nofun)
        exact (hover hidle).trans horderings
    · have hgo : inner = [] → c.goesOn (.ordered .active) = false ∧ c.tieBreak? = none := by
        intro hnil
        cases c with
        | thenBy key condition => exact absurd ⟨hnil, key, condition, rfl⟩ hbreak
        | _ => exact ⟨rfl, rfl⟩
      rw [Call.orderEntries_above hleads hinner (fun hnil => (hgo hnil).2), List.append_nil]
        at horderings
      rw [tieBreaks_cons (fun hnil => (hgo (List.length_eq_zero_iff.mp hnil)).2), ← horderings]
      rcases Call.links_above (fun hnil => (hgo hnil).1) outer with ⟨hdepth, hsub⟩ | ⟨hdepth, hlinks'⟩
      · rw [hdepth]
        exact (hover fun hmem => houter (hsub (hlinks ▸ hmem))).trans (List.append_nil _).symm
      · rw [hdepth]
        exact ih _ hprimary₁ (hlinks.trans hlinks') (Call.idle_links hinner hleads) hrest

/-- No call leads, or one does, and the others are those before it and those after it. -/
theorem run_orderings_of_none (hnone : b.facets.orderings = [])
    (hidle : .ordered .active ∉ b.chain) (h : b.run calls = .ok b') :
    ((∀ c ∈ calls, c.leads = false) ∧ b'.facets.orderings = []) ∨
    ∃ before key after, calls = before ++ .orderBy key true :: after ∧
      (∀ c ∈ before ++ after, c.leads = false) ∧
      b'.facets.orderings = ⟨key, .primary⟩ :: (tieBreaks 0 after).map (⟨·, .secondary⟩) := by
  induction calls generalizing b with
  | nil =>
    cases h
    exact .inl ⟨List.forall_mem_nil _, hnone⟩
  | cons c cs ih =>
    obtain ⟨b₁, hp, hrest⟩ := run_cons_eq_ok h
    have hadds := perform_adds hp
    cases hleads : c.leads with
    | true =>
      cases c with
      | orderBy key condition =>
        obtain rfl : condition = true := hleads
        have horderings : b₁.facets.orderings = [⟨key, .primary⟩] := by
          rw [hadds.orderings, hnone]
          rfl
        have hprimary : b₁.facets.hasPrimary = true := by rw [Facets.hasPrimary, horderings]; rfl
        refine .inr ⟨[], key, cs, rfl, run_leads_of_primary hprimary hrest, ?_⟩
        rw [run_orderings_of_active [] hprimary hadds.chain List.not_mem_nil hidle hrest, horderings]
        rfl
      | _ => cases hleads
    | false =>
      have hnone₁ : b₁.facets.orderings = [] := by
        rw [hadds.orderings, hnone, Call.orderEntries_of_idle hidle hleads]
        rfl
      have hidle₁ : .ordered .active ∉ b₁.chain := hadds.chain ▸ Call.idle_links hidle hleads
      rcases ih hnone₁ hidle₁ hrest with ⟨hall, ho⟩ | ⟨before, key, after, rfl, hall, ho⟩
      · exact .inl ⟨List.forall_mem_cons.mpr ⟨hleads, hall⟩, ho⟩
      · exact .inr ⟨c :: before, key, after, rfl, List.forall_mem_cons.mpr ⟨hleads, hall⟩, ho⟩

/-! ## active chains -/

/-- At most one ordering chain is active, and then there is an ordering that leads. -/
structure Sole (b : Builder α β) : Prop where
  ranked : b.Ranked
  count : b.chain.count (.ordered .active) ≤ 1

theorem Sole.primary (hb : b.Sole) (hactive : .ordered .active ∈ b.chain) :
    b.facets.hasPrimary = true := by
  by_contra hnone
  exact hb.ranked.active hactive
    (hb.ranked.facets.orderings_eq_nil (Bool.not_eq_true _ ▸ hnone))

theorem Sole.adds (hb : b.Sole) {c : Call α β} (h : c.Adds b b') : b'.Sole := by
  constructor
  · exact hb.ranked.adds h
  rw [h.chain]
  refine (c.count_links b.chain).trans ?_
  cases hleads : c.leads with
  | false => simpa using hb.count
  | true =>
    -- a call leads only where no chain is active yet
    have hidle : .ordered .active ∉ b.chain := fun hactive => by
      simpa [h.leads hleads] using hb.primary hactive
    simp [List.count_eq_zero_of_not_mem hidle]

theorem Sole.run (hb : b.Sole) (h : b.run calls = .ok b') : b'.Sole :=
  run_induction (fun _ _ _ _ hb hadds => hb.adds hadds) hb h

theorem sole_new (entity : String) : (new entity : Builder α β).Sole :=
  ⟨⟨.inl rfl, nofun⟩, Nat.zero_le 1⟩

end Builder

/-! ## directives -/

def Directive.isOrdering : Directive → Bool
  | .orderBy _ | .thenBy _ => true
  | _ => false

theorem filter_orderingDirectives (keys : List SortKey) :
    (orderingDirectives keys).filter (·.isOrdering) = orderingDirectives keys := by
  refine List.filter_eq_self.mpr fun d hd => ?_
  cases keys with
  | nil => cases hd
  | cons key keys =>
    rcases List.mem_cons.mp hd with rfl | hd
    · rfl
    · obtain ⟨key', -, rfl⟩ := List.mem_map.mp hd
      rfl

/-- Only the orderings of a specification ask for an order. -/
theorem Facets.filter_isOrdering_directives (limits : PageLimits) (f : Facets) :
    (f.directives limits).filter (·.isOrdering) = orderingDirectives f.sortKeys := by
  have hnone : ∀ {ds : List Directive}, (∀ d ∈ ds, d.isOrdering = false) →
      ds.filter (·.isOrdering) = [] :=
    fun h => List.filter_eq_nil_iff.mpr fun d hd => by simp [h d hd]
  rw [directives, criteriaDirectives, orderDirectives_eq, pagingDirectives]
  simp only [List.filter_append, filter_orderingDirectives]
  rw [hnone, hnone, hnone, hnone, hnone, hnone, hnone, hnone]
  · simp
  · cases f.splitQuery <;> simp [Directive.isOrdering]
  all_goals simp [Directive.isOrdering]

/-! ## specifications that were built -/

/-- **The orderings of a specification built from new.** A primary one comes first, if there is any,
and only tie breaks follow; at most one chain is active, and then there is a primary one; they are
the one leading ordering whose condition held and the tie breaks called on its chain before the
first that is refused; and this is the order that a query is asked for, once. -/
theorem orderings_of_run {ρ : Type} [Record ρ] {entity : String} {calls : List (Call α β)}
    {b : Builder α β} (h : (Builder.new entity).run calls = .ok b) :
    b.facets.Ranked ∧
    (b.chain.count (.ordered .active) ≤ 1 ∧
      (.ordered .active ∈ b.chain → b.facets.hasPrimary = true)) ∧
    (((∀ c ∈ calls, c.leads = false) ∧ b.facets.orderings = []) ∨
      ∃ before key after, calls = before ++ .orderBy key true :: after ∧
        (∀ c ∈ before ++ after, c.leads = false) ∧
        b.facets.orderings = ⟨key, .primary⟩ :: (tieBreaks 0 after).map (⟨·, .secondary⟩)) ∧
    ∀ (limits : PageLimits) (rows : List ρ) (filters : List Expr),
      (shapeQuery limits b.facets ⟨rows, filters, []⟩).directives.filter (·.isOrdering) =
        orderingDirectives (b.facets.orderings.map (·.key)) := by
  have hsole : b.Sole := (Builder.sole_new entity).run h
  refine ⟨hsole.ranked.facets, ⟨hsole.count, hsole.primary⟩,
    Builder.run_orderings_of_none rfl List.not_mem_nil h, fun limits rows filters => ?_⟩
  rw [← hsole.ranked.facets.sortKeys_eq_map]
  exact b.facets.filter_isOrdering_directives limits

/-- Chains that are discarded lie below and above the active one, which is resumed. -/
theorem orderings_of_nested_chains :
    let team : SortKey := ⟨"team", .desc⟩
    let id : SortKey := ⟨"id", .asc⟩
    let calls : List (Call Keyed Keyed) :=
      [.orderBy ⟨"name", .asc⟩ false, .thenBy ⟨"done", .asc⟩ true, .include "owner" "person" true,
        .orderBy team true, .orderBy ⟨"name", .asc⟩ false, .thenBy ⟨"done", .asc⟩ true, .intoInner,
        .thenBy id true, .caching true, .intoInner, .thenBy ⟨"name", .asc⟩ false,
        .thenBy ⟨"done", .asc⟩ true]
    ∃ b, (Builder.new "job").run calls = .ok b ∧
      b.facets.orderings = [⟨team, .primary⟩, ⟨id, .secondary⟩] ∧
      (shapeQuery {} b.facets ⟨[sampleJob 1 1 true], [], []⟩).directives.filter (·.isOrdering) =
        [.orderBy team, .thenBy id] := by
  intro team id calls
  obtain ⟨b, h⟩ : ∃ b, (Builder.new "job").run calls = .ok b := ⟨_, rfl⟩
  have horderings : b.facets.orderings = [⟨team, .primary⟩, ⟨id, .secondary⟩] := by
    cases h
    rfl
  refine ⟨b, h, horderings, ?_⟩
  rw [(orderings_of_run h).2.2.2, horderings]
  rfl

end RowSpec
