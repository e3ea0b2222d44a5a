import RowSpec.Proofs.Evaluation.Meaning

/-!
# Grouping beside sorting

Grouping puts rows of equal keys together, and sorting by the key ties the same rows. So a sort by
the key of a grouping hides it, and rows that are sorted or grouped by a key already stay as they
are when they are grouped by it.

* `filter_gatherBy`        the rows of a key keep their order when rows are gathered;
* `gatherBy_flatMap`       rows that come key by key are gathered already;
* `orderRows_eq_flatMap`   a sort by one key is rows that come key by key, in the order of the keys;
* `cluster_then_sortBy`, `sortBy_then_cluster`, `cluster_then_cluster`   the same with failures;
* `fetch_without_grouping`  queries with and without the grouping fetch alike;
* `grouping_absorbed`      a grouping that leaves no trace.
-/

namespace RowSpec

open Std (LawfulEqCmp OrientedCmp ReflCmp TransCmp)

/-! ## rows that come key by key -/

section
variable {ρ κ : Type} [DecidableEq κ] {key : ρ → κ} {ks : List κ} {members : κ → List ρ}

theorem key_of_mem_filter {v : κ} {rows : List ρ} {row : ρ} (h : row ∈ rows.filter (key · = v)) :
    key row = v := of_decide_eq_true (List.mem_filter.mp h).2

theorem filter_key_eq_self {v : κ} {rows : List ρ} (h : ∀ row ∈ rows, key row = v) :
    rows.filter (key · = v) = rows :=
  List.filter_eq_self.mpr fun row hrow => decide_eq_true (h row hrow)

theorem filter_key_eq_nil {v : κ} {rows : List ρ} (h : ∀ row ∈ rows, key row ≠ v) :
    rows.filter (key · = v) = [] :=
  List.filter_eq_nil_iff.mpr fun row hrow he => h row hrow (of_decide_eq_true he)

theorem filter_flatMap_members (hn : ks.Nodup) (hkey : ∀ k ∈ ks, ∀ row ∈ members k, key row = k)
    (v : κ) : (ks.flatMap members).filter (key · = v) = if v ∈ ks then members v else [] := by
  induction ks with
  | nil => rfl
  | cons k ks ih =>
    obtain ⟨hfresh, hn⟩ := List.nodup_cons.mp hn
    obtain ⟨hk, hrest⟩ := List.forall_mem_cons.mp hkey
    rw [List.flatMap_cons, List.filter_append, ih hn hrest]
    by_cases hv : v = k
    · subst hv
      rw [filter_key_eq_self hk, if_neg hfresh, List.append_nil, if_pos List.mem_cons_self]
    · have hnone : (members k).filter (key · = v) = [] :=
        filter_key_eq_nil fun row hrow he => hv (he.symm.trans (hk row hrow))
      have hmem : v ∈ k :: ks ↔ v ∈ ks := by rw [List.mem_cons, or_iff_right hv]
      rw [hnone, List.nil_append]
      simp only [hmem]

theorem filter_gatherBy (key : ρ → κ) (rows : List ρ) (v : κ) :
    (gatherBy key rows).filter (key · = v) = rows.filter (key · = v) := by
  rw [gatherBy, filter_flatMap_members (nodup_eraseDups _) fun _ _ _ => key_of_mem_filter]
  split
  · rfl
  · rename_i hv
    refine (filter_key_eq_nil fun row hrow he => hv ?_).symm
    exact List.mem_eraseDups.mpr (List.mem_map.mpr ⟨row, hrow, he⟩)

/-- Rows of one key stay in front when none of the others has the key. -/
theorem gatherBy_append {v : κ} {front rest : List ρ} (hfront : ∀ row ∈ front, key row = v)
    (hrest : ∀ row ∈ rest, key row ≠ v) :
    gatherBy key (front ++ rest) = front ++ gatherBy key rest := by
  cases front with
  | nil => rfl
  | cons first front =>
    obtain ⟨hfirst, hothers⟩ := List.forall_mem_cons.mp hfront
    have hnew : ((front ++ rest).map key).filter (!· == key first) = rest.map key := by
      rw [hfirst, List.filter_map, List.filter_append, List.filter_eq_nil_iff.mpr,
        List.filter_eq_self.mpr, List.nil_append]
      · exact fun row hrow => by simpa using hrest row hrow
      · exact fun row hrow => by simpa using hothers row hrow
    have hown : (first :: front ++ rest).filter (key · = v) = first :: front := by
      rw [List.filter_append, filter_key_eq_self hfront, filter_key_eq_nil hrest, List.append_nil]
    have hlater : ∀ k ∈ (rest.map key).eraseDups,
        (first :: front ++ rest).filter (key · = k) = rest.filter (key · = k) := by
      intro k hk
      obtain ⟨row, hrow, rfl⟩ := List.mem_map.mp (List.mem_eraseDups.mp hk)
      rw [List.filter_append, filter_key_eq_nil, List.nil_append]
      exact fun other hother he => hrest row hrow (he.symm.trans (hfront other hother))
    rw [gatherBy, List.cons_append, List.map_cons, List.eraseDups_cons, hnew, List.flatMap_cons,
      hfirst, ← List.cons_append, hown]
    congr 1
    exact List.flatMap_congr hlater

theorem gatherBy_flatMap (hn : ks.Nodup) (hkey : ∀ k ∈ ks, ∀ row ∈ members k, key row = k) :
    gatherBy key (ks.flatMap members) = ks.flatMap members := by
  induction ks with
  | nil => rfl
  | cons k ks ih =>
    obtain ⟨hfresh, hn⟩ := List.nodup_cons.mp hn
    obtain ⟨hk, hrest⟩ := List.forall_mem_cons.mp hkey
    have hothers : ∀ row ∈ ks.flatMap members, key row ≠ k := by
      intro row hrow he
      obtain ⟨k', hk', hrow⟩ := List.mem_flatMap.mp hrow
      exact hfresh (he ▸ (hrest k' hk' row hrow).symm ▸ hk')
    rw [List.flatMap_cons, gatherBy_append hk hothers, ih hn hrest]

theorem gatherBy_gatherBy (key : ρ → κ) (rows : List ρ) :
    gatherBy key (gatherBy key rows) = gatherBy key rows :=
  gatherBy_flatMap (nodup_eraseDups _) fun _ _ _ => key_of_mem_filter

end

/-! ## sorts by one key -/

section
variable {ρ : Type} [Record ρ] {name : String} {dir : Direction}

theorem inOrder_singleton (name : String) (dir : Direction) (a b : ρ) :
    inOrder [⟨name, dir⟩] a b =
      (dir.orient (Record.keyValue name a) (Record.keyValue name b)).isLE := by
  rw [inOrder, rowOrder, rowOrder, Ordering.then_eq]

/-- Sorting ties the rows that grouping puts together. -/
theorem tied_inOrder (name : String) (dir : Direction) (a : ρ) :
    tied (inOrder [⟨name, dir⟩]) a =
      fun b => decide (Record.keyValue name b = Record.keyValue name a) := by
  funext b
  rw [Bool.eq_iff_iff, tied_iff, decide_eq_true_iff, inOrder_singleton, inOrder_singleton]
  constructor
  · rintro ⟨hab, hba⟩
    exact LawfulEqCmp.eq_of_compare (OrientedCmp.isLE_antisymm hba hab)
  · intro h
    have hself : dir.orient (Record.keyValue name a) (Record.keyValue name a) = .eq :=
      ReflCmp.compare_self
    rw [h, hself]
    exact ⟨rfl, rfl⟩

/-- the values of a field, each once, in the order of a direction -/
def sortedValues (name : String) (dir : Direction) (rows : List ρ) : List Value :=
  (rows.map (Record.keyValue name)).eraseDups.mergeSort fun a b => (dir.orient a b).isLE

theorem nodup_sortedValues (name : String) (dir : Direction) (rows : List ρ) :
    (sortedValues name dir rows).Nodup :=
  (List.mergeSort_perm _ _).nodup_iff.mpr (nodup_eraseDups _)

theorem pairwise_sortedValues (name : String) (dir : Direction) (rows : List ρ) :
    (sortedValues name dir rows).Pairwise fun a b => (dir.orient a b).isLE := by
  refine List.pairwise_mergeSort (fun _ _ _ => TransCmp.isLE_trans) (fun a b => ?_) _
  rw [@OrientedCmp.eq_swap _ dir.orient _ b a]
  cases dir.orient a b <;> rfl

/-- A sort by one key is a grouping whose groups come in the order of their keys. -/
theorem orderRows_eq_flatMap (name : String) (dir : Direction) (rows : List ρ) :
    orderRows [⟨name, dir⟩] rows = (sortedValues name dir rows).flatMap fun v =>
      rows.filter (Record.keyValue name · = v) := by
  have hpre := preordered_inOrder (ρ := ρ) [⟨name, dir⟩]
  refine hpre.eq_of_filter_tied (hpre.pairwise_mergeSort rows) ?_ fun x => ?_
  · refine List.pairwise_flatMap.mpr ⟨fun v _ => ?_, ?_⟩
    · -- rows of one key are tied
      refine List.pairwise_of_forall_mem_list fun a ha b hb => ?_
      have hab : Record.keyValue name b = Record.keyValue name a :=
        (key_of_mem_filter hb).trans (key_of_mem_filter ha).symm
      rw [inOrder_singleton, hab]
      exact ReflCmp.isLE_rfl
    · refine (pairwise_sortedValues name dir rows).imp fun hvw a ha b hb => ?_
      rw [inOrder_singleton, key_of_mem_filter ha, key_of_mem_filter hb]
      exact hvw
  · refine (hpre.filter_mergeSort x rows).trans ?_
    have hkey : ∀ v ∈ sortedValues name dir rows,
        ∀ row ∈ rows.filter (Record.keyValue name · = v), Record.keyValue name row = v :=
      fun _ _ _ => key_of_mem_filter
    rw [tied_inOrder, filter_flatMap_members (nodup_sortedValues name dir rows) hkey]
    split
    · rfl
    · rename_i hx
      refine filter_key_eq_nil fun row hrow he => hx ?_
      rw [sortedValues, List.mem_mergeSort, List.mem_eraseDups]
      exact List.mem_map.mpr ⟨row, hrow, he⟩

/-! ## a grouping next to a sort -/

theorem orderRows_gatherBy (name : String) (dir : Direction) (rows : List ρ) :
    orderRows [⟨name, dir⟩] (gatherBy (Record.keyValue name) rows) = orderRows [⟨name, dir⟩] rows := by
  refine (preordered_inOrder [⟨name, dir⟩]).mergeSort_eq fun x => ?_
  rw [tied_inOrder]
  exact filter_gatherBy (Record.keyValue name) rows (Record.keyValue name x)

theorem gatherBy_orderRows (name : String) (dir : Direction) (rows : List ρ) :
    gatherBy (Record.keyValue name) (orderRows [⟨name, dir⟩] rows) =
      orderRows [⟨name, dir⟩] rows := by
  rw [orderRows_eq_flatMap]
  exact gatherBy_flatMap (nodup_sortedValues name dir rows) fun _ _ _ => key_of_mem_filter

/-! ## the same with failures -/

theorem sortBy_singleton_yields (name : String) (dir : Direction) (rows : List ρ) :
    Yields (sortBy [⟨name, dir⟩] rows) (Lacks name rows) (orderRows [⟨name, dir⟩] rows) := by
  apply (sortBy_yields [⟨name, dir⟩] rows).congr
  intro e
  simp

theorem cluster_then_sortBy (name : String) (dir : Direction) (rows : List ρ) :
    (cluster name rows >>= sortBy [⟨name, dir⟩]) = sortBy [⟨name, dir⟩] rows := by
  have hboth := (cluster_yields name rows).bind fun _ =>
    sortBy_singleton_yields name dir (gatherBy (Record.keyValue name) rows)
  rw [orderRows_gatherBy] at hboth
  refine (hboth.congr fun e => ?_).unique (sortBy_singleton_yields name dir rows) Lacks.unique
  rw [lacks_congr fun _ => mem_gatherBy, or_self]

theorem sortBy_then_cluster (name : String) (dir : Direction) (rows : List ρ) :
    (sortBy [⟨name, dir⟩] rows >>= cluster name) = sortBy [⟨name, dir⟩] rows := by
  have hboth := (sortBy_singleton_yields name dir rows).bind fun _ =>
    cluster_yields name (orderRows [⟨name, dir⟩] rows)
  rw [gatherBy_orderRows] at hboth
  refine (hboth.congr fun e => ?_).unique (sortBy_singleton_yields name dir rows) Lacks.unique
  rw [lacks_orderRows, or_self]

theorem cluster_then_cluster (name : String) (rows : List ρ) :
    (cluster name rows >>= cluster name) = cluster name rows := by
  have hboth := (cluster_yields name rows).bind fun _ =>
    cluster_yields name (gatherBy (Record.keyValue name) rows)
  rw [gatherBy_gatherBy] at hboth
  refine (hboth.congr fun e => ?_).unique (cluster_yields name rows) Lacks.unique
  rw [lacks_congr fun _ => mem_gatherBy, or_self]

end

/-! ## directives -/

section
variable {ρ : Type} [Record ρ] {keys : List SortKey} {name : String} {dir : Direction}
  {ds : List Directive} {rows : List ρ}

theorem replay_groupBy_orderBy :
    replay keys (.groupBy name :: .orderBy ⟨name, dir⟩ :: ds) rows =
      replay keys (.orderBy ⟨name, dir⟩ :: ds) rows := by
  simp only [replay]
  rw [← bind_assoc, cluster_then_sortBy]

theorem replay_orderBy_groupBy :
    replay keys (.orderBy ⟨name, dir⟩ :: .groupBy name :: ds) rows =
      replay keys (.orderBy ⟨name, dir⟩ :: ds) rows := by
  simp only [replay]
  rw [← bind_assoc, sortBy_then_cluster]

theorem replay_groupBy_groupBy :
    replay keys (.groupBy name :: .groupBy name :: ds) rows =
      replay keys (.groupBy name :: ds) rows := by
  simp only [replay]
  rw [← bind_assoc, cluster_then_cluster]

end

namespace Facets

variable {f : Facets} {key : SortKey}

def primaryKey? (f : Facets) : Option SortKey :=
  (f.orderings.find? (·.rank = .primary)).map (·.key)

theorem sortKeys_of_primaryKey? (h : f.primaryKey? = some key) : ∃ more, f.sortKeys = key :: more := by
  obtain ⟨entry, hentry, rfl⟩ := Option.map_eq_some_iff.mp h
  rw [sortKeys, hentry]
  exact ⟨_, rfl⟩

/-- the directives that select rows or load what belongs to them -/
def directivesBeforeGrouping (f : Facets) : List Directive :=
  (if f.ignoreQueryFilters then [.ignoreQueryFilters] else []) ++ f.criteria.map .filter ++
    f.includeOrder.map .include

theorem directives_around_grouping (limits : PageLimits) (f : Facets) :
    f.directives limits = f.directivesBeforeGrouping ++ (f.groupKey.toList.map .groupBy ++
      (orderingDirectives f.sortKeys ++ (f.pagingDirectives limits ++ f.closingDirectives))) := by
  rw [directives_eq, shapingDirectives, directivesBeforeGrouping,
    List.append_assoc _ (f.includeOrder.map _)]

end Facets

variable {ρ : Type} [Record ρ]

theorem fetch_without_grouping {f : Facets} {name : String} {dir : Direction}
    (hgroup : f.groupKey = some name) (hprimary : f.primaryKey? = some ⟨name, dir⟩)
    (limits : PageLimits) (q : Query ρ) (cancelled : Bool) :
    (shapeQuery limits { f with groupKey := none } q).fetch cancelled =
      (shapeQuery limits f q).fetch cancelled := by
  obtain ⟨more, hkeys⟩ := Facets.sortKeys_of_primaryKey? hprimary
  have hwith := f.directives_around_grouping limits
  have hwithout := ({ f with groupKey := none } : Facets).directives_around_grouping limits
  have hkeys' : ({ f with groupKey := none } : Facets).sortKeys = ⟨name, dir⟩ :: more := hkeys
  rw [hgroup, hkeys] at hwith
  rw [hkeys'] at hwithout
  rw [shapeQuery, shapeQuery, hwith, hwithout]
  refine q.fetch_shape_of_replay f.directivesBeforeGrouping ?_
    (fun _ _ => replay_groupBy_orderBy.symm) cancelled
  simp only [List.mem_cons, reduceCtorEq, false_or]

/-- **Grouping and sorting agree on what equal keys are.** A grouping by the key of the primary
ordering leaves no trace in what is fetched, failures included. Neither does a grouping right after
a sort by its key, or after the same grouping, whatever directives come before and after. -/
theorem grouping_absorbed (q : Query ρ) (name : String) (dir : Direction) (cancelled : Bool) :
    (∀ (limits : PageLimits) (f : Facets), f.groupKey = some name →
      f.primaryKey? = some ⟨name, dir⟩ →
        (shapeQuery limits { f with groupKey := none } q).fetch cancelled =
          (shapeQuery limits f q).fetch cancelled) ∧
    ∀ before after,
      (q.shape (before ++ .orderBy ⟨name, dir⟩ :: .groupBy name :: after)).fetch cancelled =
        (q.shape (before ++ .orderBy ⟨name, dir⟩ :: after)).fetch cancelled ∧
      (q.shape (before ++ .groupBy name :: .groupBy name :: after)).fetch cancelled =
        (q.shape (before ++ .groupBy name :: after)).fetch cancelled := by
  refine ⟨fun limits f hgroup hprimary => fetch_without_grouping hgroup hprimary limits q cancelled,
    fun before after => ⟨?_, ?_⟩⟩
  · refine q.fetch_shape_of_replay before ?_ (fun _ _ => replay_orderBy_groupBy) cancelled
    simp
  · refine q.fetch_shape_of_replay before ?_ (fun _ _ => replay_groupBy_groupBy) cancelled
    simp

/-- Three jobs by team from above, the first one left out, and the same without their grouping. -/
theorem grouping_absorbed_by_teams :
    let f : Facets :=
      { groupKey := some "team"
        orderings := [⟨⟨"team", .desc⟩, .primary⟩, ⟨⟨"id", .asc⟩, .secondary⟩]
        paging := .window (some 1) none }
    let q : Query Keyed := ⟨[sampleJob 3 1 true, sampleJob 2 2 true, sampleJob 1 1 true], [], []⟩
    f.groupKey = some "team" ∧ f.primaryKey? = some ⟨"team", .desc⟩ ∧
      (shapeQuery {} f q).fetch false = .ok [sampleJob 1 1 true, sampleJob 3 1 true] ∧
      (shapeQuery {} { f with groupKey := none } q).fetch false =
        .ok [sampleJob 1 1 true, sampleJob 3 1 true] := by
  intro f q
  have hfetch : (shapeQuery {} f q).fetch false =
      .ok [sampleJob 1 1 true, sampleJob 3 1 true] := by cbv
  exact ⟨rfl, rfl, hfetch, ((grouping_absorbed q "team" .desc false).1 {} f rfl rfl).trans hfetch⟩

end RowSpec
