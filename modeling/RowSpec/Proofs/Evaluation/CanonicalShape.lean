import RowSpec.Proofs.Evaluation.Meaning
import RowSpec.Proofs.Specification.Canonical

/-!
# Queries of equal canonical shape

The canonical shape leaves out what no query shows, and tells the rest unless a raw include path is
mistaken for other parts.

* `replay_loud`                  silent directives may be left out;
* `Query.fetch_shape_congr`      queries shaped alike, silent directives apart;
* `Facets.loud_directives`       what remains of the directives of a specification;
* `Facets.SameShape.fetch_eq`    facets of the same shape ask for the same rows;
* `fetch_eq_of_canonical_eq`     so do specifications that were built and have equal canonical
                                 shapes;
* `include_path_passes_for_grouping`    the raw path that is mistaken for a grouping.
-/

namespace RowSpec

variable {ρ : Type} [Record ρ]

/-! ## silent directives -/

/-- the directives that change the rows or their sort -/
def loud (ds : List Directive) : List Directive := ds.filter (!·.isSilent)

theorem loud_append (ds es : List Directive) : loud (ds ++ es) = loud ds ++ loud es :=
  List.filter_append ds es

/-- **Silent directives** may be left out, wherever they stand. -/
theorem replay_loud (keys : List SortKey) (ds : List Directive) (rows : List ρ) :
    replay keys (loud ds) rows = replay keys ds rows := by
  induction ds generalizing keys rows with
  | nil => rfl
  | cons d ds ih =>
    have hrest : ∀ keys, (replay keys (loud ds) : List ρ → _) = replay keys ds := fun keys =>
      funext (ih keys)
    cases d with
    | filter p => exact congrArg (keep p rows >>= ·) (hrest keys)
    | groupBy key => exact congrArg (cluster key rows >>= ·) (hrest keys)
    | orderBy k => exact congrArg (sortBy [k] rows >>= ·) (hrest [k])
    | thenBy k => exact congrArg (sortBy (keys ++ [k]) rows >>= ·) (hrest (keys ++ [k]))
    | _ => exact ih keys _

theorem Query.fetch_shape_congr {ds es : List Directive}
    (hignore : ds.contains .ignoreQueryFilters = es.contains .ignoreQueryFilters)
    (hloud : loud ds = loud es) (q : Query ρ) (cancelled : Bool) :
    (q.shape ds).fetch cancelled = (q.shape es).fetch cancelled := by
  refine q.fetch_shape_of_replay [] ?_ (fun keys rows => ?_) cancelled
  · rw [← List.contains_iff_mem, ← List.contains_iff_mem, hignore]
  · rw [← replay_loud, hloud, replay_loud]

/-! ## facets -/

namespace Facets

variable {f g : Facets}

/-- A specification asks to select, group, order and cut rows. -/
theorem loud_directives (limits : PageLimits) (f : Facets) :
    loud (f.directives limits) = f.criteria.map .filter ++ f.groupKey.toList.map .groupBy ++
      orderingDirectives f.sortKeys ++ f.pagingDirectives limits := by
  have hsilent : ∀ {ds : List Directive}, (∀ d ∈ ds, d.isSilent = true) → loud ds = [] :=
    fun h => List.filter_eq_nil_iff.mpr fun d hd => by simp [h d hd]
  have hloud : ∀ {ds : List Directive}, (∀ d ∈ ds, d.isSilent = false) → loud ds = ds :=
    fun h => List.filter_eq_self.mpr fun d hd => by simp [h d hd]
  have horder : ∀ d ∈ orderingDirectives f.sortKeys, d.isSilent = false := by
    cases f.sortKeys <;> simp [orderingDirectives, Directive.isSilent]
  have hpaging : ∀ d ∈ f.pagingDirectives limits, d.isSilent = false := by
    simp [pagingDirectives, Directive.isSilent, or_imp, forall_and]
  rw [directives_eq, shapingDirectives, closingDirectives]
  simp only [loud_append]
  rw [hsilent f.isSilent_ignoring, hloud (by simp [Directive.isSilent]),
    hsilent (by simp [Directive.isSilent]), hloud (by simp [Directive.isSilent]), hloud horder,
    hloud hpaging, hsilent]
  · simp
  · cases f.splitQuery <;> simp [Directive.isSilent]

theorem SameShape.criteria_eq (h : f.SameShape g) : f.criteria = g.criteria := by
  have hgroup : f.groupExpr? = g.groupExpr? := by
    funext group
    rw [groupExpr?, groupExpr?, h.searches]
  rw [criteria, criteria, searchExprs, searchExprs, groupNumbers, groupNumbers, hgroup,
    h.predicates, h.searches]

/-- Facets of the same shape ask for the same rows. -/
theorem SameShape.fetch_eq (h : f.SameShape g) (hf : f.Ranked) (hg : g.Ranked)
    (limits : PageLimits) (q : Query ρ) (cancelled : Bool) :
    (shapeQuery limits f q).fetch cancelled = (shapeQuery limits g q).fetch cancelled := by
  refine Query.fetch_shape_congr ?_ ?_ q cancelled
  · rw [contains_ignoreQueryFilters, contains_ignoreQueryFilters, h.ignoreQueryFilters]
  · have hpaging : f.pagingDirectives limits = g.pagingDirectives limits := by
      rw [pagingDirectives, pagingDirectives, window, window, h.paging]
    rw [loud_directives, loud_directives, h.criteria_eq, h.groupKey, hf.sortKeys_eq_map,
      hg.sortKeys_eq_map, h.keys, hpaging]

end Facets

/-! ## specifications that were built -/

/-- **Specifications of equal canonical shape** fetch the same rows in the same order, or fail
alike, from every query: names have to be plain and no leap second may be out of place, while texts,
patterns and raw include paths may be any, as long as a specification without grouping has no last
raw path that ends like a grouping or an ordering. -/
theorem fetch_eq_of_canonical_eq {f g : Facets} (hf : f.Built) (hg : g.Built) (hfp : f.Plain)
    (hgp : g.Plain) (hft : f.RegularTimes) (hgt : g.RegularTimes) (hfl : f.Legible)
    (hgl : g.Legible) (h : f.canonical = g.canonical) (limits : PageLimits) (q : Query ρ)
    (cancelled : Bool) :
    (shapeQuery limits f q).fetch cancelled = (shapeQuery limits g q).fetch cancelled :=
  ((hf.readable hfp hft hfl).sameShape (hg.readable hgp hgt hgl) h).fetch_eq hf.ranked hg.ranked
    limits q cancelled

/-- A typed path and a raw one, tracked or not, with marks of all kinds in a value and a pattern. -/
theorem fetch_jobs_alike :
    let called : Expr := .compare (.field "name") .eq (.value (.text "a|g:team"))
    let f : Facets :=
      { predicates := [called]
        searches := [⟨"name", "it's|w:%", 1⟩]
        includes := [⟨"owner", ⟨"owner", "job", "person"⟩, .start⟩]
        orderings := [⟨⟨"id", .asc⟩, .primary⟩]
        tracking := .tracking }
    let g : Facets :=
      { predicates := [called]
        searches := [⟨"name", "it's|w:%", 1⟩]
        includePaths := ["owner"]
        orderings := [⟨⟨"id", .asc⟩, .primary⟩] }
    f.Built ∧ g.Built ∧ f.Plain ∧ g.Plain ∧ f.RegularTimes ∧ g.RegularTimes ∧ f.Legible ∧
      g.Legible ∧ f.canonical = g.canonical ∧
      ∀ (q : Query Keyed) (cancelled : Bool),
        (shapeQuery {} f q).fetch cancelled = (shapeQuery {} g q).fetch cancelled := by
  intro called f g
  have hf : f.Built :=
    @Facets.Built.new Keyed Keyed "job"
      [.filter called true, .search "name" "it's|w:%" 1 true, .include "owner" "person" true,
        .orderBy ⟨"id", .asc⟩ true, .track .tracking] _ rfl
  have hg : g.Built :=
    @Facets.Built.new Keyed Keyed "job"
      [.filter called true, .search "name" "it's|w:%" 1 true, .includePath "owner" true,
        .orderBy ⟨"id", .asc⟩ true] _ rfl
  have hfp : f.Plain := ⟨by decide, by decide, by decide, by decide, by decide⟩
  have hgp : g.Plain := ⟨by decide, by decide, by decide, by decide, by decide⟩
  have hft : f.RegularTimes := by decide
  have hgt : g.RegularTimes := by decide
  have hfl : f.Legible := fun _ path hpath => nomatch hpath
  have hgl : g.Legible := fun _ path hpath hmimics => by
    obtain rfl : "owner" = path := Option.some.inj hpath
    obtain ⟨part, -, hsuffix⟩ := hmimics
    exact absurd (hsuffix.subset List.mem_cons_self) (by decide)
  have h : f.canonical = g.canonical := by decide
  exact ⟨hf, hg, hfp, hgp, hft, hgt, hfl, hgl, h,
    fetch_eq_of_canonical_eq hf hg hfp hgp hft hgt hfl hgl h {}⟩

/-- **A raw path that ends like a grouping** passes for one: the shapes are equal, the rows come in
another order. -/
theorem include_path_passes_for_grouping :
    let f : Facets := { includePaths := ["x|g:team"] }
    let g : Facets := { includePaths := ["x"], groupKey := some "team" }
    let first := sampleJob 1 1 true
    let second := sampleJob 2 2 true
    let third := sampleJob 3 1 true
    let q : Query Keyed := ⟨[first, second, third], [], []⟩
    f.Built ∧ g.Built ∧ f.Plain ∧ g.Plain ∧ f.canonical = g.canonical ∧
      (shapeQuery {} f q).fetch false = .ok [first, second, third] ∧
      (shapeQuery {} g q).fetch false = .ok [first, third, second] := by
  intro f g first second third q
  have hf : f.Built :=
    @Facets.Built.new Keyed Keyed "job" [.includePath "x|g:team" true] _ rfl
  have hg : g.Built :=
    @Facets.Built.new Keyed Keyed "job" [.includePath "x" true, .groupBy "team"] _ rfl
  exact ⟨hf, hg, ⟨by decide, by decide, by decide, by decide, by decide⟩,
    ⟨by decide, by decide, by decide, by decide, by decide⟩, by decide, by cbv, by cbv⟩

end RowSpec
