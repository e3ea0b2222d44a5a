import RowSpec.Proofs.Evaluation.Meaning
import RowSpec.Repository.Reader
import RowSpec.Store.Table

/-!
# Pages of a result

The pages of a specification are cut from the rows that it lists. The total is counted apart, by the
criteria alone.

* `flatMap_chunks`       a list cut into chunks of one size;
* `length_replay`        arranging rows keeps their number, so both counts are the same;
* `run_shapeQuery_cut`   paging cuts what is listed without it;
* `chunk`                the rows of a page, whatever its number;
* `pages_partition`      pages of one size give back all rows, and nothing after the last one.
-/

namespace RowSpec

/-! ## chunks of a list -/

section
variable {α : Type} {xs : List α} {size n : Nat}

theorem flatMap_chunks (xs : List α) (size n : Nat) :
    (List.range n).flatMap (fun i => (xs.drop (i * size)).take size) = xs.take (n * size) := by
  induction n with
  | zero =>
    rw [Nat.zero_mul, List.take_zero]
    rfl
  | succ n ih =>
    rw [List.range_succ, List.flatMap_append, ih, List.flatMap_singleton, Nat.succ_mul,
      List.take_add]

theorem drop_min {limit : Nat} (h : xs.length ≤ limit) (n : Nat) :
    xs.drop (min n limit) = xs.drop n := by
  rcases Nat.le_total n limit with hn | hn
  · rw [Nat.min_eq_left hn]
  · rw [Nat.min_eq_right hn, List.drop_of_length_le h, List.drop_of_length_le (h.trans hn)]

/-- the rows of a page; pages are counted from 1, and page 0 is page 1 -/
def chunk (xs : List α) (size k : Nat) : List α := (xs.drop ((k - 1) * size)).take size

theorem length_chunk {k : Nat} (hk : 1 ≤ k) (h : k * size ≤ xs.length) :
    (chunk xs size k).length = size := by
  have hstep : (k - 1) * size + size = k * size := by
    rw [← Nat.succ_mul, Nat.succ_eq_add_one, Nat.sub_add_cancel hk]
  rw [chunk, List.length_take, List.length_drop]
  omega

theorem chunk_eq_nil {k : Nat} (h : xs.length ≤ (k - 1) * size) : chunk xs size k = [] := by
  rw [chunk, List.drop_of_length_le h, List.take_nil]

end

theorem PageInfo.totalPages_le_iff {p : PageInfo} (hsize : 0 < p.size) {k : Nat} :
    p.totalPages ≤ k ↔ p.total ≤ k * p.size := by
  rw [totalPages, if_neg hsize.ne', Nat.div_le_iff_le_mul_add_pred hsize, Nat.mul_comm k]
  omega

/-! ## arranging -/

namespace Directive

/-- directives that only move rows, if they do anything to them -/
def arranges : Directive → Bool
  | .filter _ | .skip _ | .take _ => false
  | _ => true

end Directive

variable {ρ : Type} [Record ρ]

theorem length_replay {ds : List Directive} (hds : ∀ d ∈ ds, d.arranges) {keys : List SortKey}
    {rows out : List ρ} (h : replay keys ds rows = .ok out) : out.length = rows.length := by
  induction ds generalizing keys rows with
  | nil =>
    cases h
    rfl
  | cons d ds ih =>
    obtain ⟨hd, hrest⟩ := List.forall_mem_cons.mp hds
    have hsorted : ∀ {keys keys'}, (sortBy keys rows >>= replay keys' ds) = .ok out →
        out.length = rows.length := by
      intro keys keys' h
      obtain ⟨sorted, hs, h⟩ := eq_ok_of_bind h
      rw [ih hrest h, ((sortBy_yields keys rows).eq_ok_iff.mp hs).2]
      exact List.length_mergeSort ..
    cases d with
    | groupBy name =>
      obtain ⟨gathered, hg, h⟩ := eq_ok_of_bind h
      rw [ih hrest h, ((cluster_yields name rows).eq_ok_iff.mp hg).2, length_gatherBy]
    | orderBy k => exact hsorted h
    | thenBy k => exact hsorted h
    | filter p => cases hd
    | skip n => cases hd
    | take n => cases hd
    | _ => exact ih hrest h

/-- Directives that end with a cut of whatever rows there are. -/
theorem replay_append_cut {tail : List Directive} {cut : List ρ → List ρ}
    (htail : ∀ keys rows, replay keys tail rows = .ok (cut rows)) (ds : List Directive)
    (keys : List SortKey) (rows : List ρ) :
    replay keys (ds ++ tail) rows = (replay keys ds rows).map cut := by
  rw [replay_append]
  cases replay keys ds rows with
  | error e => rfl
  | ok rows => exact htail (sortAfter keys ds) rows

/-! ## listing without and with paging -/

namespace Facets

/-- the directives between those that select rows and those that cut them -/
def arrangingDirectives (f : Facets) : List Directive :=
  f.includeOrder.map .include ++ (f.groupKey.toList.map .groupBy ++ orderingDirectives f.sortKeys)

theorem shapingDirectives_eq (limits : PageLimits) (f : Facets) :
    f.shapingDirectives limits =
      f.arrangingDirectives ++ (f.pagingDirectives limits ++ f.closingDirectives) := by
  rw [shapingDirectives, arrangingDirectives]
  simp only [List.append_assoc]

theorem arranges_arrangingDirectives (f : Facets) : ∀ d ∈ f.arrangingDirectives, d.arranges := by
  have hordering : ∀ keys, ∀ d ∈ orderingDirectives keys, d.arranges := by
    intro keys d hd
    cases keys with
    | nil => cases hd
    | cons k ks =>
      rcases List.mem_cons.mp hd with rfl | hd
      · rfl
      · obtain ⟨k', _, rfl⟩ := List.mem_map.mp hd
        rfl
  intro d hd
  rcases List.mem_append.mp hd with hd | hd
  · obtain ⟨path, _, rfl⟩ := List.mem_map.mp hd
    rfl
  · rcases List.mem_append.mp hd with hd | hd
    · obtain ⟨name, _, rfl⟩ := List.mem_map.mp hd
      rfl
    · exact hordering _ d hd

/-- the rows selected and arranged, not cut -/
def arranged (f : Facets) (q : Query ρ) : Except FieldError (List ρ) :=
  (criteriaQuery f q).run >>= replay [] f.arrangingDirectives

theorem length_arranged {f : Facets} {q : Query ρ} {out : List ρ} (h : f.arranged q = .ok out) :
    ∃ rows, (criteriaQuery f q).run = .ok rows ∧ out.length = rows.length := by
  obtain ⟨rows, hrows, h⟩ := eq_ok_of_bind h
  exact ⟨rows, hrows, length_replay f.arranges_arrangingDirectives h⟩

theorem run_shapeQuery_cut (limits : PageLimits) (f : Facets) (filters : List Expr)
    (rows : List ρ) :
    (shapeQuery limits f ⟨rows, filters, []⟩).run = (f.arranged ⟨rows, filters, []⟩).map
      (cutRows (f.window limits).1 (f.window limits).2) := by
  rw [run_shapeQuery, arranged, shapingDirectives_eq]
  cases (criteriaQuery f ⟨rows, filters, []⟩).run with
  | error e => rfl
  | ok selected => exact replay_append_cut (replay_cutting limits f) _ [] selected

end Facets

/-! ## pages -/

namespace Reader

variable {spec : Specification ρ} {filters : List Expr} {rows out : List ρ} {limits : PageLimits}
  {defaults : Option Config}

theorem list_result (r : Reader ρ) (hpost : spec.post = none) :
    (r.list spec false).result = (shapeQuery r.limits spec.toFacets r.query).run.mapError
      fun e => .storage (.field e) := by
  show ((((shapeQuery r.limits spec.toFacets r.query).fetch false).map
    (applyPost spec.post)).mapError RepoError.storage) = _
  rw [Query.fetch_live, hpost]
  cases (shapeQuery r.limits spec.toFacets r.query).run <;> rfl

theorem list_eq_ok (hpaging : spec.paging = .none) (hpost : spec.post = none) :
    (list ⟨⟨rows, filters, []⟩, limits, defaults⟩ spec false).result = .ok out ↔
      spec.arranged ⟨rows, filters, []⟩ = .ok out := by
  rw [list_result _ hpost, Facets.run_shapeQuery_cut, Facets.window, hpaging]
  cases spec.arranged ⟨rows, filters, []⟩ with
  | error e => constructor <;> (intro h; cases h)
  | ok got =>
    show Except.ok got = Except.ok out ↔ _
    exact ⟨fun h => congrArg _ (Except.ok.inj h), fun h => congrArg _ (Except.ok.inj h)⟩

/-- A page is cut from the rows arranged, and the total is their number. -/
theorem page_result (hpaging : spec.paging = .none) (hpost : spec.post = none)
    (harranged : spec.arranged ⟨rows, filters, []⟩ = .ok out) (request : PageRequest) :
    (page ⟨⟨rows, filters, []⟩, limits, defaults⟩ spec request false).result =
      .ok ⟨(out.drop (limits.window request).1).take (limits.window request).2,
        PageLimits.effectiveNumber request, limits.effectiveSize request, out.length⟩ := by
  have hset : spec.toFacets.setPage request =
      .ok { spec.toFacets with paging := .page request } := by
    rw [Facets.setPage, hpaging]
  obtain ⟨selected, hselected, hlength⟩ := Facets.length_arranged harranged
  have hcount : (count ⟨⟨rows, filters, []⟩, limits, defaults⟩ spec false).result =
      .ok out.length := by
    show ((((criteriaQuery spec.toFacets ⟨rows, filters, []⟩).fetch false).map
      List.length).mapError RepoError.storage) = _
    rw [Query.fetch_live, hselected, hlength]
    rfl
  rw [page, hset]
  dsimp only
  rw [Traced.result_andThen, hcount]
  show (list ⟨⟨rows, filters, []⟩, limits, defaults⟩
    { spec with paging := .page request } false).result.map _ = _
  rw [list_result _ (by exact hpost), Facets.run_shapeQuery_cut]
  -- how a specification is paged has no part in what it arranges
  show (((spec.arranged ⟨rows, filters, []⟩).map _).mapError _).map _ = _
  rw [harranged]
  rfl

end Reader

/-- **Pages partition the result.** Under a valid configuration, for a table of no more rows than
can be counted, all pages of a specification that lists its rows succeed, with one size and the
number of rows as total. Page by page they give these rows back, each page before the last is full,
page 0 is page 1, and pages after the last are empty. -/
theorem pages_partition (t : Table ρ) (hrows : t.rows.length ≤ countLimit) {config : Config}
    (hconfig : config.validate = .ok config) (defaults : Option Config) {spec : Specification ρ}
    (hpaging : spec.paging = .none) (hpost : spec.post = none) {out : List ρ}
    (hlist : (Reader.list ⟨t.query, config.pages, defaults⟩ spec false).result = .ok out) (n : Nat) :
    ∃ (size last : Nat) (pages : Nat → Page ρ), 1 ≤ size ∧
      (∀ k, (Reader.page ⟨t.query, config.pages, defaults⟩ spec ⟨k, n⟩ false).result =
          .ok (pages k) ∧
        (pages k).info.total = out.length ∧ (pages k).info.size = size ∧
        (pages k).info.totalPages = last) ∧
      (List.range last).flatMap (fun i => (pages (i + 1)).items) = out ∧
      (∀ k, 1 ≤ k → k < last → (pages k).items.length = size) ∧
      pages 0 = pages 1 ∧ ∀ k, last < k → (pages k).items = [] := by
  obtain ⟨-, hdefault, hmax⟩ := Config.validate_eq_ok.mp hconfig
  have harranged : spec.arranged ⟨t.rows, t.filters, []⟩ = .ok out :=
    (Reader.list_eq_ok hpaging hpost).mp hlist
  have hcountable : out.length ≤ countLimit := by
    obtain ⟨selected, hselected, hlength⟩ := Facets.length_arranged harranged
    rw [run_criteriaQuery] at hselected
    rw [hlength, ((keepAll_yields (fun _ => Facets.clauses_ne_nil) t.rows).eq_ok_iff.mp
      hselected).2]
    exact (List.length_filter_le _ _).trans hrows
  let size := config.pages.effectiveSize ⟨1, n⟩
  have hsize : 1 ≤ size := by
    show 1 ≤ min (if n = 0 then _ else n) _
    split <;> omega
  let info (k : Nat) : PageInfo := ⟨max k 1, size, out.length⟩
  let last := (info 1).totalPages
  have hlast : ∀ {k}, last ≤ k ↔ out.length ≤ k * size :=
    (info 1).totalPages_le_iff hsize
  refine ⟨size, last, fun k => ⟨chunk out size k, info k⟩, hsize, fun k => ?_, ?_, ?_, ?_, ?_⟩
  · refine ⟨?_, rfl, rfl, rfl⟩
    have hnumber : max k 1 - 1 = k - 1 := by omega
    rw [Table.query, Reader.page_result hpaging hpost harranged]
    show Except.ok (Page.mk ((out.drop (min ((max k 1 - 1) * size) countLimit)).take size) _) = _
    rw [drop_min hcountable, hnumber]
    rfl
  · show (List.range last).flatMap (fun i => (out.drop (i * size)).take size) = out
    rw [flatMap_chunks]
    exact List.take_of_length_le (hlast.mp le_rfl)
  · intro k hk hbefore
    refine length_chunk hk ?_
    have hmore : ¬ out.length ≤ k * size := fun h => absurd (hlast.mpr h) (by omega)
    omega
  · show Page.mk (chunk out size 0) (info 0) = Page.mk (chunk out size 1) (info 1)
    rfl
  · intro k hk
    exact chunk_eq_nil (hlast.mp (by omega))

/-- Three jobs in pages of two. -/
theorem pages_of_jobs :
    let t : Table Keyed := { rows := [sampleJob 3 1 true, sampleJob 1 1 true, sampleJob 2 2 true] }
    let spec : Specification Keyed := { orderings := [⟨⟨"id", .asc⟩, .primary⟩] }
    let out := [sampleJob 1 1 true, sampleJob 2 2 true, sampleJob 3 1 true]
    (Reader.list ⟨t.query, ({} : Config).pages, none⟩ spec false).result = .ok out ∧
      ∃ (size last : Nat) (pages : Nat → Page Keyed), 1 ≤ size ∧
        (∀ k, (Reader.page ⟨t.query, ({} : Config).pages, none⟩ spec ⟨k, 2⟩ false).result =
            .ok (pages k) ∧
          (pages k).info.total = 3 ∧ (pages k).info.size = size ∧
          (pages k).info.totalPages = last) ∧
        (List.range last).flatMap (fun i => (pages (i + 1)).items) = out ∧
        (∀ k, 1 ≤ k → k < last → (pages k).items.length = size) ∧
        pages 0 = pages 1 ∧ ∀ k, last < k → (pages k).items = [] := by
  intro t spec out
  have hlist : (Reader.list ⟨t.query, ({} : Config).pages, none⟩ spec false).result = .ok out := by
    cbv
  exact ⟨hlist, pages_partition t (by decide) rfl none rfl rfl hlist 2⟩

end RowSpec
