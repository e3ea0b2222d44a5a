import RowSpec.Proofs.Query.Filtering
import RowSpec.Proofs.Query.Ordering

/-!
# Replaying directives

One stretch of directives at a time, whatever directives come after it.

* `replay_append`                     directives after others go on with their rows and their sort;
* `replay_filters`, `replay_silent`   filters one after the other; directives that select nothing;
* `replay_thenBy`                     an ordering and its tie breaks are one sort by all keys;
* `cutRows`, `replay_paging`          skipping, then taking;
* `Query.fetch_shape_of_replay`       directives that replay alike stand for each other;
* `Query.run_eq`                      default filters and leading filters are one list of filters.
-/

namespace RowSpec

variable {ρ : Type} [Record ρ] {keys : List SortKey} {ds : List Directive} {rows out : List ρ}
  {fault : FieldError → Prop}

/-! ## stretches -/

/-- the keys that rows are sorted by after the directives -/
def sortAfter (keys : List SortKey) : List Directive → List SortKey
  | [] => keys
  | .orderBy k :: ds => sortAfter [k] ds
  | .thenBy k :: ds => sortAfter (keys ++ [k]) ds
  | _ :: ds => sortAfter keys ds

theorem replay_append (keys : List SortKey) (ds es : List Directive) (rows : List ρ) :
    replay keys (ds ++ es) rows = replay keys ds rows >>= replay (sortAfter keys ds) es := by
  induction ds generalizing keys rows with
  | nil => rfl
  | cons d ds ih => cases d <;> simp only [List.cons_append, replay, sortAfter, ih, bind_assoc]

/-! ## filters -/

theorem replay_filters (keys : List SortKey) (ps : List Expr) (ds : List Directive)
    (rows : List ρ) :
    replay keys (ps.map .filter ++ ds) rows = keepAll ps rows >>= replay keys ds := by
  induction ps generalizing rows with
  | nil => rfl
  | cons p ps ih =>
    show (keep p rows >>= replay keys (ps.map .filter ++ ds)) = _
    rw [keepAll]
    cases keep p rows with
    | error e => rfl
    | ok kept => exact ih kept

/-- Directives that leave the rows and their sort as they are. -/
def Directive.isSilent : Directive → Bool
  | .ignoreQueryFilters | .include _ | .tracking _ | .splitQuery => true
  | _ => false

theorem replay_silent {silent : List Directive} (h : ∀ d ∈ silent, d.isSilent)
    (keys : List SortKey) (ds : List Directive) (rows : List ρ) :
    replay keys (silent ++ ds) rows = replay keys ds rows := by
  induction silent with
  | nil => rfl
  | cons d silent ih =>
    obtain ⟨hd, hrest⟩ := List.forall_mem_cons.mp h
    rw [List.cons_append]
    cases d <;> first | exact ih hrest | cases hd

/-! ## grouping -/

def gatherRows (groupKey : Option String) (rows : List ρ) : List ρ :=
  match groupKey with
  | none => rows
  | some name => gatherBy (Record.keyValue name) rows

theorem mem_gatherRows {groupKey : Option String} (row : ρ) :
    row ∈ gatherRows groupKey rows ↔ row ∈ rows := by
  cases groupKey with
  | none => exact Iff.rfl
  | some name => exact mem_gatherBy

theorem replay_groupBy (groupKey : Option String)
    (h : Yields (replay keys ds (gatherRows groupKey rows)) fault out) :
    Yields (replay keys (groupKey.toList.map .groupBy ++ ds) rows)
      (fun e => (∃ name ∈ groupKey, Lacks name rows e) ∨ fault e) out := by
  cases groupKey with
  | none =>
    apply h.congr
    intro e
    simp
  | some name =>
    apply ((cluster_yields name rows).bind fun _ => h).congr
    intro e
    simp

/-! ## ordering -/

theorem lacks_orderRows {keys : List SortKey} {name : String} {e : FieldError} :
    Lacks name (orderRows keys rows) e ↔ Lacks name rows e := lacks_congr mem_orderRows

theorem replay_thenBy (keys more : List SortKey) (hkeys : ∀ k ∈ keys, ∀ e, ¬ Lacks k.field rows e)
    (h : ∀ keys', Yields (replay keys' ds (orderRows (keys ++ more) rows)) fault out) :
    Yields (replay keys (more.map .thenBy ++ ds) (orderRows keys rows))
      (fun e => (∃ k ∈ more, Lacks k.field rows e) ∨ fault e) out := by
  induction more generalizing keys with
  | nil =>
    rw [List.append_nil] at h
    refine (h keys).imp (fun _ => .inr) fun hnone => ⟨?_, rfl⟩
    rintro e (⟨_, ⟨⟩, _⟩ | he)
    exact hnone e he
  | cons k more ih =>
    -- the rows are sorted again, by the keys so far and the new one
    have hsort : Yields (sortBy (keys ++ [k]) (orderRows keys rows)) (Lacks k.field rows)
        (orderRows (keys ++ [k]) rows) := by
      have hs := sortBy_yields (keys ++ [k]) (orderRows keys rows)
      rw [orderRows_orderRows] at hs
      apply hs.congr
      intro e
      simp only [lacks_orderRows, List.mem_append, List.mem_singleton]
      constructor
      · rintro ⟨k', hk' | rfl, hl⟩
        · exact absurd hl (hkeys k' hk' e)
        · exact hl
      · exact fun hl => ⟨k, .inr rfl, hl⟩
    have hrest (hk : ∀ e, ¬ Lacks k.field rows e) := by
      refine ih (keys ++ [k]) ?_ ?_
      · intro k' hk'
        rcases List.mem_append.mp hk' with hk' | hk'
        · exact hkeys k' hk'
        · rw [List.mem_singleton.mp hk']
          exact hk
      · rw [List.append_assoc]
        exact h
    apply (hsort.bind hrest).congr
    intro e
    simp [or_assoc]

/-- The directives of an ordering: by the first key, ties by the others. -/
def orderingDirectives : List SortKey → List Directive
  | [] => []
  | k :: ks => .orderBy k :: ks.map .thenBy

theorem replay_ordering (keys order : List SortKey)
    (h : ∀ keys', Yields (replay keys' ds (orderRows order rows)) fault out) :
    Yields (replay keys (orderingDirectives order ++ ds) rows)
      (fun e => (∃ k ∈ order, Lacks k.field rows e) ∨ fault e) out := by
  cases order with
  | nil =>
    rw [orderRows_nil] at h
    apply (h keys).congr
    intro e
    simp
  | cons k more =>
    have hsort := sortBy_yields [k] rows
    have hrest (hk : ∀ e, ¬ ∃ k' ∈ [k], Lacks k'.field rows e) :=
      replay_thenBy [k] more (fun k' hk' e hl => hk e ⟨k', hk', hl⟩) h
    apply (hsort.bind hrest).congr
    intro e
    simp [or_assoc]

/-! ## paging -/

/-- the rows after the first ones, up to a number -/
def cutRows (skip take : Option Nat) (rows : List ρ) : List ρ :=
  match take with
  | none => rows.drop (skip.getD 0)
  | some n => (rows.drop (skip.getD 0)).take n

theorem replay_paging (keys : List SortKey) (skip take : Option Nat) (ds : List Directive)
    (rows : List ρ) :
    replay keys (skip.toList.map .skip ++ take.toList.map .take ++ ds) rows =
      replay keys ds (cutRows skip take rows) := by
  cases skip <;> cases take <;> rfl

/-! ## queries -/

theorem Query.fetch_live (q : Query ρ) : q.fetch false = q.run.mapError .field := by
  delta Query.fetch
  rw [if_neg Bool.false_ne_true]
  cases q.run <;> rfl

/-- Directives that replay alike may stand for each other, after whatever others. -/
theorem Query.fetch_shape_of_replay (q : Query ρ) (before : List Directive)
    {ds es : List Directive} (hignore : .ignoreQueryFilters ∈ ds ↔ .ignoreQueryFilters ∈ es)
    (hreplay : ∀ keys (rows : List ρ), replay keys ds rows = replay keys es rows)
    (cancelled : Bool) :
    (q.shape (before ++ ds)).fetch cancelled = (q.shape (before ++ es)).fetch cancelled := by
  have hignores : (q.shape (before ++ ds)).ignoresQueryFilters =
      (q.shape (before ++ es)).ignoresQueryFilters := by
    rw [ignoresQueryFilters, ignoresQueryFilters, shape, shape, Bool.eq_iff_iff,
      List.contains_iff_mem, List.contains_iff_mem]
    simp only [List.mem_append, hignore]
  have hrun : (q.shape (before ++ ds)).run = (q.shape (before ++ es)).run := by
    rw [run, run, hignores]
    congr 1
    funext rows
    show replay [] (q.directives ++ (before ++ ds)) rows =
      replay [] (q.directives ++ (before ++ es)) rows
    rw [← List.append_assoc, ← List.append_assoc, replay_append [] (q.directives ++ before) ds,
      replay_append [] (q.directives ++ before) es]
    congr 1
    funext rows
    exact hreplay _ rows
  cases cancelled with
  | true => rfl
  | false => rw [fetch_live, fetch_live, hrun]

theorem Query.run_eq {q : Query ρ} {first : List Directive} {ps : List Expr} {ds : List Directive}
    (hq : q.directives = first ++ ps.map .filter ++ ds) (hfirst : ∀ d ∈ first, d.isSilent) :
    q.run = keepAll ((if q.ignoresQueryFilters then [] else q.filters) ++ ps) q.rows >>=
      replay [] ds := by
  rw [Query.run, hq, List.append_assoc, keepAll_append, bind_assoc]
  congr 1
  funext rows
  rw [replay_silent hfirst, replay_filters]

end RowSpec
