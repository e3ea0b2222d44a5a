import RowSpec.Proofs.Record.LawfulIdentifiers
import RowSpec.Proofs.Repository.BulkChanges
import RowSpec.Proofs.Repository.Paging
import RowSpec.Proofs.Store.Identifiers
import RowSpec.Proofs.Value.Order

/-!
# A repository as a map

Writes find rows by comparing identifiers over all rows. Reading by identifier goes another way,
through a predicate on the field of the identifier, a query and its first row, and compares values.
If identifiers are lawful, both see the table as a map from identifiers to rows that keeps its keys
in the order of their insertion. No two keys are equal under the equality of the identifiers.

* `OrderedMap`            the map, with `insert`, `update` and `delete`;
* `RowCall`               single-row calls and plain lists, `OrderedMap.answer` what a map answers;
* `Mirrors`               a table has the rows of a map;
* `Mirrors.insert`, `Mirrors.update`, `Mirrors.delete`   and keeps having them;
* `Reader.getById_result`, `Reader.list_plain_result`    what is read are the rows of the table;
* `outcomes_as_map`       all calls through a repository are answered as by the map.
-/

namespace RowSpec

/-! ## maps -/

/-- A finite map that remembers the order in which its keys were inserted, equal ones as one. -/
structure OrderedMap (κ α : Type) [BEq κ] where
  keys : List κ
  get? : κ → Option α
  distinct : keys.Pairwise fun j k => (j == k) = false
  get?_congr : ∀ j k, j == k → get? j = get? k
  contains_keys : ∀ k, keys.contains k = (get? k).isSome

namespace OrderedMap

section
variable {κ α : Type} [BEq κ]

/-- the values, in the order of their keys -/
def values (m : OrderedMap κ α) : List α := m.keys.filterMap m.get?

/-- the look-up with the answer for one key replaced -/
def put (get? : κ → Option α) (k : κ) (x : Option α) : κ → Option α :=
  fun j => if j == k then x else get? j

variable [EquivBEq κ]

theorem put_congr {get? : κ → Option α} (h : ∀ i j, i == j → get? i = get? j) (k : κ)
    (x : Option α) (i j : κ) (hij : i == j) : put get? k x i = put get? k x j := by
  rw [put, put, BEq.congr_left hij, h i j hij]

theorem contains_without (keys : List κ) (j k : κ) :
    (keys.filter fun i => !(i == k)).contains j = (keys.contains j && !(j == k)) := by
  rw [Bool.eq_iff_iff, Bool.and_eq_true, List.contains_iff_exists_mem_beq,
    List.contains_iff_exists_mem_beq]
  constructor
  · rintro ⟨i, hi, hji⟩
    obtain ⟨hi, hik⟩ := List.mem_filter.mp hi
    exact ⟨⟨i, hi, hji⟩, by rwa [BEq.congr_left hji]⟩
  · rintro ⟨⟨i, hi, hji⟩, hjk⟩
    exact ⟨i, List.mem_filter.mpr ⟨hi, by rwa [← BEq.congr_left hji]⟩, hji⟩

/-- A new key goes to the end. -/
def insert (m : OrderedMap κ α) (k : κ) (a : α) (h : (m.get? k).isNone) : OrderedMap κ α where
  keys := m.keys ++ [k]
  get? := put m.get? k (some a)
  distinct := by
    have hnew : m.keys.contains k = false := by
      rw [m.contains_keys, Option.isNone_iff_eq_none.mp h, Option.isSome_none]
    refine List.pairwise_append.mpr ⟨m.distinct, List.pairwise_singleton _ k, fun j hj i hi => ?_⟩
    rw [List.mem_singleton.mp hi, Bool.eq_false_iff]
    exact fun hjk => Bool.false_ne_true
      (hnew.symm.trans (List.contains_iff_exists_mem_beq.mpr ⟨j, hj, BEq.symm hjk⟩))
  get?_congr := put_congr m.get?_congr k (some a)
  contains_keys j := by
    by_cases hj : j == k <;> simp [hj, m.contains_keys, put]

/-- The value of a key that is there gives way, at its place. -/
def update (m : OrderedMap κ α) (k : κ) (a : α) : OrderedMap κ α where
  keys := m.keys
  get? := put m.get? k ((m.get? k).map fun _ => a)
  distinct := m.distinct
  get?_congr := put_congr m.get?_congr k _
  contains_keys j := by
    by_cases hj : j == k
    · simp [hj, m.contains_keys, put, m.get?_congr j k hj]
    · simp [hj, m.contains_keys, put]

def delete (m : OrderedMap κ α) (k : κ) : OrderedMap κ α where
  keys := m.keys.filter fun j => !(j == k)
  get? := put m.get? k none
  distinct := m.distinct.filter _
  get?_congr := put_congr m.get?_congr k none
  contains_keys j := by
    rw [contains_without, m.contains_keys, put]
    by_cases hj : j == k <;> simp [hj]

variable (m : OrderedMap κ α) (k : κ) (a : α)

@[simp] theorem keys_insert (h : (m.get? k).isNone) : (m.insert k a h).keys = m.keys ++ [k] := rfl

@[simp] theorem get?_insert (h : (m.get? k).isNone) :
    (m.insert k a h).get? = put m.get? k (some a) := rfl

@[simp] theorem keys_update : (m.update k a).keys = m.keys := rfl

@[simp] theorem get?_update :
    (m.update k a).get? = put m.get? k ((m.get? k).map fun _ => a) := rfl

@[simp] theorem keys_delete : (m.delete k).keys = m.keys.filter fun j => !(j == k) := rfl

@[simp] theorem get?_delete : (m.delete k).get? = put m.get? k none := rfl

end

end OrderedMap

variable {ε : Type} [Entity ε]

/-! ## calls -/

/-- The calls on single rows, and lists of all rows. -/
inductive RowCall (ε : Type) [Entity ε]
  | insert (row : ε)
  | update (row : ε)
  | delete (id : Entity.Id ε)
  | get (id : Entity.Id ε)
  | list (spec : Specification ε)

namespace RowCall

/-- The call through a repository, with a live token. -/
def action (r : Repository) (idField : String) : RowCall ε → Action ε
  | insert row => .change r (.insert row) false
  | update row => .change r (.update row) false
  | delete id => .change r (.delete id) false
  | get id => .read r (.get idField id) false
  | list spec => .read r (.list spec) false

end RowCall

section
variable [EquivBEq (Entity.Id ε)]

/-- What a map answers to a call, and the map afterwards. -/
def OrderedMap.answer (idField : String) (m : OrderedMap (Entity.Id ε) ε) :
    RowCall ε → OrderedMap (Entity.Id ε) ε × Outcome ε
  | .insert row =>
    if h : (m.get? (Entity.id row)).isNone then
      (m.insert (Entity.id row) row h, .changed (.ok (.inserted row)))
    else
      (m, .changed (.error (.storage (.failed (.duplicateKey idField (Entity.idValue row))))))
  | .update row =>
    (m.update (Entity.id row) row, .changed (.ok (.changed (m.get? (Entity.id row)).isSome)))
  | .delete id => (m.delete id, .changed (.ok (.changed (m.get? id).isSome)))
  | .get id => (m, .found (.ok (.row (m.get? id))))
  | .list _ => (m, .found (.ok (.rows m.values)))

def OrderedMap.answers (idField : String) (m : OrderedMap (Entity.Id ε) ε) :
    List (RowCall ε) → List (Outcome ε)
  | [] => []
  | c :: cs => (m.answer idField c).2 :: (m.answer idField c).1.answers idField cs

def OrderedMap.after (idField : String) (m : OrderedMap (Entity.Id ε) ε) (cs : List (RowCall ε)) :
    OrderedMap (Entity.Id ε) ε :=
  cs.foldl (fun m c => (m.answer idField c).1) m

/-! ## tables -/

omit [EquivBEq (Entity.Id ε)] in
theorem isSome_find? (id : Entity.Id ε) (rows : List ε) :
    (rows.find? (hasId id)).isSome = rows.any (hasId id) := by
  rw [Bool.eq_iff_iff, List.find?_isSome, List.any_eq_true]

omit [EquivBEq (Entity.Id ε)] in
theorem hasId_congr {i j : Entity.Id ε} (h : i == j) : (hasId i : ε → Bool) = hasId j :=
  funext fun _ => BEq.congr_right h

theorem hasId_self (row : ε) : hasId (Entity.id row) row = true := BEq.rfl

/-- Where identifiers are distinct, a row is found by its own. -/
theorem DistinctIds.find? {rows : List ε} (h : DistinctIds rows) {row : ε} (hrow : row ∈ rows) :
    rows.find? (hasId (Entity.id row)) = some row := by
  induction rows with
  | nil => cases hrow
  | cons first rest ih =>
    obtain ⟨hfirst, hrest⟩ := distinctIds_cons.mp h
    rcases List.mem_cons.mp hrow with rfl | hrow
    · exact List.find?_cons_of_pos (hasId_self row)
    · rw [List.find?_cons_of_neg (Bool.eq_false_iff.mp (hfirst row hrow)), ih hrest hrow]

theorem find?_replaceRow (new : ε) (rows : List ε) :
    (fun id => (replaceRow new rows).find? (hasId id)) =
      OrderedMap.put (fun id => rows.find? (hasId id)) (Entity.id new)
        ((rows.find? (hasId (Entity.id new))).map fun _ => new) := by
  funext id
  rw [OrderedMap.put]
  by_cases hid : id == Entity.id new
  · rw [if_pos hid, hasId_congr hid]
    induction rows with
    | nil => rfl
    | cons row rest ih =>
      by_cases hrow : hasId (Entity.id new) row = true
      · simp [replaceRow, hrow, hasId_self]
      · simp [replaceRow, hrow, ih]
  · rw [if_neg hid]
    have hnew : hasId id new = false := Bool.eq_false_iff.mpr fun h => hid (BEq.symm h)
    induction rows with
    | nil => rfl
    | cons row rest ih =>
      by_cases hrow : hasId (Entity.id new) row = true
      · -- the row that gives way has an identifier equal to the new one, so it is not found either
        have hold : hasId id row = false :=
          Bool.eq_false_iff.mpr fun h => hid (BEq.trans (BEq.symm h) hrow)
        simp [replaceRow, hrow, hnew, hold]
      · simp [replaceRow, hrow, List.find?_cons, ih]

omit [EquivBEq (Entity.Id ε)] in
theorem find?_withoutId (id : Entity.Id ε) (rows : List ε) :
    (fun i => (withoutId id rows).find? (hasId i)) =
      OrderedMap.put (fun i => rows.find? (hasId i)) id none := by
  funext i
  rw [OrderedMap.put]
  by_cases hi : i == id
  · rw [if_pos hi, hasId_congr hi]
    simp [withoutId]
  · have hother : (fun row : ε => decide ((!hasId id row) = true ∧ hasId i row = true)) =
        hasId i := by
      funext row
      by_cases h : hasId i row = true
      · have hno : hasId id row = false :=
          Bool.eq_false_iff.mpr fun hid => hi (BEq.trans (BEq.symm h) hid)
        simp [h, hno]
      · simp [h]
    rw [if_neg hi, withoutId, List.find?_filter, hother]

/-- The table has the rows of the map, in its order. -/
structure Mirrors (rows : List ε) (m : OrderedMap (Entity.Id ε) ε) : Prop where
  distinct : DistinctIds rows
  keys : List.Forall₂ (fun k row => hasId k row) m.keys rows
  get : m.get? = fun id => rows.find? (hasId id)

omit [EquivBEq (Entity.Id ε)] in
/-- The keys need not be those of the new row, as long as they are equal to them. -/
theorem forall₂_replaceRow {keys : List (Entity.Id ε)} {rows : List ε}
    (h : List.Forall₂ (fun k row => hasId k row) keys rows) (new : ε) :
    List.Forall₂ (fun k row => hasId k row) keys (replaceRow new rows) := by
  induction h with
  | nil => exact .nil
  | @cons k row keys rest hk hrest ih =>
    rw [replaceRow]
    split
    · rename_i hid
      exact .cons (BEq.trans (BEq.symm hid) hk) hrest
    · exact .cons hk ih

namespace Mirrors

variable {rows : List ε} {m : OrderedMap (Entity.Id ε) ε}

omit [EquivBEq (Entity.Id ε)] in
theorem isSome (h : Mirrors rows m) (id : Entity.Id ε) :
    (m.get? id).isSome = rows.any (hasId id) := by
  rw [h.get]
  exact isSome_find? id rows

theorem values (h : Mirrors rows m) : m.values = rows := by
  have hkeys : ∀ {keys : List (Entity.Id ε)} {rows : List ε},
      List.Forall₂ (fun k row => hasId k row) keys rows →
        keys.filterMap m.get? = rows.filterMap fun row => m.get? (Entity.id row) := by
    intro keys rows hforall
    induction hforall with
    | nil => rfl
    | cons hk _ ih =>
      rw [List.filterMap_cons, List.filterMap_cons, m.get?_congr _ _ (BEq.symm hk), ih]
  calc m.values
      = rows.filterMap (fun row => m.get? (Entity.id row)) := hkeys h.keys
    _ = rows.filterMap some := List.filterMap_congr fun row hrow => by
        rw [h.get]
        exact h.distinct.find? hrow
    _ = rows := List.filterMap_some

theorem insert (h : Mirrors rows m) {row : ε} (hnew : (m.get? (Entity.id row)).isNone) :
    Mirrors (rows ++ [row]) (m.insert (Entity.id row) row hnew) where
  distinct := by
    refine h.distinct.concat ?_
    rw [← h.isSome, Option.isNone_iff_eq_none.mp hnew, Option.isSome_none]
  keys := List.rel_append h.keys (.cons (hasId_self row) .nil)
  get := by
    have hfree : rows.find? (hasId (Entity.id row)) = none := by
      simpa [h.get] using hnew
    rw [OrderedMap.get?_insert, h.get]
    funext id
    rw [List.find?_append, OrderedMap.put]
    by_cases hid : id == Entity.id row
    · rw [if_pos hid, hasId_congr hid, hfree]
      simp [hasId_self]
    · have hother : hasId id row = false := Bool.eq_false_iff.mpr fun h => hid (BEq.symm h)
      rw [if_neg hid]
      simp [hother]

theorem update (h : Mirrors rows m) (row : ε) :
    Mirrors (replaceRow row rows) (m.update (Entity.id row) row) where
  distinct := h.distinct.replaceRow row
  keys := forall₂_replaceRow h.keys row
  get := by
    rw [find?_replaceRow, OrderedMap.get?_update, h.get]

theorem delete (h : Mirrors rows m) (id : Entity.Id ε) :
    Mirrors (withoutId id rows) (m.delete id) where
  distinct := List.Pairwise.sublist (List.filter_sublist.map _) h.distinct
  keys := by
    refine List.rel_filter (fun k row hk => ?_) h.keys
    have hsame : (k == id) = hasId id row := BEq.congr_left (BEq.symm hk)
    show (!(k == id)) = true ↔ (!hasId id row) = true
    rw [hsame]
  get := by
    rw [find?_withoutId, OrderedMap.get?_delete, h.get]

end Mirrors

/-- the map of the rows of a table -/
def OrderedMap.ofRows (rows : List ε) (h : DistinctIds rows) : OrderedMap (Entity.Id ε) ε where
  keys := ids rows
  get? id := rows.find? (hasId id)
  distinct := h
  get?_congr i j hij := by rw [hasId_congr hij]
  contains_keys id := by
    rw [isSome_find?, List.contains_eq_any_beq, ids, List.any_map]
    exact congrArg rows.any (funext fun _ => BEq.comm)

theorem mirrors_ofRows {rows : List ε} (h : DistinctIds rows) :
    Mirrors rows (OrderedMap.ofRows rows h) :=
  ⟨h, List.forall₂_map_left_iff.mpr (List.forall₂_same.mpr fun row _ => hasId_self row), rfl⟩

end

/-! ## reading -/

/-- Equality of two values of one kind, null included. -/
theorem Comparison.eq_holds {a b : Value} (h : a.kind = b.kind) :
    Comparison.eq.holds a b = .ok (decide (a = b)) := by
  rw [holds]
  by_cases ha : a = .null
  · have hb : b = .null := Value.kind_eq_null.mp (h.symm.trans (Value.kind_eq_null.mpr ha))
    simp [ha, hb, acceptsNull]
  · have hb : b ≠ .null := fun hb =>
      ha (Value.kind_eq_null.mp (h.trans (Value.kind_eq_null.mpr hb)))
    have ho : a.compare? b = some (a.sortOrder b) := Value.compare?_eq_some_iff.mpr ⟨h, rfl⟩
    have haccepts : (a.sortOrder b == .eq) = decide (a = b) := by
      rw [Bool.eq_iff_iff, beq_iff_eq, decide_eq_true_iff, Value.sortOrder_eq_eq_iff]
    rw [if_neg (by simp [ha, hb]), ho]
    exact congrArg Except.ok haccepts

/-- The field of the identifier holds the identifier, as a value. -/
def Identified (idField : String) (row : ε) : Prop :=
  Record.field row idField = some (Entity.idValue row)

section
variable [LawfulIdentifier (Entity.Id ε)] {idField : String} {id : Entity.Id ε}

/-- **Lawful identifiers**: the predicate compares values, and sees what the equality of the
identifiers sees. -/
theorem Identified.holds {row : ε} (h : Identified idField row) :
    ((FieldRef.mk idField).compare .eq (Identifier.toValue id)).holds row =
      .ok (hasId id row) := by
  have hfetch : Record.fetch row idField = .ok (Entity.idValue row) := Record.fetch_of_some h
  have hkind : (Entity.idValue row).kind = (Identifier.toValue id).kind :=
    LawfulIdentifier.kind_eq _ _
  have hsame : decide (Entity.idValue row = Identifier.toValue id) = hasId id row := by
    rw [Bool.eq_iff_iff, decide_eq_true_iff]
    exact (LawfulIdentifier.same_iff (Entity.id row) id).symm
  rw [FieldRef.compare, Expr.holds, Expr.operandOf, hfetch, ← hsame]
  exact Comparison.eq_holds hkind

theorem keep_byId {rows : List ε} (h : ∀ row ∈ rows, Identified idField row) :
    keep ((FieldRef.mk idField).compare .eq (Identifier.toValue id)) rows =
      .ok (rows.filter (hasId id)) := by
  refine (keep_yields _ rows).eq_ok_iff.mpr ⟨?_, List.filter_congr fun row hrow => ?_⟩
  · rintro e ⟨row, hrow, he⟩
    rw [(h row hrow).holds] at he
    cases he
  · exact (Expr.accepts_of_ok (h row hrow).holds).symm

end

/-- Nothing but predicates decides which rows are read and in which order. -/
structure Facets.Unarranged (f : Facets) : Prop where
  searches : f.searches = []
  groupKey : f.groupKey = none
  orderings : f.orderings = []

theorem Facets.Unarranged.arranged_eq {f : Facets} (h : f.Unarranged) (rows : List ε) :
    f.arranged ⟨rows, [], []⟩ = keepAll f.predicates rows := by
  have hcriteria : Clause.exprs (f.clauses []) = f.predicates := by
    rw [exprs_clauses, criteria, searchExprs_eq, searchClauses, h.searches]
    cases f.ignoreQueryFilters <;> simp [Clause.exprs]
  have hkeys : f.sortKeys = [] := by
    rw [sortKeys, h.orderings]
    rfl
  have harranging : ∀ kept : List ε, replay [] f.arrangingDirectives kept = .ok kept := by
    intro kept
    rw [arrangingDirectives, h.groupKey, hkeys,
      replay_silent (by simp [Directive.isSilent])]
    rfl
  rw [arranged, run_criteriaQuery, hcriteria]
  cases keepAll f.predicates rows with
  | error e => rfl
  | ok kept => exact harranging kept

/-- lists all rows, as they are -/
structure Specification.Plain (spec : Specification ε) : Prop extends spec.Unarranged where
  predicates : spec.predicates = []
  paging : spec.paging = .none
  post : spec.post = none

namespace Reader

variable {rows : List ε} {limits : PageLimits} {defaults : Option Config}

theorem list_plain_result {spec : Specification ε} (h : spec.Plain) :
    (list ⟨⟨rows, [], []⟩, limits, defaults⟩ spec false).result = .ok rows := by
  rw [list_eq_ok h.paging h.post, h.toUnarranged.arranged_eq, h.predicates]
  rfl

omit [Entity ε] in
theorem narrowed_eq {spec : Specification ε} (hpost : spec.post = none)
    (hpaging : spec.paging = .none) :
    narrowed spec = { spec with paging := .window none (some 1) } := by
  rw [narrowed, if_neg (by simp [hpost]), Facets.setTake, if_neg (by decide), hpaging]

/-- **Reading by identifier** gives the first row of that identifier. -/
theorem getById_result [LawfulIdentifier (Entity.Id ε)] {idField : String} {id : Entity.Id ε}
    (h : ∀ row ∈ rows, Identified idField row) :
    (getById ⟨⟨rows, [], []⟩, limits, defaults⟩ idField id false).result =
      .ok (rows.find? (hasId id)) := by
  let f : Facets := { predicates := [(FieldRef.mk idField).compare .eq (Identifier.toValue id)] }
  have hkept : f.arranged ⟨rows, [], []⟩ = .ok (rows.filter (hasId id)) := by
    rw [Facets.Unarranged.arranged_eq ⟨rfl, rfl, rfl⟩, keepAll, keep_byId h]
    rfl
  rw [getById, first, narrowed_eq rfl rfl]
  show (list _ _ false).result.map List.head? = _
  rw [list_result _ rfl, Facets.run_shapeQuery_cut]
  -- how many rows are taken has no part in what is kept
  show (((f.arranged ⟨rows, [], []⟩).map _).mapError _).map _ = _
  rw [hkept]
  show Except.ok ((rows.filter (hasId id)).take 1).head? = _
  rw [List.head?_take, if_neg Nat.one_ne_zero, List.head?_filter]

end Reader

/-! ## refinement -/

/-- Rows keep their identifier in its field, and lists are plain. -/
def RowCall.Suits (idField : String) : RowCall ε → Prop
  | insert row | update row => Identified idField row
  | delete _ | get _ => True
  | list spec => spec.Plain

/-- What each call finds: a table without default filters that has the rows of the map. -/
structure Refines (idField : String) (t : Table ε) (m : OrderedMap (Entity.Id ε) ε) : Prop where
  filters : t.filters = []
  idField_eq : t.idField = idField
  identified : ∀ row ∈ t.rows, Identified idField row
  mirrors : Mirrors t.rows m

namespace Refines

variable {idField : String} {t : Table ε} {m m' : OrderedMap (Entity.Id ε) ε}

theorem withRows (h : Refines idField t m) {rows : List ε} (hm : Mirrors rows m')
    (hrows : ∀ row ∈ rows, Identified idField row) :
    Refines idField (t.withRows rows) m' :=
  ⟨h.filters, h.idField_eq, hrows, hm⟩

theorem query_eq (h : Refines idField t m) : t.query = ⟨t.rows, [], []⟩ := by
  rw [Table.query, h.filters]

variable {ws : Workspace ε} {r : Repository}

/-- A change that succeeds. -/
theorem change (h : Refines idField (r.seen ws.storage) m) {c : Change ε} {rows : List ε}
    {effect : Effect ε} (happly : (r.seen ws.storage).apply (c.write r.clock) = .ok (rows, effect))
    (hm : Mirrors rows m') (hrows : ∀ row ∈ rows, Identified idField row) :
    (ws.perform (.change r c false)).2.2 = .changed (.ok effect) ∧
      Refines idField (r.seen (ws.perform (.change r c false)).1.storage) m' := by
  constructor
  · show Outcome.changed (r.change ws.storage c false).2.result = _
    rw [r.change_result, happly]
    rfl
  · show Refines idField (r.seen (r.change ws.storage c false).1) m'
    rw [r.seen_change, Table.rowsAfter_of_ok happly]
    exact h.withRows hm hrows

/-- A change that fails. -/
theorem refused (h : Refines idField (r.seen ws.storage) m) {c : Change ε} {e : StorageError}
    (hfails : (r.seen ws.storage).apply (c.write r.clock) = .error e) :
    (ws.perform (.change r c false)).2.2 = .changed (.error (.storage e)) ∧
      Refines idField (r.seen (ws.perform (.change r c false)).1.storage) m := by
  constructor
  · show Outcome.changed (r.change ws.storage c false).2.result = _
    rw [r.change_result, hfails]
    rfl
  · show Refines idField (r.seen (r.change ws.storage c false).1) m
    rw [r.seen_change, Table.rowsAfter_of_error hfails, Table.withRows_rows]
    exact h

variable [LawfulIdentifier (Entity.Id ε)]

/-- **One call** is answered as by the map, and leaves the table with the rows of the map. -/
theorem perform (h : Refines idField (r.seen ws.storage) m) {c : RowCall ε}
    (hc : c.Suits idField) :
    (ws.perform (c.action r idField)).2.2 = (m.answer idField c).2 ∧
      Refines idField (r.seen (ws.perform (c.action r idField)).1.storage)
        (m.answer idField c).1 := by
  have hfound := h.mirrors.isSome
  have hreader : r.reader ws.storage = ⟨⟨(r.seen ws.storage).rows, [], []⟩, r.limits, r.defaults⟩ :=
    congrArg (Reader.mk · r.limits r.defaults) h.query_eq
  cases c with
  | insert row =>
    rw [OrderedMap.answer]
    split
    · rename_i hnew
      have hfree : ¬ (r.seen ws.storage).rows.any (hasId (Entity.id row)) = true := by
        rw [← hfound, Option.isNone_iff_eq_none.mp hnew]
        exact Bool.false_ne_true
      refine h.change (if_neg hfree) (h.mirrors.insert hnew) fun row' hrow' => ?_
      rcases List.mem_append.mp hrow' with hrow' | hrow'
      · exact h.identified row' hrow'
      · exact List.mem_singleton.mp hrow' ▸ hc
    · rename_i hold
      have htaken : (r.seen ws.storage).rows.any (hasId (Entity.id row)) = true := by
        rw [← hfound, ← Option.not_isNone, Bool.not_eq_true']
        exact Bool.eq_false_iff.mpr hold
      have hfails : (r.seen ws.storage).apply (.insert row) =
          .error (.failed (.duplicateKey idField (Entity.idValue row))) :=
        h.idField_eq ▸ if_pos htaken
      exact h.refused (c := .insert row) hfails
  | update row =>
    rw [OrderedMap.answer, hfound]
    exact h.change rfl (h.mirrors.update row) fun row' hrow' =>
      (mem_replaceRow hrow').elim (fun he => he ▸ hc) (h.identified row')
  | delete id =>
    rw [OrderedMap.answer, hfound]
    exact h.change rfl (h.mirrors.delete id) fun row' hrow' =>
      h.identified row' (List.mem_of_mem_filter hrow')
  | get id =>
    refine ⟨?_, h⟩
    have hget : (Reader.getById ⟨⟨(r.seen ws.storage).rows, [], []⟩, r.limits, r.defaults⟩ idField
        id false).result = .ok ((r.seen ws.storage).rows.find? (hasId id)) :=
      Reader.getById_result h.identified
    show Outcome.found (((r.reader ws.storage).getById idField id false).result.map .row) = _
    rw [hreader, hget, OrderedMap.answer, h.mirrors.get]
    rfl
  | list spec =>
    refine ⟨?_, h⟩
    show Outcome.found (((r.reader ws.storage).list spec false).result.map .rows) = _
    rw [hreader, Reader.list_plain_result hc, OrderedMap.answer, h.mirrors.values]
    rfl

/-- **All calls**, one after the other. -/
theorem outcomes (h : Refines idField (r.seen ws.storage) m) {calls : List (RowCall ε)}
    (hcalls : ∀ c ∈ calls, c.Suits idField) :
    ws.outcomes (calls.map (·.action r idField)) = m.answers idField calls ∧
      Refines idField (r.seen (ws.after (calls.map (·.action r idField))).storage)
        (m.after idField calls) := by
  induction calls generalizing ws m with
  | nil => exact ⟨rfl, h⟩
  | cons c cs ih =>
    obtain ⟨hc, hcs⟩ := List.forall_mem_cons.mp hcalls
    obtain ⟨hanswer, hnext⟩ := h.perform hc
    obtain ⟨hanswers, hlast⟩ := ih hnext hcs
    refine ⟨?_, hlast⟩
    rw [List.map_cons, Workspace.outcomes, OrderedMap.answers, hanswer, hanswers]

end Refines

/-- **A repository refines an insertion-ordered map.** For lawful identifiers, a table without default
filters whose rows have distinct identifiers, and rows that keep their identifier in its field, calls
with live tokens through one repository are all answered as by the map from identifiers to rows,
whether its session is in a transaction or not, and leave the table with the rows of the map. -/
theorem outcomes_as_map [LawfulIdentifier (Entity.Id ε)] (ws : Workspace ε) (r : Repository)
    (hfilters : (r.seen ws.storage).filters = [])
    (hdistinct : DistinctIds (r.seen ws.storage).rows)
    (hrows : ∀ row ∈ (r.seen ws.storage).rows, Identified (r.seen ws.storage).idField row)
    (calls : List (RowCall ε))
    (hcalls : ∀ c ∈ calls, c.Suits (r.seen ws.storage).idField) :
    let idField := (r.seen ws.storage).idField
    let start := OrderedMap.ofRows (r.seen ws.storage).rows hdistinct
    let actions := calls.map (·.action r idField)
    ws.outcomes actions = start.answers idField calls ∧
      (r.seen (ws.after actions).storage).rows = (start.after idField calls).values := by
  intro idField start actions
  have hstart : Refines idField (r.seen ws.storage) start :=
    ⟨hfilters, rfl, hrows, mirrors_ofRows hdistinct⟩
  obtain ⟨hanswers, hlast⟩ := hstart.outcomes hcalls
  exact ⟨hanswers, hlast.mirrors.values.symm⟩

/-- Inside a transaction, jobs with integers of 64 bits for identifiers: a second job 1 is refused,
the first one is deleted. -/
theorem jobs_as_map :
    let job (id : Int64) (team : Nat) : KeyedBy Int64 :=
      { id := id, fields := [("team", .ofNat team)] }
    let t : Table (KeyedBy Int64) := { rows := [job 1 1, job 2 2] }
    let ws : Workspace (KeyedBy Int64) := { clock := firstSecond, storage :=
      { tables := fun _ => t, sessions := fun _ => { staged := some fun _ => none } } }
    let r := jobsThrough "s1"
    let one : Int64 := 1
    let two : Int64 := 2
    let calls : List (RowCall (KeyedBy Int64)) :=
      [.insert (job 3 1), .insert (job 1 2), .update (job 2 1), .delete one, .get one, .get two,
        .list {}]
    (r.seen ws.storage).filters = [] ∧ DistinctIds t.rows ∧
      (∀ row ∈ t.rows, Identified "id" row) ∧
      (∀ c ∈ calls, c.Suits "id") ∧
      ws.outcomes (calls.map (·.action r "id")) =
        [.changed (.ok (.inserted (job 3 1))),
          .changed (.error (.storage (.failed (.duplicateKey "id" (.ofInt 1))))),
          .changed (.ok (.changed true)), .changed (.ok (.changed true)), .found (.ok (.row none)),
          .found (.ok (.row (some (job 2 1)))), .found (.ok (.rows [job 2 1, job 3 1]))] := by
  intro job t ws r one two calls
  have hdistinct : DistinctIds t.rows := by
    show [(1 : Int64), 2].Pairwise fun i j => decide (i = j) = false
    decide
  have hjob : ∀ (id : Int64) (team : Nat), Identified "id" (job id team) := fun _ _ => rfl
  have hrows : ∀ row ∈ t.rows, Identified "id" row := by
    simp [t, hjob]
  have hcalls : ∀ c ∈ calls, c.Suits "id" := by
    have hplain : ({} : Specification (KeyedBy Int64)).Plain := ⟨⟨rfl, rfl, rfl⟩, rfl, rfl, rfl⟩
    simp [calls, RowCall.Suits, hjob, hplain]
  refine ⟨rfl, hdistinct, hrows, hcalls, ?_⟩
  have hanswers := (outcomes_as_map ws r rfl hdistinct hrows calls hcalls).1
  exact hanswers.trans (by cbv)

end RowSpec
