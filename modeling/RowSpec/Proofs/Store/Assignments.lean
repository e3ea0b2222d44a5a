import RowSpec.Proofs.FirstAppearances
import RowSpec.Proofs.Yields
import RowSpec.Record.Keyed
import RowSpec.Store.Table

/-!
# Assignments

An update keeps one assignment for each field that was set, with the value that was set last. A row
takes them one after the other.

* `LawfulRecord`            an accepted value is stored in its field, and in no other one;
* `FieldsApart`             what a field accepts has nothing to do with the other fields;
* `lastValue`, `finalSets`  the value set last, and the assignments that remain;
* `assignments_setAll`      these are the assignments of an update;
* `field_assignAll`         the fields of a row after assignments;
* `Rejects`                 a row takes some assignments and not the next one.
-/

namespace RowSpec

/-! ## laws of records -/

class LawfulRecord (ρ : Type) [Record ρ] : Prop where
  field_same : ∀ {row new : ρ} {name : String} {v : Value},
    Record.setField row name v = .ok new → Record.field new name = some v
  field_other : ∀ {row new : ρ} {name : String} {v : Value} {other : String},
    Record.setField row name v = .ok new → other ≠ name →
      Record.field new other = Record.field row other

/-- After an assignment to one field, the others take and refuse the same values as before. -/
def FieldsApart (ρ : Type) [Record ρ] : Prop :=
  ∀ {row new : ρ} {name : String} {v : Value} {other : String} (w : Value) (e : FieldError),
    Record.setField row name v = .ok new → other ≠ name →
      (Record.setField new other w = .error e ↔ Record.setField row other w = .error e)

theorem LawfulRecord.field_setField {ρ : Type} [Record ρ] [LawfulRecord ρ] {row new : ρ}
    {name : String} {v : Value} (h : Record.setField row name v = .ok new) (other : String) :
    Record.field new other = if name = other then some v else Record.field row other := by
  by_cases ho : name = other
  · subst ho
    rw [if_pos rfl, field_same h]
  · rw [if_neg ho, field_other h (Ne.symm ho)]

/-! ## keyed rows -/

theorem lookup_cons_eq_ite (name : String) (v : Value) (fields : List (String × Value))
    (other : String) :
    ((name, v) :: fields).lookup other = if name = other then some v else fields.lookup other := by
  rw [List.lookup_cons]
  by_cases h : name = other
  · rw [if_pos h, h, beq_self_eq_true]
  · rw [if_neg h, beq_eq_false_iff_ne.mpr (Ne.symm h)]

theorem lookup_setField {name : String} {fields : List (String × Value)} {old : Value}
    (h : fields.lookup name = some old) (v : Value) (other : String) :
    (setField name v fields).lookup other =
      if name = other then some v else fields.lookup other := by
  induction fields with
  | nil => cases h
  | cons field rest ih =>
    obtain ⟨n, w⟩ := field
    rw [setField]
    by_cases hn : n = name
    · subst hn
      rw [if_pos rfl, lookup_cons_eq_ite, lookup_cons_eq_ite]
      by_cases ho : n = other
      · rw [if_pos ho, if_pos ho]
      · rw [if_neg ho, if_neg ho, if_neg ho]
    · rw [lookup_cons_eq_ite, if_neg hn] at h
      rw [if_neg hn, lookup_cons_eq_ite, lookup_cons_eq_ite, ih h]
      by_cases ho : name = other
      · rw [if_pos ho, if_pos ho, if_neg fun he => hn (he.trans ho.symm)]
      · rw [if_neg ho, if_neg ho]

namespace KeyedBy

variable {κ : Type} {row new : KeyedBy κ} {name other : String} {v : Value}

theorem assign_eq_ok (h : row.assign name v = .ok new) :
    name ≠ row.idField ∧ new = { row with fields := setField name v row.fields } ∧
      ∃ old, row.fields.lookup name = some old := by
  unfold assign at h
  split at h
  · cases h
  · rename_i hopen
    split at h
    · cases h
    · rename_i old hold
      split at h
      · cases h
        exact ⟨fun hid => hopen (.inr hid), rfl, old, hold⟩
      · cases h

instance [Identifier κ] : LawfulRecord (KeyedBy κ) where
  field_same {row new name v} h := by
    obtain ⟨hid, rfl, old, hold⟩ := assign_eq_ok h
    show (if name = row.idField then _ else _) = _
    rw [if_neg hid, lookup_setField hold, if_pos rfl]
  field_other {row new name v other} h ho := by
    obtain ⟨-, rfl, old, hold⟩ := assign_eq_ok h
    show (if other = row.idField then _ else (setField name v row.fields).lookup other) =
      if other = row.idField then _ else row.fields.lookup other
    rw [lookup_setField hold, if_neg (Ne.symm ho)]

theorem fieldsApart [Identifier κ] : FieldsApart (KeyedBy κ) := by
  intro row new name v other w e h ho
  obtain ⟨-, rfl, old, hold⟩ := assign_eq_ok h
  have hlookup : (setField name v row.fields).lookup other = row.fields.lookup other := by
    rw [lookup_setField hold, if_neg (Ne.symm ho)]
  show assign { row with fields := setField name v row.fields } other w = _ ↔
    row.assign other w = _
  unfold assign
  dsimp only
  rw [hlookup]
  split
  · exact Iff.rfl
  · cases row.fields.lookup other with
    | none => exact Iff.rfl
    | some old =>
      dsimp only
      split
      · exact ⟨nofun, nofun⟩
      · exact Iff.rfl

end KeyedBy

/-! ## values set -/

/-- the value that was set last for a field -/
def lastValue (sets : List Assignment) (name : String) : Option Value :=
  (sets.reverse.find? (·.field = name)).map (·.value)

theorem lastValue_concat (sets : List Assignment) (a : Assignment) (name : String) :
    lastValue (sets ++ [a]) name = if a.field = name then some a.value else lastValue sets name := by
  rw [lastValue, List.reverse_append, List.reverse_singleton, List.singleton_append,
    List.find?_cons]
  by_cases h : a.field = name <;> simp [h, lastValue]

theorem lastValue_cons (a : Assignment) (sets : List Assignment) (name : String) :
    lastValue (a :: sets) name =
      (lastValue sets name).or (if a.field = name then some a.value else none) := by
  rw [lastValue, List.reverse_cons, List.find?_append, Option.map_or, lastValue]
  by_cases h : a.field = name <;> simp [h]

theorem lastValue_eq_none {sets : List Assignment} {name : String}
    (h : name ∉ sets.map (·.field)) : lastValue sets name = none := by
  rw [lastValue, Option.map_eq_none_iff, List.find?_eq_none]
  intro a ha hname
  exact h (List.mem_map.mpr ⟨a, List.mem_reverse.mp ha, of_decide_eq_true hname⟩)

/-- Where no field is set twice, every value is the last one. -/
theorem lastValue_of_mem {sets : List Assignment} (hnodup : (sets.map (·.field)).Nodup)
    {a : Assignment} (ha : a ∈ sets) : lastValue sets a.field = some a.value := by
  induction sets with
  | nil => cases ha
  | cons b rest ih =>
    obtain ⟨hb, hrest⟩ := List.nodup_cons.mp hnodup
    rw [lastValue_cons]
    rcases List.mem_cons.mp ha with rfl | ha
    · rw [lastValue_eq_none hb, if_pos rfl, Option.none_or]
    · rw [ih hrest ha, Option.some_or]

/-- the last value of each field that was set, fields in the order in which they were set first -/
def finalSets (sets : List Assignment) : List Assignment :=
  (sets.map (·.field)).eraseDups.filterMap fun name => (lastValue sets name).map (⟨name, ·⟩)

theorem finalSets_of_nodup {sets : List Assignment} (hnodup : (sets.map (·.field)).Nodup) :
    ((sets.map (·.field)).filterMap fun name => (lastValue sets name).map (⟨name, ·⟩)) = sets := by
  rw [List.filterMap_map]
  refine (List.filterMap_congr fun a ha => ?_).trans (List.filterMap_some (l := sets))
  rw [Function.comp_apply, lastValue_of_mem hnodup ha]
  rfl

theorem mem_finalSets {sets : List Assignment} {a : Assignment} :
    a ∈ finalSets sets ↔ lastValue sets a.field = some a.value := by
  rw [finalSets, List.mem_filterMap]
  constructor
  · rintro ⟨name, -, ha⟩
    obtain ⟨v, hv, rfl⟩ := Option.map_eq_some_iff.mp ha
    exact hv
  · intro hv
    refine ⟨a.field, List.mem_eraseDups.mpr ?_, by rw [hv]; rfl⟩
    by_contra hnone
    rw [lastValue_eq_none hnone] at hv
    cases hv

/-! ## assignments of an update -/

theorem fields_assign (name : String) (v : Value) (as : List Assignment) :
    (assign name v as).map (·.field) =
      if name ∈ as.map (·.field) then as.map (·.field) else as.map (·.field) ++ [name] := by
  induction as with
  | nil => rfl
  | cons a rest ih =>
    rw [assign, List.map_cons]
    by_cases ha : a.field = name
    · rw [if_pos ha, if_pos (ha ▸ List.mem_cons_self), List.map_cons, ha]
    · rw [if_neg ha, List.map_cons, ih]
      by_cases hrest : name ∈ rest.map (·.field)
      · rw [if_pos hrest, if_pos (List.mem_cons_of_mem _ hrest)]
      · rw [if_neg hrest, if_neg fun h => (List.mem_cons.mp h).elim (ha ·.symm) hrest]
        rfl

theorem lastValue_assign {as : List Assignment} (hnodup : (as.map (·.field)).Nodup)
    (name : String) (v : Value) (other : String) :
    lastValue (assign name v as) other = if name = other then some v else lastValue as other := by
  induction as with
  | nil => exact lastValue_concat [] ⟨name, v⟩ other
  | cons a rest ih =>
    obtain ⟨ha, hrest⟩ := List.nodup_cons.mp hnodup
    rw [assign]
    by_cases hname : a.field = name
    · subst hname
      rw [if_pos rfl, lastValue_cons, lastValue_cons]
      by_cases ho : a.field = other
      · rw [← ho, lastValue_eq_none ha, if_pos rfl, if_pos rfl, Option.none_or]
      · rw [if_neg ho, if_neg ho, if_neg ho]
    · rw [if_neg hname, lastValue_cons, lastValue_cons, ih hrest]
      by_cases ho : name = other
      · rw [if_pos ho, if_pos ho, Option.some_or]
      · rw [if_neg ho, if_neg ho]

namespace Update

variable {α : Type}

/-- The update after values were set. -/
def setAll (sets : List Assignment) (u : Update α) : Update α :=
  sets.foldl (fun u a => u.set a.field a.value) u

theorem setAll_concat (sets : List Assignment) (a : Assignment) (u : Update α) :
    u.setAll (sets ++ [a]) = (u.setAll sets).set a.field a.value := by
  rw [setAll, List.foldl_append]
  rfl

variable (criteria : Specification α) (sets : List Assignment)

theorem criteria_setAll (u : Update α) : (u.setAll sets).criteria = u.criteria := by
  induction sets using List.reverseRecOn with
  | nil => rfl
  | append_singleton sets a ih => rw [setAll_concat, set, ih]

theorem fields_setAll :
    ((⟨criteria, []⟩ : Update α).setAll sets).assignments.map (·.field) =
      (sets.map (·.field)).eraseDups := by
  induction sets using List.reverseRecOn with
  | nil => rfl
  | append_singleton sets a ih =>
    rw [setAll_concat, List.map_append, List.map_singleton, eraseDups_concat, set, fields_assign,
      ih]
    simp only [List.mem_eraseDups]

theorem lastValue_setAll (name : String) :
    lastValue ((⟨criteria, []⟩ : Update α).setAll sets).assignments name = lastValue sets name := by
  induction sets using List.reverseRecOn with
  | nil => rfl
  | append_singleton sets a ih =>
    have hnodup := nodup_eraseDups (sets.map (·.field))
    rw [← fields_setAll criteria sets] at hnodup
    rw [setAll_concat, set, lastValue_assign hnodup, ih, lastValue_concat]

/-- **The assignments of an update** are the last values that were set. -/
theorem assignments_setAll :
    ((⟨criteria, []⟩ : Update α).setAll sets).assignments = finalSets sets := by
  have hnodup := nodup_eraseDups (sets.map (·.field))
  rw [← fields_setAll criteria sets] at hnodup
  rw [← finalSets_of_nodup hnodup, fields_setAll, finalSets]
  simp only [lastValue_setAll]

end Update

theorem fields_finalSets (sets : List Assignment) :
    (finalSets sets).map (·.field) = (sets.map (·.field)).eraseDups := by
  rw [← Update.assignments_setAll ({} : Specification Unit), Update.fields_setAll]

theorem lastValue_finalSets (sets : List Assignment) (name : String) :
    lastValue (finalSets sets) name = lastValue sets name := by
  rw [← Update.assignments_setAll ({} : Specification Unit), Update.lastValue_setAll]

/-- Another value of a field takes the place of the earlier one. -/
example (criteria : Specification Unit) (v w w' : Value) :
    ((⟨criteria, []⟩ : Update Unit).setAll [⟨"a", v⟩, ⟨"b", w⟩, ⟨"a", w'⟩]).assignments =
      [⟨"a", w'⟩, ⟨"b", w⟩] := by
  rfl

/-! ## assignments to a row -/

variable {ε : Type} [Entity ε] {as : List Assignment} {row new : ε}

theorem field_assignAll [LawfulRecord ε] (h : assignAll as row = .ok new) (name : String) :
    Record.field new name = (lastValue as name).or (Record.field row name) := by
  induction as generalizing row with
  | nil =>
    cases h
    rfl
  | cons a rest ih =>
    obtain ⟨mid, hmid, h⟩ := eq_ok_of_bind h
    rw [ih h, LawfulRecord.field_setField hmid, lastValue_cons]
    by_cases ha : a.field = name
    · rw [if_pos ha, if_pos ha, Option.or_assoc, Option.some_or]
    · rw [if_neg ha, if_neg ha, Option.or_none]

theorem assignAll_cons_of_ok {a : Assignment} {next : ε}
    (h : Record.setField row a.field a.value = .ok next) :
    assignAll (a :: as) row = assignAll as next := by
  rw [assignAll, h]
  rfl

theorem assignAll_cons_of_error {a : Assignment} {e : FieldError}
    (h : Record.setField row a.field a.value = .error e) : assignAll (a :: as) row = .error e := by
  rw [assignAll, h]
  rfl

/-- The row takes the assignments up to one, which fails. -/
def Rejects (as : List Assignment) (row : ε) (e : FieldError) : Prop :=
  ∃ before a after mid, as = before ++ a :: after ∧ assignAll before row = .ok mid ∧
    Record.setField mid a.field a.value = .error e

theorem rejects_cons {a : Assignment} {e : FieldError} :
    Rejects (a :: as) row e ↔ Record.setField row a.field a.value = .error e ∨
      ∃ next, Record.setField row a.field a.value = .ok next ∧ Rejects as next e := by
  constructor
  · rintro ⟨before, b, after, mid, h, hmid, he⟩
    cases before with
    | nil =>
      cases h
      cases hmid
      exact .inl he
    | cons _ before =>
      cases h
      obtain ⟨next, hnext, hmid⟩ := eq_ok_of_bind hmid
      exact .inr ⟨next, hnext, before, b, after, mid, rfl, hmid, he⟩
  · rintro (he | ⟨next, hnext, before, b, after, mid, rfl, hmid, he⟩)
    · exact ⟨[], a, as, row, rfl, rfl, he⟩
    · exact ⟨a :: before, b, after, mid, rfl, (assignAll_cons_of_ok hnext).trans hmid, he⟩

theorem rejects_iff {e : FieldError} : Rejects as row e ↔ assignAll as row = .error e := by
  induction as generalizing row with
  | nil =>
    constructor
    · rintro ⟨before, a, after, mid, h, -⟩
      exact absurd h.symm (List.append_ne_nil_of_right_ne_nil _ (List.cons_ne_nil _ _))
    · exact nofun
  | cons a rest ih =>
    rw [rejects_cons]
    cases hset : Record.setField row a.field a.value with
    | error e' =>
      rw [assignAll_cons_of_error hset]
      exact ⟨fun h => h.resolve_right nofun, .inl⟩
    | ok next =>
      rw [assignAll_cons_of_ok hset, ← ih]
      constructor
      · rintro (⟨⟨⟩⟩ | ⟨_, ⟨⟩, h⟩)
        exact h
      · exact fun h => .inr ⟨next, rfl, h⟩

/-- Where fields are apart, a row rejects assignments when it rejects one of them. -/
theorem exists_rejects_iff (hapart : FieldsApart ε) (hnodup : (as.map (·.field)).Nodup) :
    (∃ e, Rejects as row e) ↔ ∃ a ∈ as, ∃ e, Record.setField row a.field a.value = .error e := by
  simp only [rejects_iff]
  induction as generalizing row with
  | nil =>
    constructor
    · exact fun ⟨_, he⟩ => nomatch he
    · exact fun ⟨_, ha, _⟩ => nomatch ha
  | cons a rest ih =>
    obtain ⟨ha, hrest⟩ := List.nodup_cons.mp hnodup
    rw [List.exists_mem_cons_iff]
    cases hset : Record.setField row a.field a.value with
    | error e => exact ⟨fun _ => .inl ⟨e, rfl⟩, fun _ => ⟨e, assignAll_cons_of_error hset⟩⟩
    | ok next =>
      -- the first field leaves what the later ones accept
      have hlater : ∀ b ∈ rest, (∃ e, Record.setField next b.field b.value = .error e) ↔
          ∃ e, Record.setField row b.field b.value = .error e := by
        intro b hb
        have hne : b.field ≠ a.field := fun he => ha (List.mem_map.mpr ⟨b, hb, he⟩)
        exact exists_congr fun e => hapart b.value e hset hne
      rw [assignAll_cons_of_ok hset, ih hrest]
      constructor
      · rintro ⟨b, hb, he⟩
        exact .inr ⟨b, hb, (hlater b hb).mp he⟩
      · rintro (⟨_, ⟨⟩⟩ | ⟨b, hb, he⟩)
        exact ⟨b, hb, (hlater b hb).mpr he⟩

theorem exists_rejects_finalSets_iff (hapart : FieldsApart ε) (sets : List Assignment) :
    (∃ e, Rejects (finalSets sets) row e) ↔
      ∃ name v, lastValue sets name = some v ∧ ∃ e, Record.setField row name v = .error e := by
  rw [exists_rejects_iff hapart (fields_finalSets sets ▸ nodup_eraseDups _)]
  constructor
  · rintro ⟨a, ha, he⟩
    exact ⟨a.field, a.value, mem_finalSets.mp ha, he⟩
  · rintro ⟨name, v, hv, he⟩
    exact ⟨⟨name, v⟩, mem_finalSets.mpr hv, he⟩

end RowSpec
