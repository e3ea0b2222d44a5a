import RowSpec.Evaluation.Shape
import RowSpec.Proofs.Specification.Calls

/-!
# Orderings of a specification

* `Facets.Ranked`              no orderings, or a primary one and then only tie breaks;
* `Builder.Ranked`             the invariant: an ordering chain that is active has an ordering;
* `Builder.Ranked.adds`, `Builder.Ranked.run`   a call that succeeds keeps it, and so do many;
* `Facets.Built`               what builders produce, from new or from what they produced before;
* `Facets.keysByRank`          the primary key, then the others: the keys that rows are sorted by.
-/

namespace RowSpec

/-! ## facets -/

namespace Facets

def Ranked (f : Facets) : Prop :=
  f.orderings = [] ∨ ∃ key rest, f.orderings = ⟨key, .primary⟩ :: rest ∧
    ∀ o ∈ rest, o.rank = .secondary

variable {f f' : Facets}

theorem Ranked.congr (h : f.Ranked) (ho : f'.orderings = f.orderings) : f'.Ranked := by
  rw [Ranked, ho]
  exact h

theorem Ranked.addTieBreak (h : f.Ranked) (hne : f.orderings ≠ []) {key : SortKey}
    (ho : f'.orderings = f.orderings ++ [⟨key, .secondary⟩]) : f'.Ranked := by
  obtain ⟨key', rest, hf, hrest⟩ := h.resolve_left hne
  refine .inr ⟨key', rest ++ [⟨key, .secondary⟩], ?_, ?_⟩
  · rw [ho, hf, List.cons_append]
  · intro o hmem
    rcases List.mem_append.mp hmem with hmem | hmem
    · exact hrest o hmem
    · rw [List.mem_singleton.mp hmem]

/-- Where no primary ordering is, none is at all. -/
theorem Ranked.orderings_eq_nil (h : f.Ranked) (hnone : f.hasPrimary = false) :
    f.orderings = [] := by
  rcases h with ho | ⟨key, rest, ho, -⟩
  · exact ho
  · rw [hasPrimary, ho] at hnone
    cases hnone

end Facets

/-! ## one call -/

namespace Call

variable {α β : Type} {c : Call α β} {ls : List Link}

theorem orderEntries_cases (c : Call α β) (ls : List Link) :
    c.orderEntries ls = [] ∨
    (∃ key, c = .orderBy key true ∧ c.orderEntries ls = [⟨key, .primary⟩]) ∨
    ∃ key, .ordered .active ∈ ls ∧ c.orderEntries ls = [⟨key, .secondary⟩] := by
  cases c with
  | orderBy key condition =>
    cases condition with
    | false => exact .inl rfl
    | true => exact .inr (.inl ⟨key, rfl, rfl⟩)
  | thenBy key condition =>
    rcases ls with _ | ⟨⟨_ | _⟩ | _ | _, rest⟩
    · cases condition <;> exact .inl rfl
    · cases condition with
      | false => exact .inl rfl
      | true => exact .inr (.inr ⟨key, List.mem_cons_self, rfl⟩)
    all_goals cases condition <;> exact .inl rfl
  | _ => exact .inl rfl

/-- Only a leading ordering makes a chain active. -/
theorem active_mem_links (h : .ordered .active ∈ c.links ls) :
    .ordered .active ∈ ls ∨ c.leads = true := by
  cases c with
  | orderBy key condition =>
    cases condition with
    | true => exact .inr rfl
    | false => exact .inl ((List.mem_cons.mp h).resolve_left nofun)
  | «include» navigation target condition | caching enabled =>
    exact .inl ((List.mem_cons.mp h).resolve_left nofun)
  | thenBy key condition =>
    rcases ls with _ | ⟨⟨_ | _⟩ | _ | _, rest⟩
    · exact .inl h
    · exact .inl List.mem_cons_self
    · exact .inl (List.mem_cons_of_mem _ ((List.mem_cons.mp h).resolve_left nofun))
    all_goals exact .inl h
  | thenInclude navigation target condition =>
    rcases ls with _ | ⟨_ | _ | _, rest⟩
    · exact .inl h
    · exact .inl h
    · exact .inl (List.mem_cons_of_mem _ ((List.mem_cons.mp h).resolve_left nofun))
    · exact .inl h
  | intoInner => exact .inl (List.mem_of_mem_tail h)
  | finish => cases h
  | _ => exact .inl h

end Call

namespace Builder

variable {α β : Type} {b b' : Builder α β}

structure Ranked (b : Builder α β) : Prop where
  facets : b.facets.Ranked
  active : .ordered .active ∈ b.chain → b.facets.orderings ≠ []

/-- **One call** keeps the invariant. -/
theorem Ranked.adds (hb : b.Ranked) {c : Call α β} (h : c.Adds b b') : b'.Ranked := by
  have ho := h.orderings
  rcases c.orderEntries_cases b.chain with hnone | ⟨key, rfl, hnew⟩ | ⟨key, hactive, hnew⟩
  · rw [hnone, List.append_nil] at ho
    refine ⟨hb.facets.congr ho, fun hmem => ?_⟩
    rw [h.chain] at hmem
    rw [ho]
    rcases Call.active_mem_links hmem with hmem | hleads
    · exact hb.active hmem
    · -- a leading ordering would have been added
      cases c with
      | orderBy key condition =>
        cases (show condition = true from hleads)
        cases hnone
      | _ => cases hleads
  · rw [hnew, hb.facets.orderings_eq_nil (h.leads rfl)] at ho
    refine ⟨.inr ⟨key, [], ho, nofun⟩, fun _ hnil => ?_⟩
    cases ho.symm.trans hnil
  · rw [hnew] at ho
    refine ⟨hb.facets.addTieBreak (hb.active hactive) ho, fun _ hnil => ?_⟩
    rw [ho] at hnil
    exact List.cons_ne_nil _ _ (List.append_eq_nil_iff.mp hnil).2

/-- **Calls that succeed** keep the invariant. -/
theorem Ranked.run (hb : b.Ranked) {calls : List (Call α β)} (h : b.run calls = .ok b') :
    b'.Ranked :=
  run_induction (fun _ _ _ _ hb hadds => hb.adds hadds) hb h

end Builder

/-! ## what builders produce -/

/-- The facets of a specification that was built from new, or from one that was built before. -/
inductive Facets.Built : Facets → Prop
  | new {α β : Type} {entity : String} {calls : List (Call α β)} {b : Builder α β}
    (h : (Builder.new entity).run calls = .ok b) : Built b.facets
  | ofBase {α β : Type} {entity : String} {base : Specification α} {calls : List (Call α β)}
    {b : Builder α β} (hbase : Built base.toFacets)
    (h : (Builder.ofBase entity base).run calls = .ok b) : Built b.facets

namespace Facets

variable {f : Facets}

theorem Built.ranked (h : f.Built) : f.Ranked := by
  induction h with
  | @new α β entity calls b h =>
    have hnew : (Builder.new entity : Builder α β).Ranked := ⟨.inl rfl, fun hmem => nomatch hmem⟩
    exact (hnew.run h).facets
  | @ofBase α β entity base calls b _ h ih =>
    have hbase : (Builder.ofBase entity base : Builder α β).Ranked := ⟨ih, fun hmem => nomatch hmem⟩
    exact (hbase.run h).facets

/-- the keys of primary rank, then those of secondary rank, each in order of declaration -/
def keysByRank (f : Facets) : List SortKey :=
  (f.orderings.filter (·.rank = .primary) ++ f.orderings.filter (·.rank = .secondary)).map (·.key)

theorem Ranked.sortKeys_eq (h : f.Ranked) : f.sortKeys = f.keysByRank := by
  rcases h with ho | ⟨key, rest, ho, hrest⟩
  · rw [sortKeys, keysByRank, ho]
    rfl
  · have hnone : rest.filter (·.rank = .primary) = [] := by
      refine List.filter_eq_nil_iff.mpr fun o hmem hp => ?_
      cases (hrest o hmem).symm.trans (of_decide_eq_true hp)
    rw [sortKeys, keysByRank, ho]
    show _ = ((_ :: rest.filter _) ++ _).map _
    rw [hnone]
    rfl

theorem Ranked.sortKeys_eq_map (h : f.Ranked) : f.sortKeys = f.orderings.map (·.key) := by
  rcases h with ho | ⟨key, rest, ho, hrest⟩
  · rw [sortKeys, ho]
    rfl
  · have hall : rest.filter (·.rank = .secondary) = rest :=
      List.filter_eq_self.mpr fun o hmem => decide_eq_true (hrest o hmem)
    rw [sortKeys, ho]
    show (_ :: rest.filter _).map _ = _
    rw [hall]

end Facets

end RowSpec
