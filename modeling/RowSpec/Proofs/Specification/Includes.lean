import Mathlib.Data.List.Basic
import Mathlib.Data.List.Induction
import RowSpec.Proofs.Specification.Orderings

/-!
# Include paths of a specification

A typed path starts with a navigation or goes on from a path recorded before, and a chain in which
a condition failed records none. So no path has a character, other than the point, that no recorded
navigation has.

* `IncludeEntry.Grown`           entries each of which starts or goes on from an earlier one;
* `Builder.Grown`                the invariant: all entries, and one at the end of an active chain;
* `Builder.Grown.adds`, `Builder.Grown.run`   a call that succeeds keeps it, and so do many;
* `Facets.Walks`                 a path that has no other characters than its navigations;
* `Facets.Built.walks`           the typed paths of what builders produce.
-/

namespace RowSpec

/-! ## entries -/

namespace IncludeEntry

/-- Starts with its navigation, or goes on along it from the end of one of the entries. -/
structure From (is : List IncludeEntry) (i : IncludeEntry) : Prop where
  start : i.kind = .start → i.path = i.navigation.name
  onward : i.kind = .onward → ∃ p ∈ is, i.path = p.path ++ "." ++ i.navigation.name ∧
    p.navigation.targetType = i.navigation.rootType

/-- Each entry starts, or goes on from an earlier one. -/
def Grown (is : List IncludeEntry) : Prop :=
  ∀ before i after, is = before ++ i :: after → i.From before

variable {is : List IncludeEntry} {i : IncludeEntry}

theorem Grown.concat (h : Grown is) (hi : i.From is) : Grown (is ++ [i]) := by
  intro before j after hsplit
  rcases List.eq_nil_or_concat' after with rfl | ⟨after, k, rfl⟩
  · obtain ⟨rfl, hj⟩ := List.append_inj' hsplit rfl
    cases List.singleton_inj.mp hj
    exact hi
  · rw [← List.cons_append, ← List.append_assoc] at hsplit
    exact h before j after (List.append_inj' hsplit rfl).1

end IncludeEntry

/-! ## one call -/

namespace Call

variable {α β : Type} {c : Call α β} {ls : List Link} {entity path target : String}

theorem includeEntries_cases (c : Call α β) (entity : String) (ls : List Link) :
    c.includeEntries entity ls = [] ∨
    (∃ navigation target, c.includeEntries entity ls =
      [⟨navigation, ⟨navigation, entity, target⟩, .start⟩]) ∨
    ∃ path root navigation target, .included .active path root ∈ ls ∧
      c.includeEntries entity ls =
        [⟨path ++ "." ++ navigation, ⟨navigation, root, target⟩, .onward⟩] := by
  cases c with
  | «include» navigation target condition =>
    cases condition with
    | false => exact .inl rfl
    | true => exact .inr (.inl ⟨navigation, target, rfl⟩)
  | thenInclude navigation target condition =>
    rcases ls with _ | ⟨_ | ⟨_ | _, path, root⟩ | _, rest⟩
    case cons.included.active =>
      cases condition with
      | false => exact .inl rfl
      | true => exact .inr (.inr ⟨path, root, navigation, target, List.mem_cons_self, rfl⟩)
    all_goals cases condition <;> exact .inl rfl
  | _ => exact .inl rfl

/-- An include chain is active only if it was, or if its end has just been recorded. -/
theorem included_mem_links (entity : String) (h : .included .active path target ∈ c.links ls) :
    .included .active path target ∈ ls ∨
      ∃ i ∈ c.includeEntries entity ls, i.path = path ∧ i.navigation.targetType = target := by
  cases c with
  | «include» navigation target' condition =>
    rcases List.mem_cons.mp h with h | h
    · cases condition <;> cases h
      exact .inr ⟨_, List.mem_cons_self, rfl, rfl⟩
    · exact .inl h
  | orderBy key condition | caching enabled => exact .inl ((List.mem_cons.mp h).resolve_left nofun)
  | thenBy key condition =>
    rcases ls with _ | ⟨_ | _ | _, rest⟩
    case cons.ordered => exact .inl (List.mem_cons_of_mem _ ((List.mem_cons.mp h).resolve_left nofun))
    all_goals exact .inl h
  | thenInclude navigation target' condition =>
    rcases ls with _ | ⟨_ | ⟨state, path', root⟩ | _, rest⟩
    case cons.included =>
      rcases List.mem_cons.mp h with h | h
      · cases state <;> cases condition <;> cases h
        exact .inr ⟨_, List.mem_cons_self, rfl, rfl⟩
      · exact .inl (List.mem_cons_of_mem _ h)
    all_goals exact .inl h
  | intoInner => exact .inl (List.mem_of_mem_tail h)
  | finish => cases h
  | _ => exact .inl h

end Call

namespace Builder

variable {α β : Type} {b b' : Builder α β}

structure Grown (b : Builder α β) : Prop where
  entries : IncludeEntry.Grown b.facets.includes
  active : ∀ path target, .included .active path target ∈ b.chain →
    ∃ i ∈ b.facets.includes, i.path = path ∧ i.navigation.targetType = target

/-- **One call** keeps the invariant. -/
theorem Grown.adds (hb : b.Grown) {c : Call α β} (h : c.Adds b b') : b'.Grown where
  entries := by
    rw [h.includes]
    rcases c.includeEntries_cases b.entity b.chain with
      hnone | ⟨navigation, target, hnew⟩ | ⟨path, root, navigation, target, hactive, hnew⟩
    · rw [hnone, List.append_nil]
      exact hb.entries
    · rw [hnew]
      exact hb.entries.concat ⟨fun _ => rfl, nofun⟩
    · rw [hnew]
      obtain ⟨p, hp, rfl, rfl⟩ := hb.active path root hactive
      exact hb.entries.concat ⟨nofun, fun _ => ⟨p, hp, rfl, rfl⟩⟩
  active path target hmem := by
    rw [h.chain] at hmem
    rw [h.includes]
    rcases Call.included_mem_links b.entity hmem with hmem | ⟨i, hi, hend⟩
    · obtain ⟨i, hi, hend⟩ := hb.active path target hmem
      exact ⟨i, List.mem_append_left _ hi, hend⟩
    · exact ⟨i, List.mem_append_right _ hi, hend⟩

/-- **Calls that succeed** keep the invariant. -/
theorem Grown.run (hb : b.Grown) {calls : List (Call α β)} (h : b.run calls = .ok b') :
    b'.Grown :=
  run_induction (fun _ _ _ _ hb hadds => hb.adds hadds) hb h

end Builder

theorem Facets.Built.grown {f : Facets} (h : f.Built) : IncludeEntry.Grown f.includes := by
  induction h with
  | @new α β entity calls b h =>
    have hnil : IncludeEntry.Grown [] := fun before i after hsplit =>
      absurd hsplit.symm (List.append_ne_nil_of_right_ne_nil before (List.cons_ne_nil i after))
    have hnew : (Builder.new entity : Builder α β).Grown := ⟨hnil, nofun⟩
    exact (hnew.run h).entries
  | @ofBase α β entity base calls b _ h ih =>
    have hbase : (Builder.ofBase entity base : Builder α β).Grown := ⟨ih, nofun⟩
    exact (hbase.run h).entries

/-! ## characters of paths -/

namespace Facets

/-- Points, and characters of the navigations that are included. -/
def Walks (f : Facets) (path : String) : Prop :=
  ∀ c ∈ path.toList, c = '.' ∨ ∃ i ∈ f.includes, c ∈ i.navigation.name.toList

variable {f : Facets} {path : String} {i : IncludeEntry}

theorem walks_navigation (hi : i ∈ f.includes) : f.Walks i.navigation.name :=
  fun _ hc => .inr ⟨i, hi, hc⟩

theorem Walks.step (h : f.Walks path) (hi : i ∈ f.includes) :
    f.Walks (path ++ "." ++ i.navigation.name) := by
  intro c hc
  rw [String.toList_append, String.toList_append] at hc
  rcases List.mem_append.mp hc with hc | hc
  · rcases List.mem_append.mp hc with hc | hc
    · exact h c hc
    · exact .inl (List.mem_singleton.mp hc)
  · exact walks_navigation hi c hc

/-- The path of an entry walks if those of the entries before it do. -/
theorem walks_of_from {before : List IncludeEntry} (hbefore : ∀ p ∈ before, f.Walks p.path)
    (hi : i ∈ f.includes) (h : i.From before) : f.Walks i.path := by
  cases hkind : i.kind with
  | start =>
    rw [h.start hkind]
    exact walks_navigation hi
  | onward =>
    obtain ⟨p, hp, hpath, -⟩ := h.onward hkind
    rw [hpath]
    exact (hbefore p hp).step hi

/-- **The typed paths** of what builders produce. -/
theorem Built.walks (h : f.Built) : ∀ i ∈ f.includes, f.Walks i.path := by
  have hprefix : ∀ before after, f.includes = before ++ after → ∀ i ∈ before, f.Walks i.path := by
    intro before
    induction before using List.reverseRecOn with
    | nil => exact fun _ _ _ hi => nomatch hi
    | append_singleton before j ih =>
      intro after hsplit i hi
      rw [List.append_assoc, List.singleton_append] at hsplit
      have hbefore := ih (j :: after) hsplit
      rcases List.mem_append.mp hi with hi | hi
      · exact hbefore i hi
      · rw [List.mem_singleton.mp hi]
        have hj : j ∈ f.includes := hsplit ▸ List.mem_append_right _ List.mem_cons_self
        exact walks_of_from hbefore hj (h.grown before j after hsplit)
  exact hprefix f.includes [] (List.append_nil _).symm

end Facets

end RowSpec
