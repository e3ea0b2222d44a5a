import Mathlib.Data.List.Induction
import RowSpec.Proofs.Specification.Orderings

/-!
# Which calls are accepted

Six settings can be made once on a specification, a page request shuts out the other kinds of
paging, and counts have a bound. Nothing else is refused, and which call is can be told from the
calls alone.

* `Setting`, `Call.setting?`   the settings, and which one a call makes;
* `Setting.excludes`           what a setting shuts out when it has been made;
* `Lawful`                     no setting made twice, no page with a window, no count too large;
* `lawful_concat`              what one more call has to meet;
* `Builder.has`                the settings that a builder remembers;
* `Builder.perform_ok_iff`     which call is accepted;
* `Builder.perform_makes`      what is remembered then;
* `Offered`                    calls each of which is made on a chain that offers it;
* `Builder.Records`            the invariant: what a builder is after the calls;
* `Builder.Records.apply`, `Builder.Records.run`   one call keeps it, and so do all;
* `run_new_ok_iff`             accepted are the calls that are offered and lawful, and the first
                               refusal comes where the calls stop to be lawful.
-/

namespace RowSpec

variable {α β : Type}

/-! ## settings -/

inductive Setting
  | ordering | grouping | projection | take | skip | page
deriving DecidableEq

namespace Setting

/-- Whether `s` cannot be made where `t` has been. -/
@[simp]
def excludes (s t : Setting) : Bool :=
  s = t || (s = page && (t = take || t = skip)) || (t = page && (s = take || s = skip))

theorem forall_iff {p : Setting → Prop} : (∀ s, p s) ↔
    p ordering ∧ p grouping ∧ p projection ∧ p take ∧ p skip ∧ p page := by
  constructor
  · exact fun h => ⟨h _, h _, h _, h _, h _, h _⟩
  · rintro ⟨ho, hg, hp, ht, hs, hq⟩ s
    cases s <;> assumption

end Setting

namespace Call

/-- A leading ordering counts only if its condition holds. -/
def setting? : Call α β → Option Setting
  | .orderBy _ condition => if condition then some .ordering else none
  | .groupBy _ => some .grouping
  | .select _ | .selectMany _ => some .projection
  | .take _ => some .take
  | .skip _ => some .skip
  | .paginate _ => some .page
  | _ => none

def inRange : Call α β → Bool
  | .take count | .skip count => count ≤ Facets.maxCount
  | _ => true

end Call

def settings (cs : List (Call α β)) : List Setting := cs.filterMap Call.setting?

structure Lawful (cs : List (Call α β)) : Prop where
  /-- at most one leading ordering, one grouping, one projection, one take, one skip, one page -/
  once : (settings cs).Nodup
  apart : Setting.page ∈ settings cs → Setting.take ∉ settings cs ∧ Setting.skip ∉ settings cs
  inRange : ∀ c ∈ cs, c.inRange = true

theorem lawful_iff {cs : List (Call α β)} : Lawful cs ↔ (settings cs).Nodup ∧
    (Setting.page ∈ settings cs → Setting.take ∉ settings cs ∧ Setting.skip ∉ settings cs) ∧
    ∀ c ∈ cs, c.inRange = true :=
  ⟨fun h => ⟨h.once, h.apart, h.inRange⟩, fun ⟨honce, hapart, hrange⟩ => ⟨honce, hapart, hrange⟩⟩

theorem lawful_nil : Lawful ([] : List (Call α β)) :=
  ⟨List.nodup_nil, nofun, nofun⟩

instance (cs : List (Call α β)) : Decidable (Lawful cs) := decidable_of_iff' _ lawful_iff

/-- Whether a call meets the conditions, next to the settings made before. -/
def Call.Fits (c : Call α β) (made : Setting → Prop) : Prop :=
  c.inRange = true ∧ ∀ s ∈ c.setting?, ∀ t, made t → s.excludes t = false

theorem Call.fits_of_none {c : Call α β} {made : Setting → Prop} (hrange : c.inRange = true)
    (h : c.setting? = none) : c.Fits made := by
  refine ⟨hrange, fun s hs => ?_⟩
  rw [h] at hs
  cases hs

theorem Call.fits_of_some {c : Call α β} {s : Setting} {made : Setting → Prop}
    (h : c.setting? = some s) :
    c.Fits made ↔ c.inRange = true ∧ ∀ t, made t → s.excludes t = false := by
  rw [Call.Fits, h]
  simp

theorem settings_concat (cs : List (Call α β)) (c : Call α β) :
    settings (cs ++ [c]) = settings cs ++ c.setting?.toList := by
  rw [settings, List.filterMap_append]
  cases h : c.setting? <;> simp [settings, h]

/-- **One more call** is lawful if it fits the settings made so far. -/
theorem lawful_concat {cs : List (Call α β)} {c : Call α β} :
    Lawful (cs ++ [c]) ↔ Lawful cs ∧ c.Fits (· ∈ settings cs) := by
  rw [lawful_iff, lawful_iff, settings_concat, List.forall_mem_append, List.forall_mem_singleton,
    Call.Fits]
  cases c.setting? with
  | none => simp [and_assoc]
  | some s =>
    cases s <;> simp [Setting.forall_iff, List.nodup_append] <;> grind

example : Lawful ([.orderBy ⟨"total", .asc⟩ false, .orderBy ⟨"total", .asc⟩ true] :
    List (Call Unit Unit)) := by decide
example : ¬ Lawful ([.skip 5, .paginate ⟨1, 10⟩] : List (Call Unit Unit)) := by decide

/-! ## what a builder remembers -/

namespace Builder

@[simp]
theorem facets_withFacets (b : Builder α β) (f : Facets) : (b.withFacets f).facets = f := rfl

@[simp]
theorem projection_withFacets (b : Builder α β) (f : Facets) :
    (b.withFacets f).spec.projection = b.spec.projection := rfl

/-- Whether a setting has been made. -/
def has (b : Builder α β) : Setting → Bool
  | .ordering => b.facets.hasPrimary
  | .grouping => b.facets.groupKey.isSome
  | .projection => b.spec.projection.isSome
  | .take => b.facets.paging.takeCount?.isSome
  | .skip => b.facets.paging.skipCount?.isSome
  | .page => b.facets.paging.request?.isSome

variable {b b' : Builder α β} {c : Call α β}

theorem setProjection_eq_ok_iff {p : Projection α β} : b.setProjection p = .ok b' ↔
    b.spec.projection.isSome = false ∧
      b' = { b with spec := { b.spec with projection := some p } } := by
  rw [setProjection]
  cases b.spec.projection <;> simp [eq_comm]

theorem modifyM_ok_iff {change : Facets → Except SpecError Facets} :
    (∃ b', b.modifyM change = .ok b') ↔ ∃ f, change b.facets = .ok f := by
  simp only [modifyM_eq_ok_iff]
  constructor
  · rintro ⟨b', f, hf, -⟩
    exact ⟨f, hf⟩
  · rintro ⟨f, hf⟩
    exact ⟨_, f, hf, rfl⟩

theorem startOrdering_eq_ok_iff {key : SortKey} : b.startOrdering key true = .ok b' ↔
    b.facets.hasPrimary = false ∧
      b' = (b.withFacets { b.facets with
        orderings := b.facets.orderings ++ [⟨key, .primary⟩] }).push (.ordered .active) := by
  rw [startOrdering, if_pos rfl, modifyM, Facets.addOrdering]
  cases b.facets.hasPrimary <;>
    simp [bind, Except.bind, pure, Except.pure, ChainState.ofCondition, eq_comm]

/-- A paging that has neither count is not a window. -/
def PagingMade (b : Builder α β) : Prop := b.facets.paging ≠ .window none none

theorem paging_eq_none_iff (h : b.PagingMade) : b.facets.paging = .none ↔
    b.has .take = false ∧ b.has .skip = false ∧ b.has .page = false := by
  rw [PagingMade] at h
  rcases hp : b.facets.paging with _ | ⟨_ | _, _ | _⟩ | _ <;>
    simp_all [has, Paging.takeCount?, Paging.skipCount?, Paging.request?]

/-- **One call** is accepted if it fits what the builder remembers. -/
theorem perform_ok_iff (h : b.PagingMade) :
    (∃ b', b.perform c = .ok b') ↔ c.Fits (b.has · = true) := by
  cases c with
  | orderBy key condition =>
    cases condition with
    | false => exact iff_of_true ⟨_, rfl⟩ (Call.fits_of_none rfl rfl)
    | true =>
      rw [Call.fits_of_some rfl, Setting.forall_iff]
      simp [perform, startOrdering_eq_ok_iff, Call.inRange, has]
  | groupBy key =>
    rw [perform, modifyM_ok_iff, Call.fits_of_some rfl, Setting.forall_iff]
    simp [Facets.setGroup_eq_ok_iff, Call.inRange, has]
  | take count =>
    rw [perform, modifyM_ok_iff, Call.fits_of_some rfl, Setting.forall_iff]
    simp [Facets.setTake_eq_ok_iff, Call.inRange, has]
  | skip count =>
    rw [perform, modifyM_ok_iff, Call.fits_of_some rfl, Setting.forall_iff]
    simp [Facets.setSkip_eq_ok_iff, Call.inRange, has]
  | paginate request =>
    rw [perform, modifyM_ok_iff, Call.fits_of_some rfl, Setting.forall_iff]
    simp [Facets.setPage_eq_ok_iff, paging_eq_none_iff h, Call.inRange]
  | select f | selectMany f =>
    rw [Call.fits_of_some rfl, Setting.forall_iff]
    simp [perform, setProjection_eq_ok_iff, Call.inRange, has]
  | thenBy | thenInclude =>
    refine iff_of_true ?_ (Call.fits_of_none rfl rfl)
    rw [perform]
    split <;> exact ⟨_, rfl⟩
  | _ => exact iff_of_true ⟨_, rfl⟩ (Call.fits_of_none rfl rfl)

theorem any_orderEntries (c : Call α β) (ls : List Link) :
    (c.orderEntries ls).any (·.rank = .primary) = true ↔ c.setting? = some .ordering := by
  cases c with
  | orderBy key condition => cases condition <;> simp [Call.orderEntries, Call.setting?]
  | thenBy key condition =>
    rcases ls with _ | ⟨⟨_ | _⟩ | _ | _, ls⟩ <;> cases condition <;>
      simp [Call.orderEntries, Call.setting?]
  | _ => simp [Call.orderEntries, Call.setting?]

/-- what is remembered of settings other than orderings -/
structure Keeps (b b' : Builder α β) : Prop where
  groupKey : b'.facets.groupKey = b.facets.groupKey
  projection : b'.spec.projection = b.spec.projection
  paging : b'.facets.paging = b.facets.paging

theorem Keeps.has (h : Keeps b b') {s : Setting} (hs : s ≠ .ordering) : b'.has s = b.has s := by
  cases s with
  | ordering => exact absurd rfl hs
  | grouping => rw [Builder.has, Builder.has, h.groupKey]
  | projection => rw [Builder.has, Builder.has, h.projection]
  | take | skip | page => rw [Builder.has, Builder.has, h.paging]

theorem perform_keeps (h : b.perform c = .ok b')
    (hc : c.setting? = none ∨ c.setting? = some .ordering) : Keeps b b' := by
  cases c with
  | filter _ condition | «include» _ _ condition | includePath _ condition
  | search _ _ _ condition =>
    cases h
    cases condition <;> exact ⟨rfl, rfl, rfl⟩
  | orderBy key condition =>
    cases condition with
    | false =>
      cases h
      exact ⟨rfl, rfl, rfl⟩
    | true =>
      obtain ⟨-, rfl⟩ := startOrdering_eq_ok_iff.mp h
      exact ⟨rfl, rfl, rfl⟩
  | thenBy _ condition =>
    rw [perform] at h
    split at h
    · rename_i state _ _
      cases h
      cases state <;> cases condition <;> exact ⟨rfl, rfl, rfl⟩
    · cases h
      exact ⟨rfl, rfl, rfl⟩
  | thenInclude _ _ condition =>
    rw [perform] at h
    split at h
    · rename_i state _ _ _ _
      cases h
      cases state <;> cases condition <;> exact ⟨rfl, rfl, rfl⟩
    · cases h
      exact ⟨rfl, rfl, rfl⟩
  | groupBy | take | skip | paginate | select | selectMany => rcases hc with hc | hc <;> cases hc
  | _ =>
    cases h
    exact ⟨rfl, rfl, rfl⟩

/-- The builder before the call and the one after it. -/
structure Makes (c : Call α β) (b b' : Builder α β) : Prop where
  has : ∀ s, b'.has s = true ↔ b.has s = true ∨ c.setting? = some s
  paging : b.PagingMade → b'.PagingMade

theorem Keeps.makes (h : Keeps b b') (hc : c.setting? = none ∨ c.setting? = some .ordering)
    (hordering : b'.has .ordering = true ↔ b.has .ordering = true ∨ c.setting? = some .ordering) :
    Makes c b b' := by
  refine ⟨fun s => ?_, fun hb => ?_⟩
  · by_cases hs : s = .ordering
    · exact hs ▸ hordering
    · have hother : c.setting? ≠ some s := by
        rcases hc with hc | hc <;> simp [hc, Ne.symm hs]
      rw [h.has hs, or_iff_left hother]
  · rw [PagingMade, h.paging]
    exact hb

/-- A call that is accepted makes its setting and no other. -/
theorem perform_makes (h : b.perform c = .ok b') : Makes c b b' := by
  have hordering : b'.has .ordering = true ↔
      b.has .ordering = true ∨ c.setting? = some .ordering := by
    rw [has, has, Facets.hasPrimary, Facets.hasPrimary, (perform_adds h).orderings,
      List.any_append, Bool.or_eq_true_iff, any_orderEntries]
  cases c with
  | groupBy key =>
    obtain ⟨f, hf, rfl⟩ := modifyM_eq_ok_iff.mp h
    obtain ⟨-, rfl⟩ := Facets.setGroup_eq_ok_iff.mp hf
    refine ⟨Setting.forall_iff.mpr ⟨hordering, ?_⟩, id⟩
    simp [has, Call.setting?]
  | take count =>
    obtain ⟨f, hf, rfl⟩ := modifyM_eq_ok_iff.mp h
    obtain ⟨-, ⟨-, hpage⟩, rfl⟩ := Facets.setTake_eq_ok_iff.mp hf
    refine ⟨Setting.forall_iff.mpr ⟨hordering, ?_⟩, fun _ => by simp [PagingMade]⟩
    cases hp : b.facets.paging with
    | page request => rw [hp] at hpage; cases hpage
    | _ => simp [has, Call.setting?, hp, Paging.takeCount?, Paging.skipCount?, Paging.request?]
  | skip count =>
    obtain ⟨f, hf, rfl⟩ := modifyM_eq_ok_iff.mp h
    obtain ⟨-, ⟨-, hpage⟩, rfl⟩ := Facets.setSkip_eq_ok_iff.mp hf
    refine ⟨Setting.forall_iff.mpr ⟨hordering, ?_⟩, fun _ => by simp [PagingMade]⟩
    cases hp : b.facets.paging with
    | page request => rw [hp] at hpage; cases hpage
    | _ => simp [has, Call.setting?, hp, Paging.takeCount?, Paging.skipCount?, Paging.request?]
  | paginate request =>
    obtain ⟨f, hf, rfl⟩ := modifyM_eq_ok_iff.mp h
    obtain ⟨hnone, rfl⟩ := Facets.setPage_eq_ok_iff.mp hf
    refine ⟨Setting.forall_iff.mpr ⟨hordering, ?_⟩, fun _ => by simp [PagingMade]⟩
    simp [has, Call.setting?, hnone, Paging.takeCount?, Paging.skipCount?, Paging.request?]
  | select f | selectMany f =>
    obtain ⟨-, rfl⟩ := setProjection_eq_ok_iff.mp h
    refine ⟨Setting.forall_iff.mpr ⟨hordering, ?_⟩, id⟩
    simp [has, Call.setting?, facets]
  | orderBy key condition =>
    have hc : (Call.orderBy key condition : Call α β).setting? = none ∨
        (Call.orderBy key condition : Call α β).setting? = some .ordering := by
      cases condition
      · exact .inl rfl
      · exact .inr rfl
    exact (perform_keeps h hc).makes hc hordering
  | _ => exact (perform_keeps h (.inl rfl)).makes (.inl rfl) hordering

end Builder

/-! ## all calls -/

/-- The chains that are open after the calls, innermost first. -/
def position (cs : List (Call α β)) : List Link := cs.foldl (fun ls c => c.links ls) []

/-- Whether a call is offered where these chains are open. -/
def Call.offered (c : Call α β) (ls : List Link) : Bool :=
  ({ Builder.new "" with chain := ls } : Builder α β).permits c

/-- Each call is offered at its position. -/
def Offered (cs : List (Call α β)) : Prop :=
  ∀ before c, before ++ [c] <+: cs → c.offered (position before) = true

theorem position_concat (cs : List (Call α β)) (c : Call α β) :
    position (cs ++ [c]) = c.links (position cs) := by
  rw [position, List.foldl_append, List.foldl_cons, List.foldl_nil, position]

theorem offered_nil : Offered ([] : List (Call α β)) := fun before c h => by
  simpa using List.prefix_nil.mp h

theorem offered_concat {cs : List (Call α β)} {c : Call α β} :
    Offered (cs ++ [c]) ↔ Offered cs ∧ c.offered (position cs) = true := by
  constructor
  · intro h
    exact ⟨fun before d hd => h before d (hd.trans (List.prefix_append _ _)),
      h cs c (List.prefix_refl _)⟩
  · rintro ⟨hcs, hc⟩ before d hd
    rcases List.prefix_concat_iff.mp hd with heq | hd
    · obtain ⟨rfl, hlast⟩ := List.append_inj' heq rfl
      obtain rfl := List.singleton_inj.mp hlast
      exact hc
    · exact hcs before d hd

namespace Builder

variable {b b' : Builder α β} {c : Call α β} {calls : List (Call α β)} {entity : String}

theorem permits_eq (b : Builder α β) (c : Call α β) : b.permits c = c.offered b.chain := by
  cases c <;> rfl

/-- What a builder is after the calls. -/
structure Records (b : Builder α β) (calls : List (Call α β)) : Prop where
  chain : b.chain = position calls
  has : ∀ s, b.has s = true ↔ s ∈ settings calls
  paging : b.PagingMade

theorem Records.new (entity : String) : (new entity : Builder α β).Records [] :=
  ⟨rfl, fun s => by cases s <;> exact iff_of_false nofun List.not_mem_nil, nofun⟩

theorem apply_eq_ok_iff : b.apply c = .ok b' ↔ b.permits c = true ∧ b.perform c = .ok b' := by
  rw [apply]
  cases b.permits c <;> cases b.perform c <;> simp [Except.mapError]

/-- **One call** keeps the record. -/
theorem Records.apply (hb : b.Records calls) (h : b.apply c = .ok b') :
    b'.Records (calls ++ [c]) := by
  obtain ⟨-, hp⟩ := apply_eq_ok_iff.mp h
  have hmakes := perform_makes hp
  refine ⟨?_, fun s => ?_, hmakes.paging hb.paging⟩
  · rw [position_concat, ← hb.chain, (perform_adds hp).chain]
  · rw [hmakes.has, hb.has, settings_concat, List.mem_append, Option.mem_toList]

/-- Accepted is what is offered and fits the calls before. -/
theorem Records.apply_ok_iff (hb : b.Records calls) :
    (∃ b', b.apply c = .ok b') ↔
      c.offered (position calls) = true ∧ c.Fits (· ∈ settings calls) := by
  have hfits : c.Fits (b.has · = true) ↔ c.Fits (· ∈ settings calls) := by
    simp only [Call.Fits, hb.has]
  rw [← hfits, ← perform_ok_iff hb.paging, ← hb.chain, ← permits_eq]
  simp only [apply_eq_ok_iff, exists_and_left]

theorem run_concat_eq_ok_iff {b₁ : Builder α β} :
    b.run (calls ++ [c]) = .ok b₁ ↔ ∃ b', b.run calls = .ok b' ∧ b'.apply c = .ok b₁ := by
  rw [run_append]
  cases b.run calls with
  | error e => simp [Except.bind]
  | ok b' =>
    simp only [Except.bind, run, Except.ok.injEq, exists_eq_left']
    cases b'.apply c <;> exact Iff.rfl

theorem Records.run (h : (Builder.new entity).run calls = .ok b) : b.Records calls := by
  induction calls using List.reverseRecOn generalizing b with
  | nil =>
    cases h
    exact .new entity
  | append_singleton calls c ih =>
    obtain ⟨b', hrun, happly⟩ := run_concat_eq_ok_iff.mp h
    exact (ih hrun).apply happly

/-- Accepted by a new builder are the calls that are offered and lawful. -/
theorem run_ok_iff : (∃ b, (Builder.new entity).run calls = .ok b) ↔
    Offered calls ∧ Lawful calls := by
  induction calls using List.reverseRecOn with
  | nil => exact iff_of_true ⟨_, rfl⟩ ⟨offered_nil, lawful_nil⟩
  | append_singleton calls c ih =>
    rw [offered_concat, lawful_concat, and_and_and_comm, ← ih]
    simp only [run_concat_eq_ok_iff]
    constructor
    · rintro ⟨b, b', hrun, happly⟩
      exact ⟨⟨b', hrun⟩, (Records.run hrun).apply_ok_iff.mp ⟨b, happly⟩⟩
    · rintro ⟨⟨b', hrun⟩, hfits⟩
      obtain ⟨b, happly⟩ := (Records.run hrun).apply_ok_iff.mpr hfits
      exact ⟨b, b', hrun, happly⟩

/-- The calls before `c` are accepted, and then `c` is refused. -/
def StopsAt (b : Builder α β) (before : List (Call α β)) (c : Call α β) (e : SpecError) : Prop :=
  ∃ b', b.run before = .ok b' ∧ b'.apply c = .error (.refused e)

theorem apply_refused_iff : (∃ e, b.apply c = .error (.refused e)) ↔
    b.permits c = true ∧ ¬ ∃ b', b.apply c = .ok b' := by
  rw [apply]
  cases b.permits c <;> cases b.perform c <;> simp [Except.mapError]

theorem stopsAt_iff : (∃ e, (Builder.new entity).StopsAt calls c e) ↔
    Offered (calls ++ [c]) ∧ Lawful calls ∧ ¬ Lawful (calls ++ [c]) := by
  constructor
  · rintro ⟨e, b, hrun, happly⟩
    obtain ⟨hpermits, hnot⟩ := apply_refused_iff.mp ⟨e, happly⟩
    obtain ⟨hoffered, hlawful⟩ := run_ok_iff.mp ⟨b, hrun⟩
    rw [permits_eq, (Records.run hrun).chain] at hpermits
    rw [(Records.run hrun).apply_ok_iff, not_and] at hnot
    exact ⟨offered_concat.mpr ⟨hoffered, hpermits⟩, hlawful,
      fun h => hnot hpermits (lawful_concat.mp h).2⟩
  · rintro ⟨hoffered, hlawful, hnot⟩
    obtain ⟨hbefore, hc⟩ := offered_concat.mp hoffered
    obtain ⟨b, hrun⟩ := run_ok_iff.mpr ⟨hbefore, hlawful⟩
    have hrecords := Records.run hrun
    obtain ⟨e, happly⟩ := apply_refused_iff.mpr ⟨by rw [permits_eq, hrecords.chain, hc], fun hok =>
      hnot (lawful_concat.mpr ⟨hlawful, (hrecords.apply_ok_iff.mp hok).2⟩)⟩
    exact ⟨e, b, hrun, happly⟩

theorem run_refused_iff {e : SpecError} : b.run calls = .error (.refused e) ↔
    ∃ before c after, calls = before ++ c :: after ∧ b.StopsAt before c e := by
  constructor
  · intro h
    induction calls generalizing b with
    | nil => cases h
    | cons c calls ih =>
      rw [run] at h
      cases happly : b.apply c with
      | error e' =>
        rw [happly] at h
        cases h
        exact ⟨[], c, calls, rfl, b, rfl, happly⟩
      | ok b₁ =>
        rw [happly] at h
        obtain ⟨before, d, after, rfl, b', hrun, hd⟩ := ih h
        refine ⟨c :: before, d, after, rfl, b', ?_, hd⟩
        rw [run, happly]
        exact hrun
  · rintro ⟨before, c, after, rfl, b', hrun, happly⟩
    rw [run_append, hrun]
    simp only [Except.bind, run, happly]
    rfl

end Builder

/-- **Accepted calls.** A new builder accepts calls iff they are offered where they are made, no
setting is made twice, a page request does not meet a take or a skip, and no count is too large.
Otherwise it stops at the first call with which this fails. -/
theorem run_new_ok_iff (entity : String) (calls : List (Call α β)) :
    ((∃ b, (Builder.new entity).run calls = .ok b) ↔ Offered calls ∧ Lawful calls) ∧
    (∀ e, (Builder.new entity).run calls = .error (.refused e) ↔
      ∃ before c after, calls = before ++ c :: after ∧ (Builder.new entity).StopsAt before c e) ∧
    ∀ before c, (∃ e, (Builder.new entity : Builder α β).StopsAt before c e) ↔
      Offered (before ++ [c]) ∧ Lawful before ∧ ¬ Lawful (before ++ [c]) :=
  ⟨Builder.run_ok_iff, fun _ => Builder.run_refused_iff, fun _ _ => Builder.stopsAt_iff⟩

end RowSpec
