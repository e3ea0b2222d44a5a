import Mathlib.Data.List.Basic
import Mathlib.Data.List.Induction
import RowSpec.Proofs.Expr.Faithful
import RowSpec.Proofs.Specification.Includes
import RowSpec.Specification.Canonical

/-!
# Reading the canonical shape

The parts of the canonical shape that select, group, order and cut rows are found again in it, as
long as no raw include path is mistaken for parts that come after the includes.

* `barred`                 parts, each behind a bar of its own;
* `tagged_inj`             parts of one tag in front, read from the left;
* `barred_concat_inj`, `barred_append_inj`    parts without bars at the end, read from the right;
* `Facets.Plain`, `Facets.RegularTimes`    plain names throughout, no leap second out of place;
* `Facets.Legible`         without grouping, the last raw path does not end like one or an ordering;
* `Facets.SameShape`       what specifications of equal canonical shape agree in;
* `Facets.Readable.sameShape`   that they do.
-/

namespace RowSpec

/-! ## parts -/

/-- the parts, each behind a bar -/
def barred (parts : List (List Char)) : List Char := parts.flatMap ('|' :: ·)

/-- Each part starts with one of these letters. -/
def Tagged (tags : List Char) (parts : List (List Char)) : Prop :=
  ∀ p ∈ parts, ∃ c ∈ tags, ∃ s, p = c :: s

/-- Nothing, or a part of its own behind a bar. -/
def Bar (x : List Char) : Prop := ∀ c ∈ x.head?, c = '|'

section
variable {ps qs as bs : List (List Char)} {p q x y : List Char} {c : Char} {tags : List Char}

theorem barred_cons (p : List Char) (ps : List (List Char)) :
    barred (p :: ps) = '|' :: (p ++ barred ps) := rfl

theorem barred_append (ps qs : List (List Char)) : barred (ps ++ qs) = barred ps ++ barred qs :=
  List.flatMap_append

theorem barred_concat (ps : List (List Char)) (p : List Char) :
    barred (ps ++ [p]) = barred ps ++ '|' :: p := by
  rw [barred_append, barred_cons]
  exact congrArg (fun s => barred ps ++ '|' :: s) (List.append_nil p)

theorem barred_eq (h : ps ≠ []) : barred ps = '|' :: joinBars ps := by
  induction ps with
  | nil => exact absurd rfl h
  | cons p ps ih =>
    rw [barred_cons]
    cases ps with
    | nil => exact congrArg _ (List.append_nil p)
    | cons q qs =>
      rw [ih (List.cons_ne_nil _ _)]
      rfl

theorem bar_barred (ps : List (List Char)) (hx : Bar x) : Bar (barred ps ++ x) := by
  cases ps with
  | nil => exact hx
  | cons p ps =>
    intro c hc
    cases hc
    rfl

theorem Tagged.mono {tags' : List Char} (h : Tagged tags ps) (hsub : tags ⊆ tags') :
    Tagged tags' ps := fun p hp =>
  let ⟨c, hc, hcs⟩ := h p hp
  ⟨c, hsub hc, hcs⟩

theorem Tagged.append (hp : Tagged tags ps) (hq : Tagged tags qs) : Tagged tags (ps ++ qs) :=
  fun p hmem => (List.mem_append.mp hmem).elim (hp p) (hq p)

theorem tagged_map {ε : Type} {c : Char} {as : List ε} {text : ε → List Char} (hc : c ∈ tags)
    (s : List Char) : Tagged tags (as.map fun a => c :: s ++ text a) := by
  intro p hmem
  obtain ⟨a, -, rfl⟩ := List.mem_map.mp hmem
  exact ⟨c, hc, _, rfl⟩

/-- The first part has a tag of its own. -/
theorem Tagged.not_head (h : Tagged tags ps) (hc : c ∉ tags) (s : List Char) :
    ¬ ('|' :: c :: s) <+: barred ps := by
  rintro ⟨t, ht⟩
  cases ps with
  | nil => cases ht
  | cons p ps =>
    obtain ⟨d, hd, p', rfl⟩ := h p List.mem_cons_self
    obtain rfl : c = d := (List.cons.inj (List.cons.inj ht).2).1
    exact hc hd

/-! ## from the left -/

/-- Parts of one tag, if each is read in front of a bar and no such part comes next. -/
theorem tagged_inj {ε : Type} {tag : List Char} {text : ε → List Char} {ok : ε → Prop}
    (hread : ∀ {a b x y}, ok a → ok b → Bar x → Bar y → text a ++ x = text b ++ y → a = b ∧ x = y)
    {as bs : List ε} (has : ∀ a ∈ as, ok a) (hbs : ∀ b ∈ bs, ok b) (hx : Bar x) (hy : Bar y)
    (hx' : ¬ ('|' :: tag) <+: x) (hy' : ¬ ('|' :: tag) <+: y)
    (h : barred (as.map fun a => tag ++ text a) ++ x = barred (bs.map fun b => tag ++ text b) ++ y) :
    as = bs ∧ x = y := by
  induction as generalizing bs with
  | nil =>
    cases bs with
    | nil => exact ⟨rfl, h⟩
    | cons b bs =>
      refine absurd ?_ hx'
      change x = _ at h
      rw [h, List.map_cons, barred_cons, List.cons_append, List.append_assoc, List.append_assoc]
      exact ⟨_, rfl⟩
  | cons a as ih =>
    cases bs with
    | nil =>
      refine absurd ?_ hy'
      change _ = y at h
      rw [← h, List.map_cons, barred_cons, List.cons_append, List.append_assoc, List.append_assoc]
      exact ⟨_, rfl⟩
    | cons b bs =>
      obtain ⟨ha, has'⟩ := List.forall_mem_cons.mp has
      obtain ⟨hb, hbs'⟩ := List.forall_mem_cons.mp hbs
      rw [List.map_cons, List.map_cons, barred_cons, barred_cons, List.cons_append,
        List.cons_append] at h
      simp only [List.append_assoc] at h
      obtain ⟨rfl, hrest⟩ := hread ha hb (bar_barred _ hx) (bar_barred _ hy)
        (List.append_cancel_left (List.cons.inj h).2)
      obtain ⟨rfl, hxy⟩ := ih has' hbs' hrest
      exact ⟨rfl, hxy⟩

/-! ## from the right -/

theorem barred_concat_inj (hp : '|' ∉ p) (hq : '|' ∉ q)
    (h : barred (ps ++ [p]) = barred (qs ++ [q])) : barred ps = barred qs ∧ p = q := by
  rw [barred_concat, barred_concat] at h
  exact last_inj hp hq h

/-- Parts without bars, if what comes before does not end with such a part of the other text. -/
theorem barred_append_inj (has : ∀ a ∈ as, '|' ∉ a) (hbs : ∀ b ∈ bs, '|' ∉ b)
    (hps : ∀ b ∈ bs, ¬ ('|' :: b) <:+ barred ps) (hqs : ∀ a ∈ as, ¬ ('|' :: a) <:+ barred qs)
    (h : barred (ps ++ as) = barred (qs ++ bs)) : barred ps = barred qs ∧ as = bs := by
  induction as using List.reverseRecOn generalizing bs with
  | nil =>
    rcases List.eq_nil_or_concat' bs with rfl | ⟨bs, b, rfl⟩
    · rw [List.append_nil, List.append_nil] at h
      exact ⟨h, rfl⟩
    · refine absurd ?_ (hps b (List.mem_append_right _ List.mem_cons_self))
      rw [List.append_nil, ← List.append_assoc, barred_concat] at h
      exact ⟨_, h.symm⟩
  | append_singleton as a ih =>
    rcases List.eq_nil_or_concat' bs with rfl | ⟨bs, b, rfl⟩
    · refine absurd ?_ (hqs a (List.mem_append_right _ List.mem_cons_self))
      rw [List.append_nil, ← List.append_assoc, barred_concat] at h
      exact ⟨_, h⟩
    · obtain ⟨has', ha⟩ := List.forall_mem_append.mp has
      obtain ⟨hbs', hb⟩ := List.forall_mem_append.mp hbs
      rw [← List.append_assoc, ← List.append_assoc] at h
      obtain ⟨hrest, rfl⟩ := barred_concat_inj (ha a List.mem_cons_self) (hb b List.mem_cons_self) h
      obtain ⟨hpq, rfl⟩ := ih has' hbs' (List.forall_mem_append.mp hps).1
        (List.forall_mem_append.mp hqs).1 hrest
      exact ⟨hpq, rfl⟩

end

/-! ## searches -/

theorem Bar.head_ne {x : List Char} (h : Bar x) : ∀ c ∈ x.head?, c.isDigit = false :=
  fun c hc => by rw [h c hc]; rfl

theorem SearchEntry.reads {s t : SearchEntry} (hs : PlainName s.field) (ht : PlainName t.field)
    {x y : List Char} (hx : Bar x) (hy : Bar y) (h : s.chars ++ x = t.chars ++ y) :
    s = t ∧ x = y := by
  unfold SearchEntry.chars Value.chars at h
  simp only [List.append_assoc, List.cons_append, List.nil_append] at h
  obtain ⟨hfield, h⟩ := first_inj (hs.not_mem (by decide)) (ht.not_mem (by decide)) h
  have hat : ∀ z : List Char, ('@' :: z).head? ≠ some '\'' := fun z hz =>
    absurd (Option.some.inj hz) (by decide)
  obtain ⟨hpattern, h⟩ := Value.quotedChars_prefix (hat _) (hat _) (List.cons.inj h).2
  obtain ⟨hgroup, hxy⟩ := digits_span (over_digits _) (over_digits _) hx.head_ne hy.head_ne
    (List.cons.inj h).2
  have hfield := String.toList_injective hfield
  have hpattern := String.toList_injective hpattern
  have hgroup := digits_inj hgroup
  cases s
  cases t
  cases hfield
  cases hpattern
  cases hgroup
  exact ⟨rfl, hxy⟩

/-! ## paging -/

theorem over_optionalCount (n : Option Nat) : Over ['-'] (optionalCount n) := by
  cases n with
  | none => exact .cons (by decide) fun _ hc => nomatch hc
  | some n => exact over_digits n

theorem optionalCount_injective : Function.Injective optionalCount := by
  have hsign : ∀ n, digits n ≠ ['-'] := fun n h =>
    not_mem_digits rfl n (h ▸ List.mem_cons_self)
  intro m n h
  cases m <;> cases n
  case none.none => rfl
  case none.some n => exact absurd h.symm (hsign n)
  case some.none m => exact absurd h (hsign m)
  case some.some m n => exact congrArg some (digits_inj h)

namespace Paging

theorem over_window (skip take : Option Nat) : Over ['-', '/'] (window skip take).chars :=
  ((over_optionalCount skip).mono (by decide)).append
    (.cons (by decide) ((over_optionalCount take).mono (by decide)))

theorem over_page (r : PageRequest) : Over ['#', 'x'] (page r).chars :=
  .cons (by decide) ((over_digits _).append (.cons (by decide) (over_digits _)))

theorem not_mem_chars (p : Paging) : '|' ∉ p.chars := by
  cases p with
  | none => decide
  | window skip take => exact (over_window skip take).not_mem rfl (by decide)
  | page r => exact (over_page r).not_mem rfl (by decide)

theorem chars_injective : Function.Injective chars := by
  have hwindow : ∀ skip take, '/' ∈ (window skip take).chars := fun skip take =>
    List.mem_append_right _ List.mem_cons_self
  have hpage : ∀ r, '#' ∈ (page r).chars := fun r => List.mem_cons_self
  intro p q h
  cases p <;> cases q
  case none.none => rfl
  case none.window skip take => exact absurd (h ▸ hwindow skip take) (by decide)
  case none.page r => exact absurd (h ▸ hpage r) (by decide)
  case window.none skip take => exact absurd (h ▸ hwindow skip take) (by decide)
  case page.none r => exact absurd (h ▸ hpage r) (by decide)
  case window.page skip take r =>
    exact absurd (h ▸ hpage r) ((over_window skip take).not_mem rfl (by decide))
  case page.window r skip take =>
    exact absurd (h ▸ hpage r) ((over_window skip take).not_mem rfl (by decide))
  case window.window skip take skip' take' =>
    have hno : ∀ n, '/' ∉ optionalCount n := fun n => (over_optionalCount n).not_mem rfl (by decide)
    obtain ⟨hskip, htake⟩ := first_inj (hno skip) (hno skip') h
    rw [optionalCount_injective hskip, optionalCount_injective htake]
  case page.page r r' =>
    have hno : ∀ n, 'x' ∉ digits n := not_mem_digits rfl
    obtain ⟨hnumber, hsize⟩ := first_inj (hno _) (hno _) (List.cons.inj h).2
    have hnumber := digits_inj hnumber
    have hsize := digits_inj hsize
    cases r
    cases r'
    cases hnumber
    cases hsize
    rfl

end Paging

/-! ## facets -/

/-- A part that comes after the includes: a grouping or an ordering, with a plain name. -/
inductive Placing : List Char → Prop
  | group {name : String} (h : PlainName name) : Placing ("g:".toList ++ name.toList)
  | order {o : OrderEntry} (h : PlainName o.key.field) :
    Placing ("o:".toList ++ o.sign :: o.key.field.toList)

/-- Behind a bar, the path ends like a grouping or an ordering. -/
def Mimics (path : String) : Prop := ∃ part, Placing part ∧ ('|' :: part) <:+ path.toList

theorem Placing.not_mem {part : List Char} (h : Placing part) : '|' ∉ part := by
  cases h with
  | group h =>
    intro hmem
    rcases List.mem_append.mp hmem with hmem | hmem
    · revert hmem
      decide
    · exact h.not_mem (by decide) hmem
  | @order o h =>
    have hsign : o.sign ≠ '|' := by
      unfold OrderEntry.sign
      split <;> decide
    intro hmem
    rcases List.mem_append.mp hmem with hmem | hmem
    · revert hmem
      decide
    · rcases List.mem_cons.mp hmem with hmem | hmem
      · exact hsign hmem.symm
      · exact h.not_mem (by decide) hmem

theorem Placing.head {part : List Char} (h : Placing part) : part.head? ≠ some 'i' := by
  cases h <;> exact fun he => absurd (Option.some.inj he) (by decide)

namespace Facets

structure Plain (f : Facets) : Prop where
  predicates : ∀ e ∈ f.predicates, e.Plain
  searches : ∀ s ∈ f.searches, PlainName s.field
  navigations : ∀ i ∈ f.includes, PlainName i.navigation.name
  groupKey : ∀ name ∈ f.groupKey, PlainName name
  orderings : ∀ o ∈ f.orderings, PlainName o.key.field

/-- No value in the predicates has a leap second out of place. -/
def RegularTimes (f : Facets) : Prop := ∀ e ∈ f.predicates, e.RegularTimes

instance (f : Facets) : Decidable f.RegularTimes :=
  inferInstanceAs (Decidable (∀ e ∈ f.predicates, e.RegularTimes))

/-- Where there is no grouping, the last raw path is not taken for one, nor for an ordering. -/
def Legible (f : Facets) : Prop :=
  f.groupKey = none → ∀ path ∈ f.includePaths.getLast?, ¬ Mimics path

/-- What reading the canonical shape takes. -/
structure Readable (f : Facets) : Prop where
  plain : f.Plain
  times : f.RegularTimes
  legible : f.Legible
  paths : ∀ i ∈ f.includes, '|' ∉ i.path.toList

theorem Built.readable {f : Facets} (hf : f.Built) (hplain : f.Plain) (htimes : f.RegularTimes)
    (hlegible : f.Legible) : f.Readable where
  plain := hplain
  times := htimes
  legible := hlegible
  paths i hi hbar := by
    rcases hf.walks i hi '|' hbar with h | ⟨i', hi', hmem⟩
    · exact absurd h (by decide)
    · exact (hplain.navigations i' hi').not_mem (by decide) hmem

theorem Readable.predicates {f : Facets} (hf : f.Readable) : ∀ e ∈ f.predicates, e.Readable :=
  fun e he => ⟨hf.plain.predicates e he, hf.times e he⟩

/-! ## parts of facets -/

def predicateParts (f : Facets) : List (List Char) :=
  f.predicates.map fun e => "w:".toList ++ e.chars

def searchParts (f : Facets) : List (List Char) :=
  f.searches.map fun s => "s:".toList ++ s.chars

def includeTexts (f : Facets) : List String := f.includes.map (·.path) ++ f.includePaths

def includeParts (f : Facets) : List (List Char) :=
  f.includeTexts.map fun p => "i:".toList ++ p.toList

def groupParts (f : Facets) : List (List Char) :=
  f.groupKey.toList.map fun k => "g:".toList ++ k.toList

def orderParts (f : Facets) : List (List Char) :=
  f.orderings.map fun o => "o:".toList ++ o.sign :: o.key.field.toList

def ignoreParts (f : Facets) : List (List Char) :=
  if f.ignoreQueryFilters then ["f:ignore".toList] else []

/-- the parts that come after those that select rows -/
def laterParts (f : Facets) : List (List Char) :=
  f.includeParts ++ f.groupParts ++ f.orderParts ++ ["p:".toList ++ f.paging.chars] ++ f.ignoreParts

variable {f g : Facets}

theorem canonicalParts_eq (f : Facets) :
    f.canonicalParts = f.predicateParts ++ (f.searchParts ++ f.laterParts) := by
  unfold canonicalParts laterParts includeParts includeTexts
  rw [List.map_append, List.map_map]
  simp only [List.append_assoc]
  rfl

theorem barred_of_canonical (h : f.canonical = g.canonical) :
    barred f.canonicalParts = barred g.canonicalParts := by
  have hne : ∀ f : Facets, f.canonicalParts ≠ [] := fun f => by
    have hmem : "p:".toList ++ f.paging.chars ∈ f.laterParts :=
      List.mem_append_left _ (List.mem_append_right _ List.mem_cons_self)
    rw [canonicalParts_eq]
    exact List.ne_nil_of_mem (List.mem_append_right _ (List.mem_append_right _ hmem))
  rw [barred_eq (hne f), barred_eq (hne g)]
  exact congrArg _ (String.ofList_injective h)

theorem tagged_laterParts (f : Facets) : Tagged ['i', 'g', 'o', 'p', 'f'] f.laterParts := by
  have hone : ∀ {c : Char} {s : List Char}, c ∈ ['i', 'g', 'o', 'p', 'f'] →
      Tagged ['i', 'g', 'o', 'p', 'f'] [c :: s] := fun hc p hp =>
    ⟨_, hc, _, List.mem_singleton.mp hp⟩
  refine ((((tagged_map (by decide) [':']).append (tagged_map (by decide) [':'])).append
    (tagged_map (by decide) [':'])).append (hone (by decide))).append ?_
  unfold ignoreParts
  split
  · exact hone (by decide)
  · exact fun _ hp => nomatch hp

/-! ## reading them -/

/-- No part that comes after the includes is hidden in their end. -/
theorem Readable.not_placing_includes (hf : f.Readable) (hgroup : f.groupKey = none)
    {part : List Char} (hpart : Placing part) : ¬ ('|' :: part) <:+ barred f.includeParts := by
  have hlast : ∀ init p, f.includeTexts = init ++ [p] → ¬ ('|' :: part) <:+ p.toList := by
    intro init p htexts hsuffix
    rcases List.eq_nil_or_concat' f.includePaths with hnil | ⟨raw, p', hraw⟩
    · -- the last path is a typed one
      have hp : p ∈ f.includes.map (·.path) := by
        unfold includeTexts at htexts
        rw [hnil, List.append_nil] at htexts
        rw [htexts]
        exact List.mem_append_right _ List.mem_cons_self
      obtain ⟨i, hi, rfl⟩ := List.mem_map.mp hp
      exact hf.paths i hi (hsuffix.subset List.mem_cons_self)
    · unfold includeTexts at htexts
      rw [hraw, ← List.append_assoc] at htexts
      obtain rfl := List.singleton_inj.mp (List.append_inj_right' htexts rfl)
      refine hf.legible hgroup p' ?_ ⟨part, hpart, hsuffix⟩
      rw [hraw, List.getLast?_concat]
      exact Option.mem_some_self _
  rintro ⟨s, hs⟩
  unfold includeParts at hs
  rcases List.eq_nil_or_concat' f.includeTexts with hnil | ⟨init, p, htexts⟩
  · rw [hnil] at hs
    exact absurd hs (List.append_ne_nil_of_right_ne_nil _ (List.cons_ne_nil _ _))
  · rw [htexts, List.map_append, List.map_singleton, barred_concat] at hs
    rcases last_cases hpart.not_mem hs.symm with ⟨-, he⟩ | ⟨z, hz⟩
    · exact hpart.head (he ▸ rfl)
    · -- the bar is none of the two characters in front of the path
      match z, hz with
      | [], hz => exact absurd (List.cons.inj hz).1 (by decide)
      | [_], hz => exact absurd (List.cons.inj (List.cons.inj hz).2).1 (by decide)
      | _ :: _ :: z, hz =>
        exact hlast init p htexts ⟨z, (List.cons.inj (List.cons.inj hz).2).2.symm⟩

theorem Readable.placing_orderParts (hf : f.Readable) : ∀ p ∈ f.orderParts, Placing p := by
  intro p hp
  obtain ⟨o, ho, rfl⟩ := List.mem_map.mp hp
  exact .order (hf.plain.orderings o ho)

/-- Before the orderings comes a grouping, which is none, or the includes. -/
theorem Readable.not_ordering_before (hf : f.Readable) (hg : g.Readable) :
    ∀ p ∈ g.orderParts, ¬ ('|' :: p) <:+ barred (f.includeParts ++ f.groupParts) := by
  intro p hp hsuffix
  have hpart := hg.placing_orderParts p hp
  cases hgroup : f.groupKey with
  | none =>
    unfold groupParts at hsuffix
    rw [hgroup, Option.toList_none, List.map_nil, List.append_nil] at hsuffix
    exact hf.not_placing_includes hgroup hpart hsuffix
  | some name =>
    have hname : Placing ("g:".toList ++ name.toList) := .group (hf.plain.groupKey name hgroup)
    unfold groupParts at hsuffix
    rw [hgroup, Option.toList_some, List.map_singleton, barred_concat] at hsuffix
    obtain ⟨s, hs⟩ := hsuffix
    obtain ⟨-, he⟩ := last_inj hpart.not_mem hname.not_mem hs
    obtain ⟨o, -, rfl⟩ := List.mem_map.mp hp
    exact absurd (List.cons.inj he).1 (by decide)

theorem Readable.groupKey_eq (hf : f.Readable) (hg : g.Readable)
    (h : barred (f.includeParts ++ f.groupParts) = barred (g.includeParts ++ g.groupParts)) :
    f.groupKey = g.groupKey := by
  have hname : ∀ {f : Facets} {name : String}, f.Readable → f.groupKey = some name →
      Placing ("g:".toList ++ name.toList) := fun hf hname => .group (hf.plain.groupKey _ hname)
  unfold groupParts at h
  cases hfk : f.groupKey with
  | none =>
    cases hgk : g.groupKey with
    | none => rfl
    | some name =>
      rw [hfk, hgk, Option.toList_none, List.map_nil, List.append_nil, Option.toList_some,
        List.map_singleton, barred_concat] at h
      exact absurd ⟨_, h.symm⟩ (hf.not_placing_includes hfk (hname hg hgk))
  | some name =>
    cases hgk : g.groupKey with
    | none =>
      rw [hfk, hgk, Option.toList_none, List.map_nil, List.append_nil, Option.toList_some,
        List.map_singleton, barred_concat] at h
      exact absurd ⟨_, h⟩ (hg.not_placing_includes hgk (hname hf hfk))
    | some name' =>
      rw [hfk, hgk, Option.toList_some, Option.toList_some, List.map_singleton,
        List.map_singleton] at h
      obtain ⟨-, he⟩ := barred_concat_inj (hname hf hfk).not_mem (hname hg hgk).not_mem h
      exact congrArg some (String.toList_injective (List.append_cancel_left he))

/-- the part of a sort key -/
def keyPart (k : SortKey) : List Char :=
  "o:".toList ++ OrderEntry.sign ⟨k, .primary⟩ :: k.field.toList

theorem keyPart_injective : Function.Injective keyPart := by
  intro k k' h
  obtain ⟨hsign, hfield⟩ := List.cons.inj (List.append_cancel_left h)
  have hfield := String.toList_injective hfield
  have hdirection : k.direction = k'.direction := by
    unfold OrderEntry.sign at hsign
    cases hk : k.direction <;> cases hk' : k'.direction <;> rw [hk, hk'] at hsign <;>
      first | rfl | exact absurd hsign (by decide)
  cases k
  cases k'
  cases hfield
  cases hdirection
  rfl

theorem orderParts_eq (f : Facets) : f.orderParts = (f.orderings.map (·.key)).map keyPart := by
  rw [List.map_map]
  rfl

/-- The last part of all, or the last but one, is that of the paging. -/
theorem laterParts_inj (h : barred f.laterParts = barred g.laterParts) :
    f.ignoreQueryFilters = g.ignoreQueryFilters ∧ f.paging = g.paging ∧
      barred (f.includeParts ++ f.groupParts ++ f.orderParts) =
        barred (g.includeParts ++ g.groupParts ++ g.orderParts) := by
  have hpaging : ∀ p : Paging, '|' ∉ "p:".toList ++ p.chars := fun p hmem => by
    rcases List.mem_append.mp hmem with hmem | hmem
    · revert hmem
      decide
    · exact p.not_mem_chars hmem
  have hignore : '|' ∉ "f:ignore".toList := by decide
  have hcut : ∀ {ps qs : List (List Char)}, barred (ps ++ ["p:".toList ++ f.paging.chars]) =
      barred (qs ++ ["p:".toList ++ g.paging.chars]) → barred ps = barred qs ∧ f.paging = g.paging :=
    fun hcut => by
      obtain ⟨hrest, he⟩ := barred_concat_inj (hpaging _) (hpaging _) hcut
      exact ⟨hrest, Paging.chars_injective (List.append_cancel_left he)⟩
  unfold laterParts ignoreParts at h
  cases hf : f.ignoreQueryFilters <;> cases hg : g.ignoreQueryFilters <;>
    simp only [hf, hg, if_true, Bool.false_eq_true, if_false, List.append_nil] at h
  · obtain ⟨hrest, hp⟩ := hcut h
    exact ⟨rfl, hp, hrest⟩
  · exact absurd (List.cons.inj (barred_concat_inj (hpaging _) hignore h).2).1 (by decide)
  · exact absurd (List.cons.inj (barred_concat_inj hignore (hpaging _) h).2).1 (by decide)
  · obtain ⟨hrest, hp⟩ := hcut (barred_concat_inj hignore hignore h).1
    exact ⟨rfl, hp, hrest⟩

/-- Equal in all that decides which rows are read, and in which order. -/
structure SameShape (f g : Facets) : Prop where
  predicates : f.predicates = g.predicates
  searches : f.searches = g.searches
  groupKey : f.groupKey = g.groupKey
  keys : f.orderings.map (·.key) = g.orderings.map (·.key)
  paging : f.paging = g.paging
  ignoreQueryFilters : f.ignoreQueryFilters = g.ignoreQueryFilters

/-- **Equal canonical shapes** of facets that can be read. -/
theorem Readable.sameShape (hf : f.Readable) (hg : g.Readable)
    (h : f.canonical = g.canonical) : f.SameShape g := by
  have hends : ∀ {x : List Char}, Bar x → Expr.Ends x := fun hx c hc => by
    rw [hx c hc]
    decide
  have hparts := barred_of_canonical h
  rw [canonicalParts_eq, canonicalParts_eq, barred_append f.predicateParts,
    barred_append g.predicateParts] at hparts
  have hsearch : ∀ f : Facets,
      Tagged ['s', 'i', 'g', 'o', 'p', 'f'] (f.searchParts ++ f.laterParts) := fun f =>
    (tagged_map (by decide) [':']).append (f.tagged_laterParts.mono (by decide))
  have hbar : ∀ ps : List (List Char), Bar (barred ps) := fun ps => by
    have := bar_barred ps (x := []) nofun
    rwa [List.append_nil] at this
  obtain ⟨hpredicates, hrest⟩ := tagged_inj
    (fun ha hb hx hy he => Expr.reads _ ha _ _ _ hb (hends hx) (hends hy) he)
    hf.predicates hg.predicates (hbar _) (hbar _)
    ((hsearch f).not_head (by decide) [':']) ((hsearch g).not_head (by decide) [':']) hparts
  rw [barred_append, barred_append] at hrest
  obtain ⟨hsearches, hrest⟩ := tagged_inj (fun ha hb hx hy he => SearchEntry.reads ha hb hx hy he)
    hf.plain.searches hg.plain.searches (hbar _) (hbar _)
    (f.tagged_laterParts.not_head (by decide) [':'])
    (g.tagged_laterParts.not_head (by decide) [':']) hrest
  obtain ⟨hignore, hpaging, hplacing⟩ := laterParts_inj hrest
  obtain ⟨hgrouping, horders⟩ := barred_append_inj
    (fun p hp => (hf.placing_orderParts p hp).not_mem)
    (fun p hp => (hg.placing_orderParts p hp).not_mem)
    (hf.not_ordering_before hg) (hg.not_ordering_before hf) hplacing
  rw [orderParts_eq, orderParts_eq] at horders
  exact ⟨hpredicates, hsearches, hf.groupKey_eq hg hgrouping,
    List.map_injective_iff.mpr keyPart_injective horders, hpaging, hignore⟩

end Facets

end RowSpec
