import RowSpec.Expr.Eval

/-!
# The scan finds every match

* `Wildcard.Stands`    what a code point of a pattern stands for;
* `Wildcard.Matches`   a text is the stretches that the code points of a pattern stand for;
* `Wildcard.Matches.append`, `Wildcard.Matches.count_le`   what matches part by part, and what a text
                       has at least;
* `Wildcard.Scan.Due`  the match that a scan has to decide: from the last `%` on, if there is one;
* `Wildcard.Scan.step_due`  a turn gives the right answer, or leaves the match to decide as it is;
* `Wildcard.Scan.run_iff`   so do all turns together, of which there are not endlessly many;
* `like_decides_match`      the search match accepts the texts that match, and no others.

An earlier `%` can be forgotten: whatever it would take, the stretch between the two `%` ends nearer
to the end of the text, and the text behind it may as well be taken by the later one
(`Wildcard.Leads.late`).
-/

namespace RowSpec

namespace Wildcard

inductive Stands : Char → List Char → Prop
  | run (s : List Char) : Stands '%' s
  | one (c : Char) : Stands '_' [c]
  | self {p : Char} (hrun : p ≠ '%') (hone : p ≠ '_') : Stands p [p]

inductive Matches : List Char → List Char → Prop
  | nil : Matches [] []
  | cons {p : Char} {ps s t : List Char} (hs : Stands p s) (ht : Matches ps t) :
    Matches (p :: ps) (s ++ t)

variable {p c : Char} {ps cs ps' cs' : List Char}

/-! ## the relation -/

theorem matches_cons_iff {text : List Char} :
    Matches (p :: ps) text ↔ ∃ s t, text = s ++ t ∧ Stands p s ∧ Matches ps t := by
  constructor
  · intro h
    cases h with
    | cons hs ht => exact ⟨_, _, rfl, hs, ht⟩
  · rintro ⟨s, t, rfl, hs, ht⟩
    exact .cons hs ht

theorem matches_nil_iff {text : List Char} : Matches [] text ↔ text = [] := by
  constructor
  · intro h
    cases h
    rfl
  · rintro rfl
    exact .nil

/-- A `%` takes what stands before any end of the text. -/
theorem matches_run_iff {text : List Char} :
    Matches ('%' :: ps) text ↔ ∃ t, t <:+ text ∧ Matches ps t := by
  rw [matches_cons_iff]
  constructor
  · rintro ⟨s, t, rfl, -, ht⟩
    exact ⟨t, List.suffix_append s t, ht⟩
  · rintro ⟨t, ⟨s, rfl⟩, ht⟩
    exact ⟨s, t, rfl, .run s, ht⟩

theorem Matches.run_of_suffix {t text : List Char} (h : Matches ('%' :: ps) t) (ht : t <:+ text) :
    Matches ('%' :: ps) text := by
  obtain ⟨u, hu, hmatch⟩ := matches_run_iff.mp h
  exact matches_run_iff.mpr ⟨u, hu.trans ht, hmatch⟩

/-- A `%` takes nothing, or the first code point and maybe more. -/
theorem matches_run_cons_iff :
    Matches ('%' :: ps) (c :: cs) ↔ Matches ps (c :: cs) ∨ Matches ('%' :: ps) cs := by
  rw [matches_run_iff, matches_run_iff]
  constructor
  · rintro ⟨t, ht, hmatch⟩
    rcases List.suffix_cons_iff.mp ht with rfl | ht
    · exact .inl hmatch
    · exact .inr ⟨t, ht, hmatch⟩
  · rintro (hmatch | ⟨t, ht, hmatch⟩)
    · exact ⟨_, List.suffix_refl _, hmatch⟩
    · exact ⟨t, ht.trans (List.suffix_cons c cs), hmatch⟩

/-- A code point other than `%` stands for the code points that it fits. -/
theorem stands_iff (hp : p ≠ '%') {s : List Char} :
    Stands p s ↔ ∃ c, s = [c] ∧ fits p c = true := by
  constructor
  · intro h
    cases h with
    | run => exact absurd rfl hp
    | one c => exact ⟨c, rfl, rfl⟩
    | self => exact ⟨p, rfl, by simp [fits, hp]⟩
  · rintro ⟨c, rfl, hfits⟩
    obtain ⟨-, hc⟩ := Bool.and_eq_true_iff.mp hfits
    by_cases hone : p = '_'
    · exact hone ▸ .one c
    · obtain rfl : p = c := by simpa [hone] using hc
      exact .self hp hone

theorem matches_cons_cons_iff (hp : p ≠ '%') :
    Matches (p :: ps) (c :: cs) ↔ fits p c = true ∧ Matches ps cs := by
  rw [matches_cons_iff]
  constructor
  · rintro ⟨s, t, he, hs, ht⟩
    obtain ⟨d, rfl, hfits⟩ := (stands_iff hp).mp hs
    obtain ⟨rfl, rfl⟩ := List.cons.inj he
    exact ⟨hfits, ht⟩
  · rintro ⟨hfits, ht⟩
    exact ⟨[c], cs, rfl, (stands_iff hp).mpr ⟨c, rfl, hfits⟩, ht⟩

theorem not_matches_cons_nil (hp : p ≠ '%') : ¬ Matches (p :: ps) [] := by
  rw [matches_cons_iff]
  rintro ⟨s, t, he, hs, -⟩
  obtain ⟨c, rfl, -⟩ := (stands_iff hp).mp hs
  cases he

/-- Nothing is left to match where only `%` is left. -/
theorem matches_empty_iff : Matches ps [] ↔ ps.all (· = '%') = true := by
  induction ps with
  | nil => exact iff_of_true .nil rfl
  | cons p ps ih =>
    by_cases hp : p = '%'
    · subst hp
      rw [matches_run_iff]
      simp [ih]
    · simp [hp, not_matches_cons_nil hp]

theorem matches_self (ps : List Char) : Matches ps ps := by
  induction ps with
  | nil => exact .nil
  | cons p ps ih =>
    by_cases hp : p = '%'
    · exact hp ▸ .cons (.run ['%']) ih
    · exact .cons ((stands_iff hp).mpr ⟨p, rfl, by simp [fits, hp]⟩) ih

theorem Matches.append (h : Matches ps cs) (h' : Matches ps' cs') :
    Matches (ps ++ ps') (cs ++ cs') := by
  induction h with
  | nil => exact h'
  | cons hs _ ih =>
    rw [List.append_assoc]
    exact .cons hs ih

/-- A text has each code point that is no wildcard as often as the pattern at least. -/
theorem Matches.count_le (h : Matches ps cs) (hrun : c ≠ '%') (hone : c ≠ '_') :
    ps.count c ≤ cs.count c := by
  induction h with
  | nil => exact Nat.le_refl _
  | @cons p ps s t hs _ ih =>
    have hhead : [p].count c ≤ s.count c := by
      cases hs with
      | run s => simp [hrun.symm]
      | one d => simp [hone.symm]
      | self => exact Nat.le_refl _
    rw [← List.singleton_append, List.count_append, List.count_append]
    exact Nat.add_le_add hhead ih

/-! ## reading code point by code point -/

theorem ne_run_of_fits (h : fits p c = true) : p ≠ '%' := by
  rintro rfl
  cases h

theorem Leads.matches_iff (h : Leads ps cs ps' cs') : Matches ps cs ↔ Matches ps' cs' := by
  induction h with
  | refl => exact Iff.rfl
  | read _ hfits ih =>
    rw [ih, matches_cons_cons_iff (ne_run_of_fits hfits)]
    exact and_iff_right hfits

theorem Leads.suffix (h : Leads ps cs ps' cs') : cs' <:+ cs := by
  induction h with
  | refl => exact List.suffix_refl cs
  | read _ _ ih => exact (List.suffix_cons _ _).trans ih

/-- A match that starts later goes on later as well. -/
theorem Leads.late (h : Leads ps cs ps' cs') {t : List Char} (ht : t <:+ cs)
    (hmatch : Matches ps t) : ∃ t', t' <:+ cs' ∧ Matches ps' t' := by
  induction h with
  | refl => exact ⟨t, ht, hmatch⟩
  | read _ hfits ih =>
    obtain ⟨u, hu, hmatch'⟩ := ih
    have hp := ne_run_of_fits hfits
    cases u with
    | nil => exact absurd hmatch' (not_matches_cons_nil hp)
    | cons d u =>
      refine ⟨u, ?_, ((matches_cons_cons_iff hp).mp hmatch').2⟩
      rcases List.suffix_cons_iff.mp hu with he | hu
      · cases he
        exact List.suffix_refl _
      · exact (List.suffix_cons d u).trans hu

/-! ## the scan -/

namespace Scan

variable {s s' : Scan}

def Due (s : Scan) : Prop :=
  match s.mark with
  | some m => Matches ('%' :: m.pattern) m.text
  | none => Matches s.pattern s.text

/-- What is left decides, if it matches the text that is left wherever it matches an end of it. -/
theorem due_iff (h : ∀ t, t <:+ s.text → Matches s.pattern t → Matches s.pattern s.text) :
    s.Due ↔ Matches s.pattern s.text := by
  obtain ⟨pattern, text, mark, behind⟩ := s
  cases mark with
  | none => exact Iff.rfl
  | some m =>
    have hleads := behind m rfl
    constructor
    · intro hdue
      obtain ⟨t, ht, hmatch⟩ := matches_run_iff.mp hdue
      obtain ⟨t', ht', hmatch'⟩ := hleads.late ht hmatch
      exact h t' ht' hmatch'
    · intro hmatch
      exact matches_run_iff.mpr ⟨m.text, List.suffix_refl _, hleads.matches_iff.mpr hmatch⟩

/-- Without a match of what is left, the last `%` has to take more. -/
theorem retreat_due (hne : s.text ≠ []) (hno : ¬ Matches s.pattern s.text) :
    (s.retreat = .inl false ∧ ¬ s.Due) ∨ ∃ s', s.retreat = .inr s' ∧ (s'.Due ↔ s.Due) := by
  obtain ⟨pattern, text, mark, behind⟩ := s
  rcases mark with _ | ⟨ps, cs⟩
  · exact .inl ⟨rfl, hno⟩
  · have hleads := behind _ rfl
    cases cs with
    | nil => exact absurd (List.suffix_nil.mp hleads.suffix) hne
    | cons c cs =>
      refine .inr ⟨_, rfl, ?_⟩
      have hno' : ¬ Matches ps (c :: cs) := fun hmatch => hno (hleads.matches_iff.mp hmatch)
      exact (matches_run_cons_iff.trans (or_iff_right hno')).symm

/-- **One turn** answers right, or leaves the same match to decide. -/
theorem step_due (s : Scan) :
    (∃ answer, s.step = .inl answer ∧ (answer = true ↔ s.Due)) ∨
    ∃ s', s.step = .inr s' ∧ (s'.Due ↔ s.Due) := by
  have hretreat : s.text ≠ [] → ¬ Matches s.pattern s.text → s.step = s.retreat →
      (∃ answer, s.step = .inl answer ∧ (answer = true ↔ s.Due)) ∨
      ∃ s', s.step = .inr s' ∧ (s'.Due ↔ s.Due) := by
    intro hne hno he
    rw [he]
    exact (retreat_due hne hno).imp (fun ⟨hr, hdue⟩ => ⟨false, hr, iff_of_false nofun hdue⟩) id
  obtain ⟨pattern, text, mark, behind⟩ := s
  cases text with
  | nil =>
    refine .inl ⟨_, rfl, ?_⟩
    rw [due_iff fun t ht hmatch => List.suffix_nil.mp ht ▸ hmatch]
    exact matches_empty_iff.symm
  | cons c cs =>
    cases pattern with
    | nil => exact hretreat (List.cons_ne_nil c cs) (by simp [matches_nil_iff]) rfl
    | cons p ps =>
      by_cases hp : p = '%'
      · refine .inr ⟨_, if_pos hp, ?_⟩
        subst hp
        -- the new `%` may take what lies before a match of what stands behind it
        exact (due_iff (s := ⟨'%' :: ps, c :: cs, mark, behind⟩)
          fun t ht hmatch => hmatch.run_of_suffix ht).symm
      · by_cases hfits : fits p c = true
        · refine .inr ⟨_, (if_neg hp).trans (dif_pos hfits), ?_⟩
          cases mark with
          | none => exact ((matches_cons_cons_iff hp).trans (and_iff_right hfits)).symm
          | some m => exact Iff.rfl
        · refine hretreat (List.cons_ne_nil c cs) ?_ ((if_neg hp).trans (dif_neg hfits))
          exact fun hmatch => hfits ((matches_cons_cons_iff hp).mp hmatch).1

theorem wellFounded_step : WellFounded fun s' s : Scan => s.step = .inr s' :=
  Subrelation.wf step_below (InvImage.wf measure
    (Prod.lex Nat.lt_wfRel (Prod.lex Nat.lt_wfRel Nat.lt_wfRel)).wf)

/-- **All turns** together decide the match. -/
theorem run_iff (s : Scan) : s.run = true ↔ s.Due := by
  induction s using run.induct with
  | case1 s answer h =>
    rw [run, h]
    rcases s.step_due with ⟨answer', h', hdue⟩ | ⟨s', h', -⟩
    · cases h.symm.trans h'
      exact hdue
    · cases h.symm.trans h'
  | case2 s next h ih =>
    rw [run, h]
    rcases s.step_due with ⟨answer', h', -⟩ | ⟨s', h', hdue⟩
    · cases h.symm.trans h'
    · cases h.symm.trans h'
      exact ih.trans hdue

end Scan

theorem accepts_iff (pattern text : List Char) :
    accepts pattern text = true ↔ Matches pattern text := Scan.run_iff _

end Wildcard

theorem like_iff (text pattern : String) :
    like text pattern = true ↔ Wildcard.Matches (lower pattern.toList) (lower text.toList) :=
  Wildcard.accepts_iff _ _

/-- **The search match.** No scan goes on for ever; and it accepts a text just if, lower-cased, it is
split into the stretches that the code points of the lower-cased pattern stand for. -/
theorem like_decides_match :
    WellFounded (fun s' s : Wildcard.Scan => s.step = .inr s') ∧
    ∀ text pattern : String,
      like text pattern = true ↔ Wildcard.Matches (lower pattern.toList) (lower text.toList) :=
  ⟨Wildcard.Scan.wellFounded_step, like_iff⟩

end RowSpec
