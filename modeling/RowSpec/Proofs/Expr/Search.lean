import RowSpec.Expr.Reference
import RowSpec.Proofs.Text.LowerCase
import RowSpec.Proofs.Text.Wildcard
import RowSpec.Record.Keyed

/-!
# Searches and text filters

A search lower-cases the text and the pattern each as a whole. It finds what a filter on the same
needle finds, as long as the needle is lower-cased in the text as it is in the pattern.

* `FieldRef.holds_textCall_iff`   a call on a field holds if the field is a text of which the
                                  function says so;
* `lower_framed`                  wildcards do not change how a needle is lower-cased;
* `Finds`                         a search finds every row that a filter finds;
* `search_finds_iff`              which needles are found: those without a sigma at an open end;
* `search_misses_open_sigma`      a row that a search misses.
-/

namespace RowSpec

/-! ## calls on a field -/

theorem occursIn_iff {needle text : List Char} : occursIn needle text = true ↔ needle <:+: text := by
  induction text with
  | nil => simp [occursIn]
  | cons c t ih => rw [occursIn, Bool.or_eq_true_iff, ih, List.isPrefixOf_iff_prefix,
      List.infix_cons_iff]

theorem FieldRef.holds_textCall_iff {ρ : Type} [Record ρ] {row : ρ} {f : FieldRef}
    {function argument : String} :
    (f.textCall function argument).holds row = .ok true ↔
      ∃ text, Record.field row f.name = some (.text text) ∧
        textFunction? function text argument = some true := by
  have heval : (f.textCall function argument).holds row =
      (Record.fetch row f.name).bind fun v => applyCall function v (.text argument) := by
    rw [textCall, Expr.holds]
    rfl
  rw [heval]
  cases hfield : Record.field row f.name with
  | none => simp [Record.fetch_of_none hfield, Except.bind]
  | some v =>
    rw [Record.fetch_of_some hfield]
    cases v with
    | text text =>
      cases hcall : textFunction? function text argument <;>
        simp [Except.bind, applyCall, hcall]
    | _ => simp [Except.bind, applyCall]

/-! ## patterns -/

/-- Nothing, or a `%`. -/
def IsFrame (s : List Char) : Prop := s = [] ∨ s = ['%']

variable {pre post needle before after : List Char}

theorem IsFrame.not_startsCased (h : IsFrame pre) : startsCased pre.reverse = false := by
  rcases h with rfl | rfl <;> decide

theorem IsFrame.lowerBetween (h : IsFrame pre) : lowerBetween before after pre = pre := by
  rcases h with rfl | rfl
  · rfl
  · exact lowerBetween_self (by decide) (by decide)

theorem lower_framed (hpre : IsFrame pre) (hpost : IsFrame post) (needle : List Char) :
    lower (pre ++ (needle ++ post)) = pre ++ (lower needle ++ post) := by
  have hpost' : startsCased post = false := by
    rcases hpost with rfl | rfl <;> decide
  rw [lower_append_append, hpre.lowerBetween, hpost.lowerBetween,
    lowerBetween_eq_lower (by simp [hpre.not_startsCased]) (by simp [hpost'])]

/-! ## texts that are found -/

/-- A frame that is nothing stands for nothing. -/
theorem IsFrame.matches (hpre : IsFrame pre) (h : pre = [] → before = []) :
    Wildcard.Matches pre before := by
  rcases hpre with rfl | rfl
  · rw [h rfl]
    exact .nil
  · rw [← List.append_nil before]
    exact .cons (.run before) .nil

/-- **A needle that the text does not cut open** is found where it stands. -/
theorem matches_framed (before needle after : List Char) (hpre : IsFrame pre)
    (hpost : IsFrame post) (hbefore : pre = [] → before = [])
    (hafter : post = [] → after = []) (hstart : before ≠ [] → ¬ StartsOpen needle)
    (hend : after ≠ [] → ¬ EndsOpen needle) :
    Wildcard.Matches (lower (pre ++ (needle ++ post))) (lower (before ++ (needle ++ after))) := by
  have hneedle : lowerBetween before.reverse after needle = lower needle := by
    refine lowerBetween_eq_lower (fun hb => hstart ?_) fun ha => hend ?_
    · rintro rfl
      cases hb
    · rintro rfl
      cases ha
  rw [lower_framed hpre hpost, lower_append_append, hneedle]
  refine (hpre.matches fun h => ?_).append
    ((Wildcard.matches_self _).append (hpost.matches fun h => ?_))
  · rw [hbefore h]
    rfl
  · rw [hafter h]
    rfl

theorem IsFrame.count (h : IsFrame pre) {c : Char} (hc : c ≠ '%') : pre.count c = 0 := by
  rcases h with rfl | rfl
  · rfl
  · exact List.count_eq_zero_of_not_mem (by simp [hc])

theorem count_lower_framed (hpre : IsFrame pre) (hpost : IsFrame post) {c : Char} (hc : c ≠ '%')
    (needle : List Char) : (lower (pre ++ (needle ++ post))).count c = (lower needle).count c := by
  rw [lower_framed hpre hpost, List.count_append, List.count_append, hpre.count hc,
    hpost.count hc, Nat.zero_add, Nat.add_zero]

/-- A needle that starts open is not found behind a cased letter. -/
theorem not_matches_of_startsOpen (hpre : IsFrame pre) (hpost : IsFrame post)
    (h : StartsOpen needle) :
    ¬ Wildcard.Matches (lower (pre ++ (needle ++ post))) (lower (['a'] ++ needle)) := by
  intro hmatch
  have hcount := hmatch.count_le (c := 'σ') (by decide) (by decide)
  have htext : lower (['a'] ++ needle) = ['a'] ++ lowerBetween ['a'] [] needle := by
    rw [lower_eq, lowerBetween_append, lowerBetween_self (by decide) (by decide)]
    rfl
  have hcased : startsCased ['a'] = true := by decide
  have hletter : ['a'].count 'σ' = 0 := by decide
  rw [count_lower_framed hpre hpost (by decide), htext, List.count_append, hletter, Nat.zero_add,
    count_lowerBetween_of_startsOpen h hcased] at hcount
  exact Nat.not_succ_le_self _ hcount

/-- A needle that ends open is not found before a cased letter. -/
theorem not_matches_of_endsOpen (hpre : IsFrame pre) (hpost : IsFrame post)
    (h : EndsOpen needle) :
    ¬ Wildcard.Matches (lower (pre ++ (needle ++ post))) (lower (needle ++ ['a'])) := by
  intro hmatch
  have hcount := hmatch.count_le (c := 'ς') (by decide) (by decide)
  have htext : lower (needle ++ ['a']) = lowerBetween [] ['a'] needle ++ ['a'] := by
    rw [lower_eq, lowerBetween_append, lowerBetween_self (by decide) (by decide)]
    rfl
  have hcased : startsCased ['a'] = true := by decide
  have hletter : ['a'].count 'ς' = 0 := by decide
  rw [count_lower_framed hpre hpost (by decide), htext, List.count_append, hletter, Nat.add_zero,
    count_lowerBetween_of_endsOpen h hcased] at hcount
  exact Nat.not_succ_le_self _ hcount

/-! ## rows that are found -/

/-- The search with this pattern finds every row that the filter finds. -/
def Finds (filter : FieldRef → Expr) (pattern : String) : Prop :=
  ∀ (ρ : Type) [Record ρ] (row : ρ) (f : FieldRef),
    (filter f).holds row = .ok true → (Expr.like f.name pattern).holds row = .ok true

theorem finds_iff {function needle pattern : String} :
    Finds (·.textCall function needle) pattern ↔
      ∀ text, textFunction? function text needle = some true → like text pattern = true := by
  have hlike : ∀ {ρ : Type} [Record ρ] {row : ρ} {f : FieldRef},
      (Expr.like f.name pattern).holds row = .ok true ↔
        ∃ text, Record.field row f.name = some (.text text) ∧ like text pattern = true := by
    intro ρ _ row f
    exact FieldRef.holds_textCall_iff.trans (by simp [textFunction?, Expr.likeFunction])
  constructor
  · intro h text htext
    let row : Keyed := { id := .null, fields := [("text", .text text)] }
    have hrow : Record.field row "text" = some (.text text) := rfl
    obtain ⟨text', hfield, hfound⟩ := hlike.mp
      (h Keyed row ⟨"text"⟩ (FieldRef.holds_textCall_iff.mpr ⟨text, hrow, htext⟩))
    cases hrow.symm.trans hfield
    exact hfound
  · intro h ρ _ row f hfilter
    obtain ⟨text, hfield, htext⟩ := FieldRef.holds_textCall_iff.mp hfilter
    exact hlike.mpr ⟨text, hfield, h text htext⟩

/-- The same, on the code points of texts: `accepts` is what the function says of a text. -/
theorem finds_framed_iff (pre post : List Char) {function needle pattern : String}
    {accepts : List Char → Prop}
    (hfunction : ∀ text, textFunction? function text needle = some true ↔ accepts text.toList)
    (hpattern : pattern.toList = pre ++ (needle.toList ++ post)) :
    Finds (·.textCall function needle) pattern ↔
      ∀ text, accepts text →
        Wildcard.Matches (lower (pre ++ (needle.toList ++ post))) (lower text) := by
  rw [finds_iff]
  constructor
  · intro h text haccepts
    have htext := h (String.ofList text) ((hfunction _).mpr (by rwa [String.toList_ofList]))
    rwa [like_iff, hpattern, String.toList_ofList] at htext
  · intro h text htext
    rw [like_iff, hpattern]
    exact h text.toList ((hfunction text).mp htext)

/-- **Which needles a search finds** wherever the filter of the same kind finds them: those that
start with no open sigma, if a text may stand in front of them, and end with none, if a text may
stand behind them. -/
theorem search_finds_iff (needle : String) :
    (Finds (·.contains needle) ("%" ++ needle ++ "%") ↔
      ¬ StartsOpen needle.toList ∧ ¬ EndsOpen needle.toList) ∧
    (Finds (·.startsWith needle) (needle ++ "%") ↔ ¬ EndsOpen needle.toList) ∧
    (Finds (·.endsWith needle) ("%" ++ needle) ↔ ¬ StartsOpen needle.toList) := by
  have hwild : IsFrame ['%'] := .inr rfl
  have hnothing : IsFrame [] := .inl rfl
  refine ⟨?_, ?_, ?_⟩
  · have hfunction : ∀ text, textFunction? "contains" text needle = some true ↔
        needle.toList <:+: text.toList := by simp [textFunction?, occursIn_iff]
    refine (finds_framed_iff ['%'] ['%'] hfunction (by simp)).trans ?_
    constructor
    · intro h
      exact ⟨fun hopen => not_matches_of_startsOpen hwild hwild hopen
          (h _ (List.suffix_append ['a'] _).isInfix),
        fun hopen => not_matches_of_endsOpen hwild hwild hopen
          (h _ (List.prefix_append _ ['a']).isInfix)⟩
    · rintro ⟨hstart, hend⟩ text ⟨before, after, rfl⟩
      rw [List.append_assoc]
      exact matches_framed before _ after hwild hwild nofun nofun (fun _ => hstart) fun _ => hend
  · have hfunction : ∀ text, textFunction? "startswith" text needle = some true ↔
        needle.toList <+: text.toList := by simp [textFunction?]
    refine (finds_framed_iff [] ['%'] hfunction (by simp)).trans ?_
    constructor
    · exact fun h hopen => not_matches_of_endsOpen hnothing hwild hopen
        (h _ (List.prefix_append _ ['a']))
    · rintro hend text ⟨after, rfl⟩
      exact matches_framed [] _ after hnothing hwild (fun _ => rfl) nofun (absurd rfl)
        fun _ => hend
  · have hfunction : ∀ text, textFunction? "endswith" text needle = some true ↔
        needle.toList <:+ text.toList := by simp [textFunction?]
    refine (finds_framed_iff ['%'] [] hfunction (by simp)).trans ?_
    constructor
    · exact fun h hopen => not_matches_of_startsOpen hwild hnothing hopen
        (h _ (List.suffix_append ['a'] _))
    · rintro hstart text ⟨before, rfl⟩
      have hfound := matches_framed before needle.toList [] hwild hnothing nofun (fun _ => rfl)
        (fun _ => hstart) (absurd rfl)
      simpa only [List.append_nil] using hfound

/-- **A row that a search misses.** The sigma ends a word in the pattern, not in the text. -/
theorem search_misses_open_sigma :
    let row : Keyed := { id := .null, fields := [("name", .text "ΑΣΑ")] }
    (FieldRef.contains ⟨"name"⟩ "ΑΣ").holds row = .ok true ∧
      (Expr.like "name" "%ΑΣ%").holds row = .ok false := by
  intro row
  have hlike : like "ΑΣΑ" "%ΑΣ%" = false := by
    have htext : lower "ΑΣΑ".toList = "ασα".toList := by decide
    have hpattern : lower "%ΑΣ%".toList = "%ας%".toList := by decide
    rw [like, htext, hpattern]
    cbv
  have hsearch : (Expr.like "name" "%ΑΣ%").holds row = .ok (like "ΑΣΑ" "%ΑΣ%") := rfl
  exact ⟨rfl, hsearch.trans (congrArg Except.ok hlike)⟩

end RowSpec
