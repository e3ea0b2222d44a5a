import RowSpec.Proofs.Value.Numerals
import RowSpec.Value.Basic

/-!
# Literals

A literal tells the value it stands for. Texts are quoted; the other literals are written in an
alphabet of their own kind, and the kind shows in the characters that occur.

* `Over marks`                 texts of digits and the given other characters;
* `Uuid.chars_injective`, `Date.chars_injective`, `Time.chars_inj`, `Instant.chars_inj`
                               each kind by itself;
* `Value.RegularTimes`         a leap second in the value, if there is one, follows a second 59;
* `Value.kindOfChars`          the kind of a value, from its literal;
* `Value.chars_inj`            literals of values that are not texts;
* `Value.quotedChars_prefix`   where a quoted text ends.
-/

namespace RowSpec

/-! ## alphabets -/

/-- Nothing but digits and these characters. -/
def Over (marks s : List Char) : Prop := ∀ c ∈ s, c.isDigit = true ∨ c ∈ marks

section
variable {marks s t : List Char} {c : Char}

theorem Over.not_mem (h : Over marks s) (hdigit : c.isDigit = false) (hc : c ∉ marks) : c ∉ s :=
  fun hmem => (h c hmem).elim (fun hd => Bool.false_ne_true (hdigit.symm.trans hd)) hc

theorem Over.append (hs : Over marks s) (ht : Over marks t) : Over marks (s ++ t) :=
  fun c hc => (List.mem_append.mp hc).elim (hs c) (ht c)

theorem Over.cons (hc : c ∈ marks) (hs : Over marks s) : Over marks (c :: s) :=
  List.forall_mem_cons.mpr ⟨.inr hc, hs⟩

theorem Over.mono {marks' : List Char} (h : Over marks s) (hsub : marks ⊆ marks') :
    Over marks' s := fun c hc => (h c hc).imp_right fun hm => hsub hm

theorem Over.of_isDigit (h : ∀ c ∈ s, c.isDigit = true) : Over marks s :=
  fun c hc => .inl (h c hc)

theorem over_digits (n : Nat) : Over marks (digits n) := .of_isDigit fun _ => isDigit_of_mem_digits

theorem over_padded (w n : Nat) : Over marks (padded w n) :=
  .of_isDigit fun _ => isDigit_of_mem_padded

/-- Digits end before any other character. -/
theorem digits_span {s t x y : List Char} (hs : Over [] s) (ht : Over [] t)
    (hx : ∀ c ∈ x.head?, c.isDigit = false) (hy : ∀ c ∈ y.head?, c.isDigit = false)
    (h : s ++ x = t ++ y) : s = t ∧ x = y := by
  have hdigit : ∀ {z : List Char}, Over [] z → ∀ c ∈ z, c.isDigit = true :=
    fun hz c hc => (hz c hc).resolve_right List.not_mem_nil
  exact span_inj (p := fun c => c.isDigit = true) (hdigit hs) (hdigit ht)
    (fun c hc => by simp [hx c hc]) (fun c hc => by simp [hy c hc]) h

end

/-! ## identifiers of 128 bits -/

namespace Uuid

theorem digitChar_inj : ∀ a < 16, ∀ b < 16, Nat.digitChar a = Nat.digitChar b → a = b := by decide

theorem over_digitChar {a : Nat} (h : a < 16) :
    Over ['a', 'b', 'c', 'd', 'e', 'f'] [Nat.digitChar a] := by
  have hdigit : ∀ a < 16, (Nat.digitChar a).isDigit = true ∨
      Nat.digitChar a ∈ ['a', 'b', 'c', 'd', 'e', 'f'] := by decide
  exact List.forall_mem_singleton.mpr (hdigit a h)

theorem hexDigits_inj {k m n : Nat} (hm : m < 16 ^ k) (hn : n < 16 ^ k)
    (h : hexDigits k m = hexDigits k n) : m = n := by
  induction k generalizing m n with
  | zero => omega
  | succ k ih =>
    rw [pow_succ] at hm hn
    obtain ⟨hhigh, hlow⟩ := List.append_inj' h rfl
    have hdiv := ih (by omega) (by omega) hhigh
    have hmod := digitChar_inj _ (by omega) _ (by omega) (List.cons.inj hlow).1
    omega

theorem over_hexDigits (k n : Nat) : Over ['a', 'b', 'c', 'd', 'e', 'f'] (hexDigits k n) := by
  induction k generalizing n with
  | zero => exact fun _ hc => nomatch hc
  | succ k ih => exact (ih (n / 16)).append (over_digitChar (Nat.mod_lt _ (by decide)))

/-- Without its hyphens the grouped form is the digits. -/
theorem filter_grouped {s : List Char} (h : '-' ∉ s) : (grouped s).filter (· ≠ '-') = s := by
  have hkeep : ∀ {t : List Char}, t.Sublist s → t.filter (· ≠ '-') = t := fun ht =>
    List.filter_eq_self.mpr fun c hc => decide_eq_true fun he => h (ht.mem (he ▸ hc))
  have hpiece : ∀ i, (s.drop i).take 4 ++ s.drop (i + 4) = s.drop i := fun i => by
    rw [← List.drop_drop, List.take_append_drop]
  unfold grouped
  simp only [List.filter_append, List.filter_cons_of_neg (p := fun c => decide (c ≠ '-'))
    (a := '-') (by decide)]
  rw [hkeep (List.take_sublist 8 s), hkeep ((List.take_sublist 4 _).trans (List.drop_sublist 8 s)),
    hkeep ((List.take_sublist 4 _).trans (List.drop_sublist 12 s)),
    hkeep ((List.take_sublist 4 _).trans (List.drop_sublist 16 s)), hkeep (List.drop_sublist 20 s),
    List.append_assoc, hpiece 16, List.append_assoc, hpiece 12, List.append_assoc, hpiece 8,
    List.take_append_drop]

theorem chars_injective : Function.Injective chars := by
  intro a b h
  have hno : ∀ n, '-' ∉ hexDigits 32 n := fun n => (over_hexDigits 32 n).not_mem rfl (by decide)
  have hdigits : hexDigits 32 a.toNat = hexDigits 32 b.toNat := by
    rw [← filter_grouped (hno a.toNat), ← filter_grouped (hno b.toNat)]
    exact congrArg (List.filter _) h
  have hnat := hexDigits_inj a.toNat_lt b.toNat_lt hdigits
  cases a
  cases b
  cases hnat
  rfl

theorem over_chars (u : Uuid) : Over ['a', 'b', 'c', 'd', 'e', 'f', '-'] u.chars := by
  have hdigits : Over ['a', 'b', 'c', 'd', 'e', 'f', '-'] (hexDigits 32 u.toNat) :=
    (over_hexDigits 32 u.toNat).mono (by decide)
  have hsub : ∀ {t : List Char}, t.Sublist (hexDigits 32 u.toNat) → Over _ t :=
    fun ht c hc => hdigits c (ht.mem hc)
  have hpiece : ∀ i, Over _ (((hexDigits 32 u.toNat).drop i).take 4) := fun i =>
    hsub ((List.take_sublist 4 _).trans (List.drop_sublist i _))
  have hyphen : '-' ∈ ['a', 'b', 'c', 'd', 'e', 'f', '-'] := by decide
  exact ((((hsub (List.take_sublist 8 _)).append (.cons hyphen (hpiece 8))).append
    (.cons hyphen (hpiece 12))).append (.cons hyphen (hpiece 16))).append
      (.cons hyphen (hsub (List.drop_sublist 20 _)))

end Uuid

/-! ## dates -/

namespace Date

/-- A sign is no digit. -/
theorem padded_ne_signed (w n : Nat) (y : Int) (s : List Char) :
    padded w n ≠ (if y < 0 then '-' else '+') :: s := by
  intro h
  have hmem : (if y < 0 then '-' else '+') ∈ padded w n := h ▸ List.mem_cons_self
  have hdigit := isDigit_of_mem_padded hmem
  split at hdigit <;> cases hdigit

theorem yearChars_inj {a b : Int} (h : yearChars a = yearChars b) : a = b := by
  unfold yearChars at h
  by_cases ha : 0 ≤ a ∧ a ≤ 9999 <;> by_cases hb : 0 ≤ b ∧ b ≤ 9999
  · rw [if_pos ha, if_pos hb] at h
    have := padded_inj h
    omega
  · rw [if_pos ha, if_neg hb] at h
    exact absurd h (padded_ne_signed _ _ _ _)
  · rw [if_neg ha, if_pos hb] at h
    exact absurd h.symm (padded_ne_signed _ _ _ _)
  · rw [if_neg ha, if_neg hb] at h
    obtain ⟨hsign, hpadded⟩ := List.cons.inj h
    have := padded_inj hpadded
    split at hsign <;> split at hsign <;> first | omega | cases hsign

theorem chars_injective : Function.Injective chars := by
  intro a b h
  have hno : ∀ n, '-' ∉ padded 2 n := not_mem_padded rfl 2
  obtain ⟨hfront, hday⟩ := last_inj (hno _) (hno _) h
  obtain ⟨hyear, hmonth⟩ := last_inj (hno _) (hno _) hfront
  have hyear := yearChars_inj hyear
  have hmonth := padded_inj hmonth
  have hday := padded_inj hday
  cases a
  cases b
  cases hyear
  cases hmonth
  cases hday
  rfl

theorem over_yearChars (y : Int) : Over ['-', '+'] (yearChars y) := by
  unfold yearChars
  split
  · exact over_padded _ _
  · split
    · exact .cons (by decide) (over_padded _ _)
    · exact .cons (by decide) (over_padded _ _)

theorem over_chars (d : Date) : Over ['-', '+'] d.chars :=
  ((over_yearChars d.year).append (.cons (by decide) (over_padded _ _))).append
    (.cons (by decide) (over_padded _ _))

end Date

/-! ## times -/

theorem length_padded_of_lt {w n : Nat} (hw : 0 < w) (h : n < 10 ^ w) :
    (padded w n).length = w := by
  rw [length_padded]
  exact Nat.max_eq_left ((Nat.length_toDigits_le_iff (by decide) hw).mpr h)

namespace Time

theorem length_fractionChars {n : Nat} (h : n < 1000000000) : (fractionChars n).length =
    if n = 0 then 0 else if n % 1000000 = 0 then 4 else if n % 1000 = 0 then 7 else 10 := by
  unfold fractionChars
  split
  · rfl
  · split
    · rw [List.length_cons, length_padded_of_lt (by decide) (by omega)]
    · split
      · rw [List.length_cons, length_padded_of_lt (by decide) (by omega)]
      · rw [List.length_cons, length_padded_of_lt (by decide) (by omega)]

theorem fractionChars_inj {a b : Nat} (ha : a < 1000000000) (hb : b < 1000000000)
    (h : fractionChars a = fractionChars b) : a = b := by
  have hlength := congrArg List.length h
  rw [length_fractionChars ha, length_fractionChars hb] at hlength
  unfold fractionChars at h
  by_cases ha₀ : a = 0 <;> by_cases hb₀ : b = 0 <;>
    simp only [ha₀, hb₀, if_true, if_false] at h hlength
  · omega
  · split at hlength
    · cases hlength
    · split at hlength <;> cases hlength
  · split at hlength
    · cases hlength
    · split at hlength <;> cases hlength
  · by_cases ha₆ : a % 1000000 = 0 <;> by_cases hb₆ : b % 1000000 = 0 <;>
      by_cases ha₃ : a % 1000 = 0 <;> by_cases hb₃ : b % 1000 = 0 <;>
      simp only [ha₆, hb₆, ha₃, hb₃, if_true, if_false] at h hlength
    all_goals first
      | have := padded_inj (List.cons.inj h).2
        omega
      | cases hlength

theorem fractionChars_head (n : Nat) : ∀ c ∈ (fractionChars n).head?, c.isDigit = false := by
  intro c hc
  unfold fractionChars at hc
  split at hc
  · cases hc
  · split at hc
    · cases hc
      rfl
    · split at hc
      · cases hc
        rfl
      · cases hc
        rfl

/-- the second as it is written, and the fraction of it -/
def shown (t : Time) : Nat × Nat :=
  if t.nano < 1000000000 then (t.second, t.nano) else (t.second + 1, t.nano - 1000000000)

theorem shown_lt (t : Time) : t.shown.2 < 1000000000 := by
  have := t.nano_lt
  unfold shown
  split
  · assumption
  · show t.nano - 1000000000 < 1000000000
    omega

theorem chars_eq (t : Time) : t.chars = padded 2 t.hour ++
    ':' :: (padded 2 t.minute ++ ':' :: (padded 2 t.shown.1 ++ fractionChars t.shown.2)) := by
  unfold chars shown
  split <;> simp only [List.append_assoc, List.cons_append]

theorem shown_inj {a b : Time} (ha : a.Regular) (hb : b.Regular) (h : a.shown = b.shown) :
    a.second = b.second ∧ a.nano = b.nano := by
  unfold Regular at ha hb
  have ha' := a.second_lt
  have hb' := b.second_lt
  unfold shown at h
  split at h <;> split at h <;> have hboth := Prod.mk.inj h <;> omega

/-- No two times have one text, leap seconds out of place apart. -/
theorem chars_inj {a b : Time} (ha : a.Regular) (hb : b.Regular) (h : a.chars = b.chars) :
    a = b := by
  have hno : ∀ n, ':' ∉ padded 2 n := not_mem_padded rfl 2
  rw [chars_eq, chars_eq] at h
  obtain ⟨hhour, h⟩ := first_inj (hno _) (hno _) h
  obtain ⟨hminute, h⟩ := first_inj (hno _) (hno _) h
  obtain ⟨hsecond, hfraction⟩ := digits_span (over_padded _ _) (over_padded _ _)
    (fractionChars_head _) (fractionChars_head _) h
  have hshown : a.shown = b.shown := Prod.ext (padded_inj hsecond)
    (fractionChars_inj a.shown_lt b.shown_lt hfraction)
  obtain ⟨hsecond, hnano⟩ := shown_inj ha hb hshown
  have hhour := padded_inj hhour
  have hminute := padded_inj hminute
  cases a
  cases b
  cases hhour
  cases hminute
  cases hsecond
  cases hnano
  rfl

theorem colon_mem_chars (t : Time) : ':' ∈ t.chars := by
  rw [t.chars_eq]
  exact List.mem_append_right _ List.mem_cons_self

theorem over_fractionChars (n : Nat) : Over [':', '.'] (fractionChars n) := by
  unfold fractionChars
  split
  · exact fun _ hc => nomatch hc
  · split
    · exact .cons (by decide) (over_padded _ _)
    · split
      · exact .cons (by decide) (over_padded _ _)
      · exact .cons (by decide) (over_padded _ _)

theorem over_chars (t : Time) : Over [':', '.'] t.chars := by
  rw [chars_eq]
  exact (over_padded _ _).append (.cons (by decide) ((over_padded _ _).append
    (.cons (by decide) ((over_padded _ _).append (over_fractionChars _)))))

end Time

/-! ## instants -/

namespace Instant

theorem chars_inj {a b : Instant} (ha : a.time.Regular) (hb : b.time.Regular)
    (h : a.chars = b.chars) : a = b := by
  have hno : ∀ d : Date, 'T' ∉ d.chars := fun d => d.over_chars.not_mem rfl (by decide)
  obtain ⟨hdate, htime⟩ := first_inj (hno _) (hno _) (List.append_cancel_right h)
  have hdate := Date.chars_injective hdate
  have htime := Time.chars_inj ha hb htime
  cases a
  cases b
  cases hdate
  cases htime
  rfl

theorem over_chars (t : Instant) : Over ['-', '+', ':', '.', 'T'] t.chars :=
  ((t.date.over_chars.mono (by decide)).append (.cons (by decide)
    (t.time.over_chars.mono (by decide)))).append (by simp [Over])

end Instant

/-! ## decimals -/

namespace Decimal

theorem scientific_eq (n k : Nat) :
    ∃ s, scientific (digits n) k = s ++ 'E' :: '-' :: digits k ∧ Over ['.'] s := by
  have hdigits : Over ['.'] (digits n) := over_digits n
  unfold scientific
  generalize digits n = ds at hdigits
  match ds with
  | [] => exact ⟨[], rfl, hdigits⟩
  | [c] => exact ⟨[c], rfl, hdigits⟩
  | c :: c' :: rest =>
    obtain ⟨hc, hrest⟩ := List.forall_mem_cons.mp hdigits
    exact ⟨c :: '.' :: c' :: rest, rfl,
      List.forall_mem_cons.mpr ⟨hc, Over.cons List.mem_cons_self hrest⟩⟩

theorem over_pointed (n scale : Nat) : Over ['.'] (pointed (digits n) scale) := by
  have hdigits : Over ['.'] (digits n) := over_digits n
  have hzeros : ∀ k, Over ['.'] (List.replicate k '0') :=
    fun k c hc => .inl (List.eq_of_mem_replicate hc ▸ rfl)
  unfold pointed
  split
  · exact Over.append (fun c hc => hdigits c (List.mem_of_mem_take hc))
      (.cons (by decide) fun c hc => hdigits c (List.mem_of_mem_drop hc))
  · refine Over.append (List.forall_mem_cons.mpr ⟨.inl rfl, ?_⟩) hdigits
    exact Over.cons List.mem_cons_self (hzeros _)

/-- The only hyphen behind the sign is that of a negative exponent. -/
theorem absChars_cases (d : Decimal) : Over ['.', 'e', '+'] d.absChars ∨
    ∃ s k, d.absChars = s ++ '-' :: digits k ∧ Over ['.', 'E'] s := by
  have hdigits : ∀ {marks : List Char}, Over marks (digits d.coeff.natAbs) := over_digits _
  unfold absChars
  dsimp only
  split
  · obtain ⟨s, he, hs⟩ := scientific_eq d.coeff.natAbs
      (d.scale - (digits d.coeff.natAbs).length + 1).toNat
    have hE : Over ['.', 'E'] (s ++ ['E']) :=
      (hs.mono (by decide)).append (.cons (by decide) fun _ hc => nomatch hc)
    refine .inr ⟨s ++ ['E'], (d.scale - (digits d.coeff.natAbs).length + 1).toNat, ?_, hE⟩
    rw [he, List.append_assoc]
    rfl
  · refine .inl ?_
    split
    · exact hdigits.append (.cons (by decide) (.cons (by decide) (over_digits _)))
    · split
      · exact hdigits.append fun c hc => .inl (List.eq_of_mem_replicate hc ▸ rfl)
      · exact (over_pointed _ _).mono (by decide)

theorem over_absChars (d : Decimal) : Over ['-', '.', 'e', 'E', '+'] d.absChars := by
  rcases d.absChars_cases with h | ⟨s, k, he, hs⟩
  · exact h.mono (by decide)
  · rw [he]
    exact (hs.mono (by decide)).append (.cons (by decide) (over_digits k))

theorem over_chars (d : Decimal) : Over ['-', '.', 'e', 'E', '+'] d.chars := by
  unfold chars
  split
  · exact .cons (by decide) d.over_absChars
  · exact d.over_absChars

end Decimal

/-! ## kinds -/

/-- the hyphens of a text, not counting a sign in front of it -/
def hyphens (s : List Char) : Nat := (s.drop 1).count '-'

theorem hyphens_append {s t : List Char} (hs : s ≠ []) :
    hyphens (s ++ t) = hyphens s + t.count '-' := by
  unfold hyphens
  rw [List.drop_append_of_le_length (List.length_pos_iff.mpr hs), List.count_append]

theorem count_hyphen_cons (s : List Char) : ('-' :: s).count '-' = s.count '-' + 1 :=
  List.count_cons_self

theorem Over.count_hyphen {marks s : List Char} (h : Over marks s) (hm : '-' ∉ marks) :
    s.count '-' = 0 := List.count_eq_zero.mpr (h.not_mem rfl hm)

theorem hyphens_of_count {s : List Char} (h : s.count '-' = 0) : hyphens s = 0 :=
  Nat.le_zero.mp (h ▸ (List.drop_sublist 1 s).count_le '-')

theorem Decimal.hyphens_chars (d : Decimal) : hyphens d.chars ≤ 1 := by
  have habs : d.absChars.count '-' ≤ 1 := by
    rcases d.absChars_cases with h | ⟨s, k, he, hs⟩
    · rw [h.count_hyphen (by decide)]
      decide
    · rw [he, List.count_append, hs.count_hyphen (by decide), count_hyphen_cons,
        List.count_eq_zero.mpr (not_mem_digits rfl k)]
  unfold chars
  split
  · exact habs
  · exact ((List.drop_sublist 1 _).count_le '-').trans habs

theorem Uuid.hyphens_chars (u : Uuid) : hyphens u.chars = 4 := by
  have hover := over_hexDigits 32 u.toNat
  have hcount : ∀ {t : List Char}, t.Sublist (hexDigits 32 u.toNat) → t.count '-' = 0 :=
    fun ht => Nat.le_zero.mp (hover.count_hyphen (by decide) ▸ ht.count_le '-')
  have hpiece : ∀ i, (((hexDigits 32 u.toNat).drop i).take 4).count '-' = 0 := fun i =>
    hcount ((List.take_sublist 4 _).trans (List.drop_sublist i _))
  have hfirst : (hexDigits 32 u.toNat).take 8 ≠ [] := by
    refine List.ne_nil_of_length_pos ?_
    rw [List.length_take, length_hexDigits]
    decide
  have hlast := hcount (List.drop_sublist 20 (hexDigits 32 u.toNat))
  unfold chars grouped
  simp only [List.append_assoc, List.cons_append]
  rw [hyphens_append hfirst, hyphens_of_count (hcount (List.take_sublist 8 _))]
  simp only [List.count_append, count_hyphen_cons, hpiece, hlast]

theorem Date.hyphens_chars (d : Date) : hyphens d.chars = 2 := by
  have hyear : yearChars d.year ≠ [] ∧ hyphens (yearChars d.year) = 0 := by
    have hpadded : ∀ n, (padded 4 n).count '-' = 0 := fun n =>
      List.count_eq_zero.mpr (not_mem_padded rfl 4 n)
    unfold yearChars
    split
    · refine ⟨List.ne_nil_of_length_pos ?_, hyphens_of_count (hpadded _)⟩
      rw [length_padded]
      omega
    · exact ⟨List.cons_ne_nil _ _, hpadded _⟩
  have hpadded : ∀ n, (padded 2 n).count '-' = 0 := fun n =>
    List.count_eq_zero.mpr (not_mem_padded rfl 2 n)
  unfold chars
  rw [List.append_assoc, hyphens_append hyear.1, hyear.2, List.count_append, count_hyphen_cons,
    count_hyphen_cons, hpadded, hpadded]

namespace Value

/-- The kind of a value that is no text, from its literal. -/
def kindOfChars (s : List Char) : Kind :=
  if s = "null".toList then .null
  else if s = "true".toList ∨ s = "false".toList then .bool
  else if 'T' ∈ s then .instant
  else if ':' ∈ s then .time
  else if hyphens s = 4 then .uuid
  else if hyphens s = 2 then .date
  else .number

/-- A literal in whose alphabet there is no `l` and no `t`. -/
theorem kindOfChars_over {marks s : List Char} (h : Over marks s) (hl : 'l' ∉ marks)
    (ht : 't' ∉ marks) : kindOfChars s =
      if 'T' ∈ s then .instant else if ':' ∈ s then .time
      else if hyphens s = 4 then .uuid else if hyphens s = 2 then .date else .number := by
  have hnull : s ≠ "null".toList := fun he => h.not_mem rfl hl (he ▸ by decide)
  have htrue : s ≠ "true".toList := fun he => h.not_mem rfl ht (he ▸ by decide)
  have hfalse : s ≠ "false".toList := fun he => h.not_mem rfl hl (he ▸ by decide)
  rw [kindOfChars, if_neg hnull, if_neg (not_or.mpr ⟨htrue, hfalse⟩)]

theorem kindOfChars_chars {v : Value} (hv : v.kind ≠ .text) : kindOfChars v.chars = v.kind := by
  cases v with
  | null => rfl
  | bool b => cases b <;> rfl
  | text s => exact absurd rfl hv
  | number d =>
    have hover := d.over_chars
    have hhyphens := d.hyphens_chars
    show kindOfChars d.chars = .number
    rw [kindOfChars_over hover (by decide) (by decide), if_neg (hover.not_mem rfl (by decide)),
      if_neg (hover.not_mem rfl (by decide)), if_neg (by omega), if_neg (by omega)]
  | uuid u =>
    have hover := u.over_chars
    show kindOfChars u.chars = .uuid
    rw [kindOfChars_over hover (by decide) (by decide), if_neg (hover.not_mem rfl (by decide)),
      if_neg (hover.not_mem rfl (by decide)), if_pos u.hyphens_chars]
  | date d =>
    have hover := d.over_chars
    have hhyphens := d.hyphens_chars
    show kindOfChars d.chars = .date
    rw [kindOfChars_over hover (by decide) (by decide), if_neg (hover.not_mem rfl (by decide)),
      if_neg (hover.not_mem rfl (by decide)), if_neg (by omega), if_pos hhyphens]
  | time t =>
    have hover := t.over_chars
    show kindOfChars t.chars = .time
    rw [kindOfChars_over hover (by decide) (by decide), if_neg (hover.not_mem rfl (by decide)),
      if_pos t.colon_mem_chars]
  | instant t =>
    have hT : 'T' ∈ t.chars :=
      List.mem_append_left _ (List.mem_append_right _ List.mem_cons_self)
    show kindOfChars t.chars = .instant
    rw [kindOfChars_over t.over_chars (by decide) (by decide), if_pos hT]

/-- A time of day, if the value has one, is regular. -/
def RegularTimes : Value → Prop
  | instant t => t.time.Regular
  | time t => t.Regular
  | _ => True

instance : DecidablePred RegularTimes
  | instant t => inferInstanceAs (Decidable t.time.Regular)
  | time t => inferInstanceAs (Decidable t.Regular)
  | null | bool _ | number _ | uuid _ | date _ | text _ => inferInstanceAs (Decidable True)

/-- **A literal** tells the value, unless it is a text. -/
theorem chars_inj {v w : Value} (hv : v.kind ≠ .text) (hw : w.kind ≠ .text)
    (hvt : v.RegularTimes) (hwt : w.RegularTimes) (h : v.chars = w.chars) : v = w := by
  have hkind : v.kind = w.kind := by rw [← kindOfChars_chars hv, h, kindOfChars_chars hw]
  cases v <;> cases w <;> try cases hkind
  case null.null => rfl
  case bool.bool a b => cases a <;> cases b <;> first | rfl | cases h
  case number.number a b => exact congrArg number (Decimal.chars_injective h)
  case uuid.uuid a b => exact congrArg uuid (Uuid.chars_injective h)
  case instant.instant a b => exact congrArg instant (Instant.chars_inj hvt hwt h)
  case date.date a b => exact congrArg date (Date.chars_injective h)
  case time.time a b => exact congrArg time (Time.chars_inj hvt hwt h)
  case text.text => exact absurd rfl hv

theorem quotedChars_cons (c : Char) (s : List Char) : quotedChars (c :: s) =
    if c = '\'' then '\'' :: '\'' :: quotedChars s else c :: quotedChars s := rfl

/-- A quoted text ends at the first quote that stands alone. -/
theorem quotedChars_prefix {s t x y : List Char} (hx : x.head? ≠ some '\'')
    (hy : y.head? ≠ some '\'')
    (h : quotedChars s ++ '\'' :: x = quotedChars t ++ '\'' :: y) : s = t ∧ x = y := by
  induction s generalizing t with
  | nil =>
    cases t with
    | nil => exact ⟨rfl, (List.cons.inj h).2⟩
    | cons c t =>
      rw [quotedChars_cons] at h
      split at h
      · -- the quote that ends the one text is the first of two in the other
        refine absurd ?_ hx
        rw [(List.cons.inj h).2]
        rfl
      · rename_i hc
        exact absurd (List.cons.inj h).1.symm hc
  | cons b s ih =>
    cases t with
    | nil =>
      rw [quotedChars_cons] at h
      split at h
      · refine absurd ?_ hy
        rw [← (List.cons.inj h).2]
        rfl
      · rename_i hb
        exact absurd (List.cons.inj h).1 hb
    | cons c t =>
      rw [quotedChars_cons, quotedChars_cons] at h
      split at h <;> split at h
      · rename_i hb hc
        obtain ⟨rfl, hxy⟩ := ih (List.cons.inj (List.cons.inj h).2).2
        exact ⟨by rw [hb, hc], hxy⟩
      · rename_i hc
        exact absurd (List.cons.inj h).1.symm hc
      · rename_i hb _
        exact absurd (List.cons.inj h).1 hb
      · obtain ⟨rfl, hrest⟩ := List.cons.inj h
        obtain ⟨rfl, hxy⟩ := ih hrest
        exact ⟨rfl, hxy⟩

end Value

end RowSpec
