import RowSpec.Text.Digits

/-!
# Reading texts back

When a text is put together from pieces, the pieces are found again if it is known where they end.

* `span_inj`     a piece ends where a property of its characters fails;
* `first_inj`    a piece ends at the first mark of a kind, `last_cases` another starts behind the
                 last one;
* `digits_inj`, `padded_inj`   a number is known from its digits;
* `readNat?_of_isDigit`        digits are read as their number.
-/

namespace RowSpec

/-! ## pieces -/

section
variable {α : Type} {s t x y : List α} {c : α}

theorem span_inj {p : α → Prop} (hs : ∀ a ∈ s, p a) (ht : ∀ a ∈ t, p a)
    (hx : ∀ a ∈ x.head?, ¬ p a) (hy : ∀ a ∈ y.head?, ¬ p a) (h : s ++ x = t ++ y) :
    s = t ∧ x = y := by
  induction s generalizing t with
  | nil =>
    cases t with
    | nil => exact ⟨rfl, h⟩
    | cons b t =>
      rw [List.nil_append] at h
      subst h
      exact absurd (ht b List.mem_cons_self) (hx b rfl)
  | cons a s ih =>
    cases t with
    | nil =>
      rw [List.nil_append] at h
      subst h
      exact absurd (hs a List.mem_cons_self) (hy a rfl)
    | cons b t =>
      obtain ⟨rfl, hrest⟩ := List.cons.inj h
      obtain ⟨rfl, hxy⟩ := ih (List.forall_mem_cons.mp hs).2 (List.forall_mem_cons.mp ht).2 hrest
      exact ⟨rfl, hxy⟩

/-- What stands before the first mark, and what stands behind it. -/
theorem first_inj (hs : c ∉ s) (ht : c ∉ t) (h : s ++ c :: x = t ++ c :: y) : s = t ∧ x = y := by
  have hmark : ∀ z : List α, ∀ a ∈ (c :: z).head?, ¬ a ≠ c := by
    intro z a ha
    exact not_not_intro (Option.some.inj ha).symm
  obtain ⟨hst, hxy⟩ := span_inj (p := (· ≠ c)) (fun a ha he => hs (he ▸ ha))
    (fun a ha he => ht (he ▸ ha)) (hmark x) (hmark y) h
  exact ⟨hst, (List.cons.inj hxy).2⟩

/-- What stands behind the last mark of a text is the end of any piece that the text ends with. -/
theorem last_cases (hy : c ∉ y) (h : s ++ c :: x = t ++ c :: y) :
    s = t ∧ x = y ∨ ∃ z, x = z ++ c :: y := by
  rcases List.append_eq_append_iff.mp h with ⟨z, rfl, hz⟩ | ⟨z, rfl, hz⟩
  · cases z with
    | nil => exact .inl ⟨(List.append_nil s).symm, (List.cons.inj hz).2⟩
    | cons b z => exact .inr ⟨z, (List.cons.inj hz).2⟩
  · cases z with
    | nil => exact .inl ⟨List.append_nil t, (List.cons.inj hz).2.symm⟩
    | cons b z =>
      refine absurd ?_ hy
      rw [(List.cons.inj hz).2]
      exact List.mem_append_right z List.mem_cons_self

theorem last_inj (hx : c ∉ x) (hy : c ∉ y) (h : s ++ c :: x = t ++ c :: y) : s = t ∧ x = y := by
  refine (last_cases hy h).resolve_right fun ⟨z, hz⟩ => hx ?_
  rw [hz]
  exact List.mem_append_right z List.mem_cons_self

end

/-! ## digits -/

theorem isDigit_of_mem_digits {c : Char} {n : Nat} (h : c ∈ digits n) : c.isDigit = true :=
  Nat.isDigit_of_mem_toDigits (by decide) (by decide) h

theorem isDigit_of_mem_padded {c : Char} {w n : Nat} (h : c ∈ padded w n) : c.isDigit = true := by
  rcases List.mem_append.mp h with h | h
  · rw [List.eq_of_mem_replicate h]
    rfl
  · exact isDigit_of_mem_digits h

theorem not_mem_digits {c : Char} (hc : c.isDigit = false) (n : Nat) : c ∉ digits n :=
  fun h => Bool.false_ne_true (hc.symm.trans (isDigit_of_mem_digits h))

theorem not_mem_padded {c : Char} (hc : c.isDigit = false) (w n : Nat) : c ∉ padded w n :=
  fun h => Bool.false_ne_true (hc.symm.trans (isDigit_of_mem_padded h))

theorem digits_ne_nil (n : Nat) : digits n ≠ [] := List.ne_nil_of_length_pos (digits_length_pos n)

theorem digits_inj {m n : Nat} (h : digits m = digits n) : m = n := by
  rw [← ofDigitChars_digits m, h, ofDigitChars_digits]

/-- Zeros in front of a number say nothing. -/
theorem ofDigitChars_zeros (k : Nat) (s : List Char) :
    Nat.ofDigitChars 10 (List.replicate k '0' ++ s) 0 = Nat.ofDigitChars 10 s 0 := by
  induction k with
  | zero => rfl
  | succ k ih => exact ih

theorem padded_inj {w m n : Nat} (h : padded w m = padded w n) : m = n := by
  have hvalue : ∀ k, Nat.ofDigitChars 10 (padded w k) 0 = k := fun k =>
    (ofDigitChars_zeros _ _).trans (ofDigitChars_digits k)
  rw [← hvalue m, h, hvalue]

/-! ## reading digits -/

theorem digitValue?_of_isDigit {c : Char} (h : c.isDigit = true) :
    digitValue? c = some (c.toNat - '0'.toNat) := by
  obtain ⟨h₀, h₉⟩ := Bool.and_eq_true_iff.mp h
  exact if_pos ⟨of_decide_eq_true h₀, of_decide_eq_true h₉⟩

theorem isSome_digitValue? (c : Char) : (digitValue? c).isSome = c.isDigit := by
  cases h : c.isDigit with
  | true =>
    rw [digitValue?_of_isDigit h]
    rfl
  | false =>
    have hnot : ¬ ('0' ≤ c ∧ c ≤ '9') := fun ⟨h₀, h₉⟩ => by
      have hdigit : c.isDigit = true :=
        Bool.and_eq_true_iff.mpr ⟨decide_eq_true h₀, decide_eq_true h₉⟩
      rw [h] at hdigit
      cases hdigit
    rw [digitValue?, if_neg hnot]
    rfl

theorem readDigits_of_isDigit {s : List Char} (h : ∀ c ∈ s, c.isDigit = true) (acc : Nat) :
    readDigits acc s = some (Nat.ofDigitChars 10 s acc) := by
  induction s generalizing acc with
  | nil => rfl
  | cons c s ih =>
    obtain ⟨hc, hs⟩ := List.forall_mem_cons.mp h
    rw [readDigits, digitValue?_of_isDigit hc]
    exact ih hs _

theorem readNat?_of_isDigit {s : List Char} (hne : s ≠ []) (h : ∀ c ∈ s, c.isDigit = true) :
    readNat? s = some (Nat.ofDigitChars 10 s 0) := by
  rw [readNat?, if_neg (by rw [List.isEmpty_iff]; exact hne), readDigits_of_isDigit h]

end RowSpec
