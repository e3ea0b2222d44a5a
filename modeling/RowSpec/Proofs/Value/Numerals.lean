import RowSpec.Proofs.Decimal
import RowSpec.Proofs.Text.Reading

/-!
# Numerals

A decimal is read back from its written form, whichever of the forms that is.

* `Decimal.toRat_make`         the number of a coefficient and a scale;
* `readUnsigned?_whole`, `readUnsigned?_pointed`   numerals without a point and with one;
* `readUnsigned?_absChars`     the written form has the right number;
* `Decimal.ofText?_chars`      reading is inverse to writing;
* `Decimal.chars_injective`    each number has a numeral of its own.
-/

namespace RowSpec

namespace Decimal

/-! ## the number of a decimal -/

theorem toRat_make (coeff scale : Int) :
    (make coeff scale).toRat = coeff * (10 : ℚ) ^ (-scale) := by
  unfold make
  dsimp only
  split
  · rename_i h
    rw [toRat, h]
    simp
  · obtain ⟨j, hm, hs⟩ := dropZeros_value coeff.natAbs coeff.natAbs scale
    show ((coeff.sign * (dropZeros _ _ _).1 : Int) : ℚ) * (10 : ℚ) ^ (-(dropZeros _ _ _).2) = _
    revert hm hs
    generalize dropZeros coeff.natAbs coeff.natAbs scale = m
    intro hm hs
    have hint : coeff = coeff.sign * m.1 * 10 ^ j := by
      conv_lhs => rw [← Int.sign_mul_natAbs coeff, hm]
      push_cast
      rw [mul_assoc]
      rfl
    have hcoeff : (coeff : ℚ) = ((coeff.sign * m.1 : Int) : ℚ) * (10 : ℚ) ^ (j : ℤ) := by
      rw [zpow_natCast]
      exact_mod_cast hint
    have hexp : -m.2 = (j : ℤ) + -scale := by omega
    rw [hcoeff, mul_assoc, ← ten_zpow_add, hexp]

/-! ## reading numerals -/

section
variable {e : Int}

theorem takeWhile_digits (s rest : List Char) (hs : ∀ c ∈ s, c.isDigit = true)
    (hrest : ∀ c ∈ rest.head?, c.isDigit = false) :
    (s ++ rest).takeWhile (fun c => (digitValue? c).isSome) = s ∧
      (s ++ rest).dropWhile (fun c => (digitValue? c).isSome) = rest := by
  simp only [isSome_digitValue?]
  rw [List.takeWhile_append_of_pos hs, List.dropWhile_append_of_pos hs]
  cases rest with
  | nil => exact ⟨List.append_nil s, rfl⟩
  | cons c rest =>
    have hc := hrest c rfl
    rw [List.takeWhile_cons_of_neg (by simp [hc]), List.dropWhile_cons_of_neg (by simp [hc])]
    exact ⟨List.append_nil s, rfl⟩

theorem readUnsigned?_whole (whole rest : List Char) (hne : whole ≠ [])
    (hwhole : ∀ c ∈ whole, c.isDigit = true)
    (hrest : ∀ c ∈ rest.head?, c.isDigit = false ∧ c ≠ '.') (he : readExponent? rest = some e) :
    readUnsigned? (whole ++ rest) = some (Nat.ofDigitChars 10 whole 0, -e) := by
  obtain ⟨htake, hdrop⟩ := takeWhile_digits whole rest hwhole fun c hc => (hrest c hc).1
  unfold readUnsigned?
  dsimp only
  rw [htake, hdrop]
  split
  · exact absurd rfl (hrest '.' rfl).2
  · rw [List.append_nil, readNat?_of_isDigit hne hwhole, he]
    show some (_, (0 : Int) - e) = _
    rw [zero_sub]

theorem readUnsigned?_pointed (whole fraction rest : List Char) (hne : whole ≠ [])
    (hwhole : ∀ c ∈ whole, c.isDigit = true) (hfraction : ∀ c ∈ fraction, c.isDigit = true)
    (hrest : ∀ c ∈ rest.head?, c.isDigit = false) (he : readExponent? rest = some e) :
    readUnsigned? (whole ++ '.' :: (fraction ++ rest)) =
      some (Nat.ofDigitChars 10 (whole ++ fraction) 0, fraction.length - e) := by
  obtain ⟨htake, hdrop⟩ := takeWhile_digits whole ('.' :: (fraction ++ rest)) hwhole
    fun c hc => Option.some.inj hc ▸ rfl
  obtain ⟨htake', hdrop'⟩ := takeWhile_digits fraction rest hfraction hrest
  have hdigits : ∀ c ∈ whole ++ fraction, c.isDigit = true := fun c hc =>
    (List.mem_append.mp hc).elim (hwhole c) (hfraction c)
  unfold readUnsigned?
  dsimp only
  rw [htake, hdrop]
  simp only [htake', hdrop']
  rw [readNat?_of_isDigit (by simp [hne]) hdigits, he]
  rfl

theorem readExponent?_negative (n : Nat) :
    readExponent? ('E' :: '-' :: digits n) = some (-(n : Int)) := by
  have hn := readNat?_of_isDigit (digits_ne_nil n) fun c => isDigit_of_mem_digits
  rw [readExponent?, if_pos (.inr rfl)]
  show ((readNat? (digits n)).bind fun m => some (m : Int)).map (-1 * ·) = _
  rw [hn, ofDigitChars_digits, Option.bind_some, Option.map_some, neg_one_mul]

theorem readExponent?_positive (n : Nat) :
    readExponent? ('e' :: '+' :: digits n) = some (n : Int) := by
  have hn := readNat?_of_isDigit (digits_ne_nil n) fun c => isDigit_of_mem_digits
  rw [readExponent?, if_pos (.inl rfl)]
  show ((readNat? (digits n)).bind fun m => some (m : Int)).map (1 * ·) = _
  rw [hn, ofDigitChars_digits, Option.bind_some, Option.map_some, one_mul]

end

/-! ## the written forms -/

theorem readUnsigned?_scientific (n k : Nat) :
    readUnsigned? (scientific (digits n) k) = some (n, ((digits n).length : Int) - 1 + k) := by
  have hdigits : ∀ c ∈ digits n, c.isDigit = true := fun c => isDigit_of_mem_digits
  have hvalue := ofDigitChars_digits n
  have hE : ∀ c ∈ ('E' :: '-' :: digits k).head?, c.isDigit = false ∧ c ≠ '.' := by
    intro c hc
    cases hc
    decide
  unfold scientific
  revert hdigits hvalue
  generalize hds : digits n = ds
  intro hdigits hvalue
  match ds, hds with
  | [], hds => exact absurd hds (digits_ne_nil n)
  | [c], _ =>
    rw [readUnsigned?_whole _ _ (by simp) hdigits hE (readExponent?_negative k), hvalue]
    simp
  | c :: c' :: more, _ =>
    obtain ⟨hc, hmore⟩ := List.forall_mem_cons.mp hdigits
    have hread := readUnsigned?_pointed [c] _ _ (by simp) (by simpa using hc) hmore
      (fun c hc => (hE c hc).1) (readExponent?_negative k)
    rw [List.singleton_append, List.singleton_append, hvalue] at hread
    refine hread.trans ?_
    simp

theorem ofDigitChars_append_zeros (s : List Char) (k : Nat) :
    Nat.ofDigitChars 10 (s ++ List.replicate k '0') 0 = Nat.ofDigitChars 10 s 0 * 10 ^ k := by
  rw [Nat.ofDigitChars_append]
  generalize Nat.ofDigitChars 10 s 0 = n
  induction k generalizing n with
  | zero => simp
  | succ k ih =>
    rw [List.replicate_succ, Nat.ofDigitChars_cons, ih, pow_succ]
    show (10 * n + 0) * _ = _
    ring

theorem readUnsigned?_pointed_digits (n scale : Nat) :
    readUnsigned? (pointed (digits n) scale) = some (n, (scale : Int)) := by
  have hdigits : ∀ c ∈ digits n, c.isDigit = true := fun c => isDigit_of_mem_digits
  have hvalue := ofDigitChars_digits n
  have hpos := digits_length_pos n
  unfold pointed
  split
  · rename_i hlt
    have hread := readUnsigned?_pointed ((digits n).take ((digits n).length - scale))
      ((digits n).drop ((digits n).length - scale)) []
      (List.ne_nil_of_length_pos (by rw [List.length_take]; omega))
      (fun c hc => hdigits c (List.mem_of_mem_take hc))
      (fun c hc => hdigits c (List.mem_of_mem_drop hc)) nofun rfl
    rw [List.append_nil, List.take_append_drop, hvalue, List.length_drop] at hread
    refine hread.trans (congrArg some (Prod.ext rfl ?_))
    show ((((digits n).length - ((digits n).length - scale) : Nat) : Int) - 0) = scale
    omega
  · rename_i hge
    have hread := readUnsigned?_pointed ['0']
      (List.replicate (scale - (digits n).length) '0' ++ digits n) [] (by simp) (by simp)
      (fun c hc => (List.mem_append.mp hc).elim
        (fun hc => List.eq_of_mem_replicate hc ▸ rfl) (hdigits c)) nofun rfl
    have hzeros := ofDigitChars_zeros (scale - (digits n).length + 1) (digits n)
    rw [List.replicate_succ, List.cons_append, hvalue] at hzeros
    rw [List.append_nil, List.singleton_append, List.singleton_append, hzeros, List.length_append,
      List.length_replicate] at hread
    refine hread.trans (congrArg some (Prod.ext rfl ?_))
    show (((scale - (digits n).length + (digits n).length : Nat) : Int) - 0) = scale
    omega

/-- **The written form** of an absolute value is read as that value. -/
theorem readUnsigned?_absChars (d : Decimal) :
    ∃ n s, readUnsigned? d.absChars = some (n, s) ∧ (n : ℚ) * (10 : ℚ) ^ (-s) = |d.toRat| := by
  have hne := digits_ne_nil d.coeff.natAbs
  have hdigits : ∀ c ∈ digits d.coeff.natAbs, c.isDigit = true := fun c => isDigit_of_mem_digits
  have hvalue := ofDigitChars_digits d.coeff.natAbs
  have hpos := digits_length_pos d.coeff.natAbs
  rw [abs_toRat]
  unfold absChars
  dsimp only
  split
  · refine ⟨_, _, readUnsigned?_scientific _ _, ?_⟩
    congr 2
    omega
  · split
    · have hread := readUnsigned?_whole _ _ hne hdigits
        (fun c hc => by cases hc; decide) (readExponent?_positive (-d.scale).toNat)
      refine ⟨_, _, hread, ?_⟩
      rw [hvalue]
      congr 2
      omega
    · split
      · have hread := readUnsigned?_whole
          (digits d.coeff.natAbs ++ List.replicate (-d.scale).toNat '0') [] (by simp [hne])
          (fun c hc => (List.mem_append.mp hc).elim (hdigits c)
            fun hc => List.eq_of_mem_replicate hc ▸ rfl) nofun rfl
        rw [List.append_nil, ofDigitChars_append_zeros, hvalue] at hread
        refine ⟨_, _, hread, ?_⟩
        have hscale : (10 : ℚ) ^ (-d.scale) = (10 : ℚ) ^ (-d.scale).toNat := by
          rw [← zpow_natCast, Int.toNat_of_nonneg (by omega)]
        rw [hscale]
        simp
      · refine ⟨_, _, readUnsigned?_pointed_digits _ _, ?_⟩
        congr 2
        omega

/-- The written form of an absolute value starts with a digit. -/
theorem absChars_head (d : Decimal) : ∃ c s, d.absChars = c :: s ∧ c.isDigit = true := by
  have hdigits : ∀ c ∈ digits d.coeff.natAbs, c.isDigit = true := fun c => isDigit_of_mem_digits
  obtain ⟨c, s, hds⟩ := List.exists_cons_of_ne_nil (digits_ne_nil d.coeff.natAbs)
  have hc := hdigits c (hds ▸ List.mem_cons_self)
  unfold absChars
  dsimp only
  rw [hds]
  split
  · unfold scientific
    cases s <;> exact ⟨c, _, rfl, hc⟩
  · split
    · exact ⟨c, _, rfl, hc⟩
    · split
      · exact ⟨c, _, rfl, hc⟩
      · unfold pointed
        split
        · rename_i hlt
          obtain ⟨k, hk⟩ := Nat.exists_eq_succ_of_ne_zero (Nat.sub_ne_zero_of_lt hlt)
          rw [hk]
          exact ⟨c, _, rfl, hc⟩
        · exact ⟨'0', _, rfl, rfl⟩

theorem readSign_absChars (d : Decimal) : readSign d.absChars = (1, d.absChars) := by
  obtain ⟨c, s, he, hc⟩ := d.absChars_head
  rw [he]
  unfold readSign
  split
  · rename_i h
    cases h
    cases hc
  · rename_i h
    cases h
    cases hc
  · rfl

theorem ofText?_eq (s : List Char) : ofText? (String.ofList s) =
    (readUnsigned? (readSign s).2).map fun r => make ((readSign s).1 * r.1) r.2 := by
  unfold ofText?
  rw [String.toList_ofList]
  dsimp only
  cases readUnsigned? (readSign s).2 <;> rfl

/-- **Decimals are read back** from what is written. -/
theorem ofText?_chars (d : Decimal) : ofText? (String.ofList d.chars) = some d := by
  obtain ⟨n, s, hread, hvalue⟩ := d.readUnsigned?_absChars
  rw [ofText?_eq, chars]
  split
  · rename_i hneg
    rw [show readSign ('-' :: d.absChars) = (-1, d.absChars) from rfl, hread, Option.map_some]
    refine congrArg some (toRat_injective ?_)
    rw [toRat_make, ← neg_eq_iff_eq_neg.mpr (abs_of_neg (toRat_neg hneg)), ← hvalue]
    push_cast
    ring
  · rename_i hnonneg
    rw [readSign_absChars, hread, Option.map_some]
    refine congrArg some (toRat_injective ?_)
    rw [toRat_make, ← abs_of_nonneg (toRat_nonneg (not_lt.mp hnonneg)), ← hvalue]
    push_cast
    ring

theorem chars_injective : Function.Injective chars := by
  intro a b h
  have hboth := (ofText?_chars a).symm.trans ((congrArg (ofText? <| String.ofList ·) h).trans
    (ofText?_chars b))
  exact Option.some.inj hboth

end Decimal

end RowSpec
