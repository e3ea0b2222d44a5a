import RowSpec.Text.LowerCase

/-!
# Lower-casing a stretch of a text

Only a capital sigma is lower-cased by what stands around it: it ends a word if a cased letter comes
before it and none comes after it, ignorable code points aside.

* `startsCased_append`      the first code point that is not ignorable tells;
* `lowerBetween`            the lower-case form of a stretch between two others;
* `lower_append_append`     a text that falls into stretches;
* `StartsOpen`, `EndsOpen`  a stretch with a sigma that a letter in front of the stretch makes a
                            final one, or a letter behind it makes no longer one;
* `lowerBetween_eq_lower`   a stretch where neither can happen is lower-cased as a text of its own;
* `count_lowerBetween_of_startsOpen`, `count_lowerBetween_of_endsOpen`   elsewhere a sigma changes.
-/

namespace RowSpec

/-! ## words -/

theorem startsCased_append (s t : List Char) :
    startsCased (s ++ t) = if s.all isCaseIgnorable then startsCased t else startsCased s := by
  induction s with
  | nil => rfl
  | cons c s ih =>
    cases hc : isCaseIgnorable c with
    | true =>
      have hskip : ∀ z, startsCased (c :: z) = startsCased z := fun z => by
        rw [startsCased, List.dropWhile_cons_of_pos hc, ← startsCased]
      rw [List.cons_append, hskip, hskip, List.all_cons, hc, Bool.true_and]
      exact ih
    | false =>
      have hkeep : ∀ z, startsCased (c :: z) = isCased c := fun z => by
        rw [startsCased, List.dropWhile_cons_of_neg (by simp [hc])]
      rw [List.cons_append, hkeep, hkeep, List.all_cons, hc]
      rfl

theorem startsCased_of_ignorable {s : List Char} (h : s.all isCaseIgnorable = true) :
    startsCased s = false := by
  have happend := startsCased_append s []
  rw [List.append_nil, if_pos h] at happend
  exact happend

/-- A text that starts with no cased letter is like none. -/
theorem startsCased_append_of_not {t : List Char} (h : startsCased t = false) (s : List Char) :
    startsCased (s ++ t) = startsCased s := by
  rw [startsCased_append]
  split
  · rename_i hs
    rw [h, startsCased_of_ignorable hs]
  · rfl

theorem sigma_cased : isCaseIgnorable 'Σ' = false ∧ isCased 'Σ' = true := by decide

/-- What comes after a sigma is of no account. -/
theorem startsCased_sigma (s t : List Char) :
    startsCased (s ++ 'Σ' :: t) = startsCased (s ++ ['Σ']) := by
  have hsigma : ∀ z, startsCased ('Σ' :: z) = true := fun z => by
    rw [startsCased, List.dropWhile_cons_of_neg (by simp [sigma_cased.1])]
    exact sigma_cased.2
  rw [startsCased_append, startsCased_append, hsigma, hsigma]

/-! ## stretches -/

/-- Whether a capital sigma ends a word. The text before it is read backwards. -/
def isFinal (before after : List Char) : Bool := startsCased before && !startsCased after

/-- A code point between two texts, of which the one before it is read backwards. -/
def lowerAt (before after : List Char) (c : Char) : List Char :=
  if c = 'Σ' then [if isFinal before after then 'ς' else 'σ'] else lowerChar c

def lowerBetween (before after : List Char) : List Char → List Char
  | [] => []
  | c :: rest => lowerAt before (rest ++ after) c ++ lowerBetween (c :: before) after rest

theorem lowerAfter_append (before s after : List Char) :
    lowerAfter before (s ++ after) =
      lowerBetween before after s ++ lowerAfter (s.reverse ++ before) after := by
  induction s generalizing before with
  | nil => rfl
  | cons c s ih =>
    rw [List.cons_append, lowerAfter, lowerBetween, lowerAt, List.reverse_cons, List.append_assoc,
      List.append_assoc, List.singleton_append, ← ih]
    split <;> rfl

theorem lower_eq (s : List Char) : lower s = lowerBetween [] [] s := by
  have happend := lowerAfter_append [] s []
  rw [List.append_nil] at happend
  exact happend.trans (List.append_nil _)

theorem lowerBetween_append (before after s t : List Char) :
    lowerBetween before after (s ++ t) =
      lowerBetween before (t ++ after) s ++ lowerBetween (s.reverse ++ before) after t := by
  induction s generalizing before with
  | nil => rfl
  | cons c s ih =>
    rw [List.cons_append, lowerBetween, lowerBetween, ih, List.reverse_cons, List.append_assoc,
      List.append_assoc, List.append_assoc, List.singleton_append]

theorem lower_append_append (s t u : List Char) :
    lower (s ++ (t ++ u)) = lowerBetween [] (t ++ u) s ++
      (lowerBetween s.reverse u t ++ lowerBetween (t.reverse ++ s.reverse) [] u) := by
  rw [lower_eq, lowerBetween_append, lowerBetween_append, List.append_nil, List.append_nil,
    List.append_nil]

variable {before before' after after' s : List Char}

/-- The texts around a stretch matter to its sigmas alone. -/
theorem lowerBetween_congr
    (h : ∀ x y, s = x ++ 'Σ' :: y →
      isFinal (x.reverse ++ before) (y ++ after) = isFinal (x.reverse ++ before') (y ++ after')) :
    lowerBetween before after s = lowerBetween before' after' s := by
  induction s generalizing before before' with
  | nil => rfl
  | cons c s ih =>
    have hrest : lowerBetween (c :: before) after s = lowerBetween (c :: before') after' s := by
      refine ih fun x y he => ?_
      have := h (c :: x) y (by rw [he, List.cons_append])
      rwa [List.reverse_cons, List.append_assoc, List.append_assoc] at this
    rw [lowerBetween, lowerBetween, hrest, lowerAt, lowerAt]
    split
    · rename_i hc
      have hsigma := h [] s (by rw [hc, List.nil_append])
      rw [List.reverse_nil, List.nil_append, List.nil_append] at hsigma
      rw [hsigma]
    · rfl

/-- a code point that is its own lower-case form -/
theorem lowerBetween_self {c : Char} (hc : c ≠ 'Σ') (h : lowerChar c = [c]) :
    lowerBetween before after [c] = [c] := by
  rw [lowerBetween, lowerAt, if_neg hc, h]
  rfl

theorem lowerBetween_of_ignorable (h : s.all isCaseIgnorable = true) :
    lowerBetween before after s = lowerBetween before' after' s := by
  refine lowerBetween_congr fun x y he => ?_
  have hsigma : isCaseIgnorable 'Σ' = true := by
    refine List.all_eq_true.mp h _ ?_
    rw [he]
    exact List.mem_append_right x List.mem_cons_self
  exact absurd hsigma (by simp [sigma_cased.1])

/-- A sigma cuts off what stands on its other side. -/
theorem lowerBetween_sigma (before after x y : List Char) :
    lowerBetween before after (x ++ 'Σ' :: y) = lowerBetween before ['Σ'] x ++
      (if isFinal (x.reverse ++ before) (y ++ after) then 'ς' else 'σ') ::
        lowerBetween ['Σ'] after y := by
  have hbefore : lowerBetween before ('Σ' :: y ++ after) x = lowerBetween before ['Σ'] x := by
    refine lowerBetween_congr fun u v _ => ?_
    rw [isFinal, isFinal, List.cons_append, startsCased_sigma]
  have hafter : lowerBetween ('Σ' :: (x.reverse ++ before)) after y = lowerBetween ['Σ'] after y := by
    refine lowerBetween_congr fun u v _ => ?_
    rw [isFinal, isFinal, startsCased_sigma]
  rw [lowerBetween_append, hbefore, lowerBetween, lowerAt, if_pos rfl, hafter]
  rfl

/-! ## open stretches -/

/-- A sigma with nothing but ignorable code points before it, and no cased letter after it. -/
def StartsOpen (s : List Char) : Prop :=
  ∃ x y, s = x ++ 'Σ' :: y ∧ x.reverse.all isCaseIgnorable = true ∧ startsCased y = false

/-- A sigma with nothing but ignorable code points after it, and a cased letter before it. -/
def EndsOpen (s : List Char) : Prop :=
  ∃ x y, s = x ++ 'Σ' :: y ∧ startsCased x.reverse = true ∧ y.all isCaseIgnorable = true

/-- The texts before and after the sigma, in a longer text and alone. -/
theorem isFinal_append {x y : List Char}
    (hstart : startsCased before = true → ¬ (x.all isCaseIgnorable = true ∧ startsCased y = false))
    (hend : startsCased after = true → ¬ (startsCased x = true ∧ y.all isCaseIgnorable = true)) :
    isFinal (x ++ before) (y ++ after) = isFinal x y := by
  have hbefore : startsCased y = true ∨ startsCased (x ++ before) = startsCased x := by
    cases hb : startsCased before with
    | false => exact .inr (startsCased_append_of_not hb x)
    | true =>
      by_cases hx : x.all isCaseIgnorable = true
      · exact .inl (Bool.of_not_eq_false fun hy => hstart hb ⟨hx, hy⟩)
      · exact .inr (by rw [startsCased_append, if_neg hx])
  rcases hbefore with hy | hbefore
  · have hnot : ¬ y.all isCaseIgnorable = true := fun hall => by
      rw [startsCased_of_ignorable hall] at hy
      cases hy
    rw [isFinal, isFinal, startsCased_append y, if_neg hnot, hy, Bool.not_true, Bool.and_false,
      Bool.and_false]
  · cases hx : startsCased x with
    | false => rw [isFinal, isFinal, hbefore, hx, Bool.false_and, Bool.false_and]
    | true =>
      have hafter : startsCased (y ++ after) = startsCased y := by
        cases ha : startsCased after with
        | false => exact startsCased_append_of_not ha y
        | true => rw [startsCased_append, if_neg fun hall => hend ha ⟨hx, hall⟩]
      rw [isFinal, isFinal, hbefore, hafter]

/-- **A stretch is lower-cased as a text of its own**, unless it is open to a cased letter that
stands there. -/
theorem lowerBetween_eq_lower (hstart : startsCased before = true → ¬ StartsOpen s)
    (hend : startsCased after = true → ¬ EndsOpen s) : lowerBetween before after s = lower s := by
  rw [lower_eq]
  refine lowerBetween_congr fun x y he => ?_
  rw [List.append_nil, List.append_nil]
  exact isFinal_append (fun hb hopen => hstart hb ⟨x, y, he, hopen⟩)
    fun ha hopen => hend ha ⟨x, y, he, hopen⟩

/-- **A letter in front** of an open stretch makes a final sigma of one that is none alone. -/
theorem count_lowerBetween_of_startsOpen (h : StartsOpen s) (hb : startsCased before = true) :
    (lower s).count 'σ' = (lowerBetween before [] s).count 'σ' + 1 := by
  obtain ⟨x, y, rfl, hx, hy⟩ := h
  have hcased : startsCased (x.reverse ++ before) = true := by
    rw [startsCased_append, if_pos hx, hb]
  have hplain : lowerBetween [] ['Σ'] x = lowerBetween before ['Σ'] x :=
    lowerBetween_of_ignorable (by rwa [List.all_reverse] at hx)
  rw [lower_eq, lowerBetween_sigma, lowerBetween_sigma, List.append_nil, List.append_nil, isFinal,
    isFinal, startsCased_of_ignorable hx, hcased, hy, hplain]
  simp [List.count_append]
  omega

/-- **A letter behind** an open stretch leaves no final sigma where there is one alone. -/
theorem count_lowerBetween_of_endsOpen (h : EndsOpen s) (ha : startsCased after = true) :
    (lower s).count 'ς' = (lowerBetween [] after s).count 'ς' + 1 := by
  obtain ⟨x, y, rfl, hx, hy⟩ := h
  have hcased : startsCased (y ++ after) = true := by
    rw [startsCased_append, if_pos hy, ha]
  have hplain : lowerBetween ['Σ'] [] y = lowerBetween ['Σ'] after y := lowerBetween_of_ignorable hy
  rw [lower_eq, lowerBetween_sigma, lowerBetween_sigma, List.append_nil, List.append_nil, isFinal,
    isFinal, hx, hcased, startsCased_of_ignorable hy, hplain]
  simp [List.count_append]
  omega

end RowSpec
