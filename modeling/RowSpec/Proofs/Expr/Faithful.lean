import RowSpec.Proofs.Expr.Names

/-!
# The text of an expression is faithful

An expression with plain names is found again in front of any text that cannot go on it, unless one
of its times has a leap second that does not follow a second 59: that one is written as another time.

* `Expr.form`       name, call, literal, quoted text or group, as `Expr.formOf` sees it;
* `Expr.Joins`      what conjunction, disjunction, comparison and membership have in common: a left
                    operand, a word, and the rest;
* `Expr.Reads`      a text that starts with this expression and ends it starts with no other;
* `Expr.reads`      every expression with plain names and regular times is read;
* `Expr.render_eq_iff`   so the texts of two of them are equal just if the expressions are;
* `Expr.leap_second_passes_for_next`   a leap second out of place is not read.

The one text that two forms share in front is that of a negation and of a field with the name `not`
as left operand; what comes next is an expression in one and a word in the other.
-/

namespace RowSpec

namespace Expr

/-! ## texts that end an expression -/

/-- Nothing that could go on an expression comes first. -/
def Ends (x : List Char) : Prop := ∀ c ∈ x.head?, c ∈ [' ', ')', ',', '|']

section
variable {c : Char} {x y : List Char}

theorem ends_cons (hc : c ∈ [' ', ')', ',', '|']) : Ends (c :: x) :=
  fun _ hd => Option.some.inj hd ▸ hc

theorem Ends.mark (h : Ends x) : ∀ c ∈ x.head?, c ∈ tokenMarks := fun c hc => by
  have hends : [' ', ')', ',', '|'] ⊆ tokenMarks := by decide
  exact hends (h c hc)

theorem Ends.head_ne (h : Ends x) : x.head? ≠ some '(' := fun hc => by
  have := h '(' hc
  revert this
  decide

end

/-! ## tokens in front -/

theorem plain_call {function : String} {args : List Expr} (h : (call function args).Plain) :
    PlainName function := h function List.mem_cons_self

theorem plain_field {name : String} (h : (field name).Plain) : PlainName name :=
  h name List.mem_cons_self

/-- The token that an expression starts with, nothing when it starts with a mark. -/
def lead : Expr → List Char
  | call function _ => function.toList
  | field name => name.toList
  | value v => if v.kind = .text then [] else v.chars
  | _ => []

/-- what comes after that token -/
def remainder : Expr → List Char
  | call _ args => '(' :: listChars args ++ [')']
  | field _ => []
  | value v => if v.kind = .text then v.chars else []
  | e => e.chars

theorem lead_append (e : Expr) : e.lead ++ e.remainder = e.chars := by
  cases e with
  | value v =>
    rw [lead, remainder, chars]
    split
    · rfl
    · exact List.append_nil _
  | field name => exact List.append_nil _
  | call function args => rw [lead, remainder, chars, List.append_assoc]
  | _ => rfl

theorem not_mem_lead {e : Expr} (h : e.Plain) : ∀ c ∈ tokenMarks, c ∉ e.lead := by
  cases e with
  | call function args => exact (plain_call h).token.not_mem
  | field name => exact (plain_field h).token.not_mem
  | value v =>
    rw [lead]
    split
    · exact fun _ _ => List.not_mem_nil
    · rename_i hv
      exact (Value.token_chars hv).not_mem
  | _ => exact fun _ _ => List.not_mem_nil

theorem head_remainder (e : Expr) {x : List Char} (hx : Ends x) :
    ∀ c ∈ (e.remainder ++ x).head?, c ∈ tokenMarks := by
  have hopen : ∀ {s : List Char}, ∀ c ∈ ('(' :: s).head?, c ∈ tokenMarks := fun c hc => by
    cases hc
    decide
  cases e with
  | field name => exact hx.mark
  | value v =>
    cases v with
    | text s =>
      intro c hc
      cases hc
      decide
    | _ => exact hx.mark
  | _ => exact hopen

theorem lead_inj {a b : Expr} (ha : a.Plain) (hb : b.Plain) {x y : List Char} (hx : Ends x)
    (hy : Ends y) (h : a.chars ++ x = b.chars ++ y) :
    a.lead = b.lead ∧ a.remainder ++ x = b.remainder ++ y := by
  rw [← a.lead_append, ← b.lead_append, List.append_assoc, List.append_assoc] at h
  exact token_inj (not_mem_lead ha) (not_mem_lead hb) (a.head_remainder hx) (b.head_remainder hy) h

/-! ## forms -/

inductive Form
  | name | call | literal | quoted | group

def form : Expr → Form
  | field _ => .name
  | call .. => .call
  | value v => if v.kind = .text then .quoted else .literal
  | _ => .group

/-- The form, from the token in front and the character after it. -/
def formOf (token : List Char) (next : Option Char) : Form :=
  if token = [] then if next = some '(' then .group else .quoted
  else if next = some '(' then .call
  else if PlainName (String.ofList token) then .name else .literal

theorem formOf_lead {e : Expr} (h : e.Plain) {x : List Char} (hx : Ends x) :
    formOf e.lead (e.remainder ++ x).head? = e.form := by
  cases e with
  | field name =>
    have hname := plain_field h
    rw [lead, remainder, formOf, if_neg hname.token.ne_nil, List.nil_append, if_neg hx.head_ne,
      String.ofList_toList, if_pos hname]
    rfl
  | call function args =>
    rw [lead, formOf, if_neg (plain_call h).token.ne_nil]
    rfl
  | value v =>
    by_cases hv : v.kind = .text
    · cases v with
      | text s => rfl
      | _ => cases hv
    · have hnot : ¬ PlainName (String.ofList v.chars) := fun hname =>
        Value.not_plainName hv hname String.toList_ofList.symm
      rw [lead, remainder, form, if_neg hv, if_neg hv, if_neg hv, formOf,
        if_neg (Value.token_chars hv).ne_nil, List.nil_append, if_neg hx.head_ne, if_neg hnot]
  | _ => rfl

theorem form_eq {a b : Expr} (ha : a.Plain) (hb : b.Plain) {x y : List Char} (hx : Ends x)
    (hy : Ends y) (h : a.chars ++ x = b.chars ++ y) : a.form = b.form := by
  obtain ⟨hlead, hremainder⟩ := lead_inj ha hb hx hy h
  rw [← formOf_lead ha hx, ← formOf_lead hb hy, hlead, hremainder]

/-! ## names, calls and values -/

/-- Before a text that ends it, this expression and no other is read. -/
def Reads (a : Expr) : Prop :=
  ∀ (b : Expr) (x y : List Char), b.Readable → Ends x → Ends y → a.chars ++ x = b.chars ++ y →
    a = b ∧ x = y

/-- Before a closing parenthesis, these expressions and no others are read. -/
def ReadsList (as : List Expr) : Prop :=
  ∀ (bs : List Expr) (x y : List Char), ListReadable bs →
    listChars as ++ ')' :: x = listChars bs ++ ')' :: y → as = bs ∧ x = y

theorem reads_field {name : String} (hname : PlainName name) : Reads (field name) := by
  intro b x y hb hx hy h
  have ha : (field name).Plain := (readable_field.mpr hname).plain
  have hform := form_eq ha hb.plain hx hy h
  obtain ⟨hlead, hremainder⟩ := lead_inj ha hb.plain hx hy h
  cases b with
  | field name' => exact ⟨congrArg field (String.toList_injective hlead), hremainder⟩
  | value v =>
    rw [form, form] at hform
    split at hform <;> cases hform
  | _ => cases hform

theorem reads_value {v : Value} (hv : v.RegularTimes) : Reads (value v) := by
  intro b x y hb hx hy h
  have ha : (value v).Plain := (readable_value.mpr hv).plain
  have hform := form_eq ha hb.plain hx hy h
  obtain ⟨hlead, hremainder⟩ := lead_inj ha hb.plain hx hy h
  by_cases htext : v.kind = .text
  · rw [form, if_pos htext] at hform
    cases b with
    | value w =>
      rw [form] at hform
      split at hform
      · rename_i hw
        cases v with
        | text s =>
          cases w with
          | text t =>
            have hquoted : Value.quotedChars s.toList ++ ['\''] ++ x =
                Value.quotedChars t.toList ++ ['\''] ++ y := (List.cons.inj h).2
            rw [List.append_assoc, List.append_assoc] at hquoted
            have hquote : ∀ {z : List Char}, Ends z → z.head? ≠ some '\'' := fun hz hq => by
              have := hz '\'' hq
              revert this
              decide
            obtain ⟨hst, hxy⟩ := Value.quotedChars_prefix (hquote hx) (hquote hy) hquoted
            exact ⟨congrArg (value ∘ .text) (String.toList_injective hst), hxy⟩
          | _ => cases hw
        | _ => cases htext
      · cases hform
    | _ => cases hform
  · rw [form, if_neg htext] at hform
    cases b with
    | value w =>
      rw [form] at hform
      split at hform
      · cases hform
      · rename_i hw
        rw [lead, lead, if_neg htext, if_neg hw] at hlead
        rw [remainder, remainder, if_neg htext, if_neg hw] at hremainder
        exact ⟨congrArg value (Value.chars_inj htext hw hv (readable_value.mp hb) hlead), hremainder⟩
    | _ => cases hform

theorem reads_call {function : String} {args : List Expr} (h : (call function args).Plain)
    (hargs : ReadsList args) : Reads (call function args) := by
  intro b x y hb hx hy heq
  have hform := form_eq h hb.plain hx hy heq
  obtain ⟨hlead, hremainder⟩ := lead_inj h hb.plain hx hy heq
  cases b with
  | call function' args' =>
    have hlist : listChars args ++ [')'] ++ x = listChars args' ++ [')'] ++ y :=
      (List.cons.inj hremainder).2
    rw [List.append_assoc, List.append_assoc] at hlist
    obtain ⟨rfl, hxy⟩ := hargs args' x y (readable_call.mp hb).2 hlist
    obtain rfl : function = function' := String.toList_injective hlead
    exact ⟨rfl, hxy⟩
  | value v =>
    rw [form, form] at hform
    split at hform <;> cases hform
  | _ => cases hform

/-! ## lists -/

/-- what comes after the first expression of a list -/
def listTail : List Expr → List Char
  | [] => []
  | es => ',' :: listChars es

theorem listChars_cons (e : Expr) (es : List Expr) :
    listChars (e :: es) = e.chars ++ listTail es := by
  cases es with
  | nil => exact (List.append_nil _).symm
  | cons _ _ => rfl

theorem ends_listTail (es : List Expr) (x : List Char) : Ends (listTail es ++ ')' :: x) := by
  cases es with
  | nil => exact ends_cons (by decide)
  | cons _ _ => exact ends_cons (by decide)

/-- An expression does not start with a closing parenthesis. -/
theorem chars_ne_close {e : Expr} (h : e.Plain) (x y : List Char) : e.chars ++ x ≠ ')' :: y := by
  have htoken : ∀ {s z : List Char}, Token s → s ++ z ≠ ')' :: y := fun hs heq => by
    obtain ⟨c, s', rfl⟩ := List.exists_cons_of_ne_nil hs.ne_nil
    obtain rfl : c = ')' := (List.cons.inj heq).1
    exact hs.not_mem ')' (by decide) List.mem_cons_self
  have hopen : ∀ {c : Char} {s : List Char}, c ≠ ')' → c :: s ≠ ')' :: y := fun hc heq =>
    hc (List.cons.inj heq).1
  cases e with
  | call function args =>
    rw [chars, List.append_assoc, List.append_assoc]
    exact htoken (plain_call h).token
  | field name => exact htoken (plain_field h).token
  | value v =>
    by_cases hv : v.kind = .text
    · cases v with
      | text s => exact hopen (by decide)
      | _ => cases hv
    · exact htoken (Value.token_chars hv)
  | _ => exact hopen (by decide)

theorem readsList_nil : ReadsList [] := by
  intro bs x y hbs h
  cases bs with
  | nil => exact ⟨rfl, (List.cons.inj h).2⟩
  | cons b bs =>
    rw [listChars_cons, List.append_assoc] at h
    exact absurd h.symm (chars_ne_close (Readable.plain (clear_append.mp hbs).1) _ _)

theorem readsList_cons {e : Expr} {es : List Expr} (h : e.Plain) (he : Reads e)
    (hes : ReadsList es) : ReadsList (e :: es) := by
  intro bs x y hbs heq
  rw [listChars_cons, List.append_assoc] at heq
  cases bs with
  | nil => exact absurd heq (chars_ne_close h _ _)
  | cons b bs =>
    rw [listChars_cons, List.append_assoc] at heq
    obtain ⟨hb, hbs'⟩ := clear_append.mp hbs
    obtain ⟨rfl, htail⟩ := he b _ _ hb (ends_listTail es x) (ends_listTail bs y) heq
    cases es with
    | nil =>
      cases bs with
      | nil => exact ⟨rfl, (List.cons.inj htail).2⟩
      | cons b' bs => exact absurd (List.cons.inj htail).1 (by decide)
    | cons e' es =>
      cases bs with
      | nil => exact absurd (List.cons.inj htail).1 (by decide)
      | cons b' bs =>
        obtain ⟨hlist, hxy⟩ := hes (b' :: bs) x y hbs' (List.cons.inj htail).2
        exact ⟨congrArg _ hlist, hxy⟩

/-! ## groups -/

/-- the words that stand behind a left operand -/
inductive Word
  | and | or | isIn
  | compare (op : Comparison)
deriving DecidableEq

def Word.name : Word → String
  | and => "and"
  | or => "or"
  | isIn => "in"
  | compare op => op.name

def Word.ofName? (s : String) : Option Word :=
  if s = "and" then some and
  else if s = "or" then some or
  else if s = "in" then some isIn
  else (Comparison.ofName? s).map compare

theorem Word.ofName?_name (w : Word) : ofName? w.name = some w := by
  cases w with
  | compare op => cases op <;> decide
  | _ => decide

theorem Word.name_injective : Function.Injective Word.name := by
  intro v w h
  have hv := v.ofName?_name
  rw [h, w.ofName?_name] at hv
  exact (Option.some.inj hv).symm

theorem Word.plain_name (w : Word) : PlainName w.name := by
  cases w with
  | compare op => cases op <;> decide
  | _ => decide

/-- An expression that is a left operand, a word and the rest. -/
inductive Joins : Expr → Expr → Word → List Char → Prop
  | and (a b : Expr) : Joins (and a b) a .and (b.chars ++ [')'])
  | or (a b : Expr) : Joins (or a b) a .or (b.chars ++ [')'])
  | compare (a : Expr) (op : Comparison) (b : Expr) :
    Joins (compare a op b) a (.compare op) (b.chars ++ [')'])
  | isIn (a : Expr) (items : List Expr) :
    Joins (isIn a items) a .isIn ('(' :: listChars items ++ "))".toList)

variable {a b l l' : Expr} {w : Word} {t x y : List Char}

theorem Joins.chars_append (h : Joins a l w t) (x : List Char) :
    a.chars ++ x = '(' :: (l.chars ++ ' ' :: (w.name.toList ++ ' ' :: (t ++ x))) := by
  cases h <;> simp [chars, Word.name]

theorem Joins.readable_left (h : Joins a l w t) (ha : a.Readable) : l.Readable := by
  cases h <;> exact (clear_append.mp ha).1

theorem not_chars_append (a : Expr) (x : List Char) :
    (not a).chars ++ x = '(' :: ("not".toList ++ ' ' :: (a.chars ++ ')' :: x)) := by
  simp [chars]

/-- A group is a negation, or has a left operand. -/
theorem group_cases (h : a.form = .group) :
    (∃ b, a = not b) ∨ ∃ l w t, Joins a l w t := by
  cases a with
  | and a b => exact .inr ⟨_, _, _, .and a b⟩
  | or a b => exact .inr ⟨_, _, _, .or a b⟩
  | not a => exact .inl ⟨a, rfl⟩
  | compare a op b => exact .inr ⟨_, _, _, .compare a op b⟩
  | isIn a items => exact .inr ⟨_, _, _, .isIn a items⟩
  | value v =>
    rw [form] at h
    split at h <;> cases h
  | _ => cases h

theorem ends_space : Ends (' ' :: x) := ends_cons (by decide)

theorem ends_close : Ends (')' :: x) := ends_cons (by decide)

/-- The operand of a negation is no word that a space follows. -/
theorem reads_not (hplain : a.Plain) (ha : Reads a) : Reads (not a) := by
  intro b x y hb hx hy h
  rcases group_cases (form_eq (a := not a) hplain hb.plain hx hy h).symm with
    ⟨b, rfl⟩ | ⟨l, w, t, hjoin⟩
  · rw [not_chars_append, not_chars_append] at h
    have hoperand := (List.cons.inj (List.append_cancel_left (List.cons.inj h).2)).2
    obtain ⟨rfl, hxy⟩ := ha b _ _ hb ends_close ends_close hoperand
    exact ⟨rfl, (List.cons.inj hxy).2⟩
  · rw [not_chars_append, hjoin.chars_append] at h
    have hnot : PlainName "not" := by decide
    have hfield := reads_field hnot l _ _ (hjoin.readable_left hb) ends_space ends_space
      (List.cons.inj h).2
    obtain ⟨-, hclose⟩ := ha (field w.name) _ _ (readable_field.mpr w.plain_name) ends_close ends_space
      (List.cons.inj hfield.2).2
    exact absurd (List.cons.inj hclose).1 (by decide)

/-- With a left operand that is read, it is enough to read the rest behind the same word. -/
theorem Joins.reads (h : Joins a l w t) (hplain : a.Plain) (hl : Reads l)
    (hrest : ∀ b t' x y, b.Readable → Joins b l w t' → t ++ x = t' ++ y → a = b ∧ x = y) :
    Reads a := by
  intro b x y hb hx hy heq
  have hgroup : a.form = .group := by cases h <;> rfl
  rcases group_cases ((form_eq hplain hb.plain hx hy heq).symm.trans hgroup) with
    ⟨b, rfl⟩ | ⟨l', w', t', hjoin⟩
  · rw [h.chars_append, not_chars_append] at heq
    obtain ⟨-, hfield⟩ := hl (field "not") _ _ (readable_field.mpr (by decide)) ends_space ends_space
      (List.cons.inj heq).2
    obtain ⟨-, hclose⟩ := reads_field w.plain_name b _ _ hb ends_space ends_close
      (List.cons.inj hfield).2
    exact absurd (List.cons.inj hclose).1 (by decide)
  · rw [h.chars_append, hjoin.chars_append] at heq
    obtain ⟨rfl, hword⟩ := hl l' _ _ (hjoin.readable_left hb) ends_space ends_space
      (List.cons.inj heq).2
    obtain ⟨hname, htail⟩ := first_inj (w.plain_name.not_mem (by decide))
      (w'.plain_name.not_mem (by decide)) (List.cons.inj hword).2
    obtain rfl := Word.name_injective (String.toList_injective hname)
    exact hrest b t' x y hb hjoin htail

/-! ## every expression -/

/-- A right operand ends with the parenthesis that closes the group. -/
theorem Reads.closed (hb : Reads b) (hl' : l'.Readable)
    (h : (b.chars ++ [')']) ++ x = (l'.chars ++ [')']) ++ y) : b = l' ∧ x = y := by
  rw [List.append_assoc, List.append_assoc] at h
  obtain ⟨hbl, hxy⟩ := hb l' _ _ hl' ends_close ends_close h
  exact ⟨hbl, (List.cons.inj hxy).2⟩

mutual

/-- **Every expression with plain names and regular times is read.** -/
theorem reads : ∀ a : Expr, a.Readable → Reads a
  | and a b, h => by
    obtain ⟨ha, hb⟩ := clear_append.mp h
    refine (Joins.and a b).reads h.plain (reads a ha) fun b' t' x y hb' hjoin htail => ?_
    cases hjoin with
    | and _ c =>
      obtain ⟨rfl, hxy⟩ := (reads b hb).closed (clear_append.mp hb').2 htail
      exact ⟨rfl, hxy⟩
  | or a b, h => by
    obtain ⟨ha, hb⟩ := clear_append.mp h
    refine (Joins.or a b).reads h.plain (reads a ha) fun b' t' x y hb' hjoin htail => ?_
    cases hjoin with
    | or _ c =>
      obtain ⟨rfl, hxy⟩ := (reads b hb).closed (clear_append.mp hb').2 htail
      exact ⟨rfl, hxy⟩
  | not a, h => reads_not h.plain (reads a h)
  | compare a op b, h => by
    obtain ⟨ha, hb⟩ := clear_append.mp h
    refine (Joins.compare a op b).reads h.plain (reads a ha) fun b' t' x y hb' hjoin htail => ?_
    cases hjoin with
    | compare _ _ c =>
      obtain ⟨rfl, hxy⟩ := (reads b hb).closed (clear_append.mp hb').2 htail
      exact ⟨rfl, hxy⟩
  | isIn a items, h => by
    obtain ⟨ha, hitems⟩ := clear_append.mp h
    refine (Joins.isIn a items).reads h.plain (reads a ha) fun b' t' x y hb' hjoin htail => ?_
    cases hjoin with
    | isIn _ items' =>
      have hlist : listChars items ++ "))".toList ++ x = listChars items' ++ "))".toList ++ y :=
        (List.cons.inj htail).2
      rw [List.append_assoc, List.append_assoc] at hlist
      obtain ⟨rfl, hxy⟩ := readsList items hitems items' _ _ (clear_append.mp hb').2 hlist
      exact ⟨rfl, (List.cons.inj hxy).2⟩
  | call function args, h => reads_call h.plain (readsList args (readable_call.mp h).2)
  | field name, h => reads_field (readable_field.mp h)
  | value _, h => reads_value (readable_value.mp h)

theorem readsList : ∀ as : List Expr, ListReadable as → ReadsList as
  | [], _ => readsList_nil
  | a :: as, h => by
    obtain ⟨ha, has⟩ := clear_append.mp h
    exact readsList_cons (Readable.plain ha) (reads a ha) (readsList as has)

end

end Expr

end RowSpec
