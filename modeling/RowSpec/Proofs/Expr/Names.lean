import RowSpec.Expr.Basic
import RowSpec.Proofs.Value.Literals

/-!
# Names and tokens

Outside quoted texts an expression is written as tokens with marks between them. Names and literals
are the tokens, and no name is a literal.

* `PlainName`            letters, digits and underscores, of which the first is no digit;
* `Value.not_plainName`  no literal is a name;
* `Token`                one character or more, and no mark;
* `token_inj`            where a token ends;
* `Expr.names`, `Expr.values`   the names of the fields and the functions of an expression, and its
                         values;
* `Expr.Readable`        plain names and regular times.
-/

namespace RowSpec

/-! ## names -/

/-- Letters, digits, the underscore, and whatever is not ASCII. -/
def isNameChar (c : Char) : Bool := c.isAlphanum || c = '_' || 128 ≤ c.toNat

structure PlainName (name : String) : Prop where
  chars : name.toList.all isNameChar = true
  head : name.toList.head?.any (!·.isDigit) = true
  word : name ∉ ["null", "true", "false"]

theorem plainName_iff {name : String} : PlainName name ↔
    name.toList.all isNameChar = true ∧ name.toList.head?.any (!·.isDigit) = true ∧
      name ∉ ["null", "true", "false"] :=
  ⟨fun h => ⟨h.chars, h.head, h.word⟩, fun ⟨hchars, hhead, hword⟩ => ⟨hchars, hhead, hword⟩⟩

instance (name : String) : Decidable (PlainName name) := decidable_of_iff' _ plainName_iff

theorem PlainName.not_mem {name : String} (h : PlainName name) {c : Char}
    (hc : isNameChar c = false) : c ∉ name.toList :=
  fun hmem => Bool.false_ne_true (hc.symm.trans (List.all_eq_true.mp h.chars c hmem))

theorem mem_of_hyphens {s : List Char} (h : hyphens s ≠ 0) : '-' ∈ s :=
  List.mem_of_mem_drop (List.count_pos_iff.mp (Nat.pos_of_ne_zero h))

namespace Value

/-- A literal has a character that no name has, or starts with a digit, or is one of the words. -/
theorem not_plainName {v : Value} (hv : v.kind ≠ .text) {name : String} (hname : PlainName name) :
    v.chars ≠ name.toList := by
  intro h
  have hword : ∀ word ∈ ["null", "true", "false"], word.toList ≠ name.toList :=
    fun word hmem he => hname.word (String.toList_injective he ▸ hmem)
  have hmark : ∀ c, isNameChar c = false → c ∉ v.chars := fun c hc => h ▸ hname.not_mem hc
  cases v with
  | null => exact hword "null" (by decide) h
  | bool b =>
    cases b with
    | true => exact hword "true" (by decide) h
    | false => exact hword "false" (by decide) h
  | text s => exact hv rfl
  | number d =>
    change d.chars = name.toList at h
    unfold Decimal.chars at h
    split at h
    · exact hname.not_mem (c := '-') (by decide) (h ▸ List.mem_cons_self)
    · obtain ⟨c, s, he, hc⟩ := d.absChars_head
      have hhead := hname.head
      rw [← h, he, List.head?_cons, Option.any_some, hc] at hhead
      cases hhead
  | uuid u => exact hmark '-' (by decide) (mem_of_hyphens (by rw [chars, u.hyphens_chars]; decide))
  | date d => exact hmark '-' (by decide) (mem_of_hyphens (by rw [chars, d.hyphens_chars]; decide))
  | time t => exact hmark ':' (by decide) t.colon_mem_chars
  | instant t =>
    refine hmark ':' (by decide) (List.mem_append_left _ (List.mem_append_right _ ?_))
    exact List.mem_cons_of_mem _ t.time.colon_mem_chars

end Value

/-! ## tokens -/

/-- the characters that stand between tokens, and the quote -/
def tokenMarks : List Char := [' ', '(', ')', ',', '|', '\'']

/-- the marks in literals that are not quoted, and the letters of those literals that are no words -/
def literalMarks : List Char := ['a', 'b', 'c', 'd', 'e', 'f', 'E', 'T', '-', '+', ':', '.']

structure Token (s : List Char) : Prop where
  ne_nil : s ≠ []
  not_mem : ∀ c ∈ tokenMarks, c ∉ s

theorem tokenMarks_spec : ∀ c ∈ tokenMarks,
    isNameChar c = false ∧ c.isDigit = false ∧ c ∉ literalMarks := by
  have hall : tokenMarks.all fun c =>
      !isNameChar c && !c.isDigit && !literalMarks.contains c := by decide
  simpa [and_assoc] using hall

section
variable {s t x y : List Char}

theorem PlainName.token {name : String} (h : PlainName name) : Token name.toList where
  ne_nil hnil := by
    have hhead := h.head
    rw [hnil] at hhead
    cases hhead
  not_mem c hc := h.not_mem (tokenMarks_spec c hc).1

theorem Over.token {marks : List Char} (h : Over marks s) (hsub : marks ⊆ literalMarks)
    (hne : s ≠ []) : Token s where
  ne_nil := hne
  not_mem c hc := (h.mono hsub).not_mem (tokenMarks_spec c hc).2.1 (tokenMarks_spec c hc).2.2

theorem Value.token_chars {v : Value} (hv : v.kind ≠ .text) : Token v.chars := by
  cases v with
  | null => exact ⟨by decide, by simp [tokenMarks, chars]⟩
  | bool b => cases b <;> exact ⟨by decide, by simp [tokenMarks, chars]⟩
  | text s => exact absurd rfl hv
  | number d =>
    refine d.over_chars.token (by decide) ?_
    unfold Decimal.chars
    split
    · exact List.cons_ne_nil _ _
    · obtain ⟨c, s, he, _⟩ := d.absChars_head
      rw [he]
      exact List.cons_ne_nil _ _
  | uuid u =>
    have hmem : '-' ∈ u.chars := mem_of_hyphens (by rw [u.hyphens_chars]; decide)
    exact u.over_chars.token (by decide) (List.ne_nil_of_mem hmem)
  | date d =>
    have hmem : '-' ∈ d.chars := mem_of_hyphens (by rw [d.hyphens_chars]; decide)
    exact d.over_chars.token (by decide) (List.ne_nil_of_mem hmem)
  | time t => exact t.over_chars.token (by decide) (List.ne_nil_of_mem t.colon_mem_chars)
  | instant t => exact t.over_chars.token (by decide) (by simp [Instant.chars])

/-- The token in front of a text, if any, ends before the first mark. -/
theorem token_inj (hs : ∀ c ∈ tokenMarks, c ∉ s) (ht : ∀ c ∈ tokenMarks, c ∉ t)
    (hx : ∀ c ∈ x.head?, c ∈ tokenMarks) (hy : ∀ c ∈ y.head?, c ∈ tokenMarks)
    (h : s ++ x = t ++ y) : s = t ∧ x = y :=
  span_inj (p := (· ∉ tokenMarks)) (fun c hc hm => hs c hm hc) (fun c hc hm => ht c hm hc)
    (fun c hc => not_not_intro (hx c hc)) (fun c hc => not_not_intro (hy c hc)) h

end

/-! ## the names and the values in an expression -/

namespace Expr

mutual

def names : Expr → List String
  | and a b | or a b | compare a _ b => names a ++ names b
  | not a => names a
  | isIn l items => names l ++ listNames items
  | call function args => function :: listNames args
  | field name => [name]
  | value _ => []

def listNames : List Expr → List String
  | [] => []
  | e :: rest => names e ++ listNames rest

end

mutual

def values : Expr → List Value
  | and a b | or a b | compare a _ b => values a ++ values b
  | not a => values a
  | isIn l items => values l ++ listValues items
  | call _ args => listValues args
  | field _ => []
  | value v => [v]

def listValues : List Expr → List Value
  | [] => []
  | e :: rest => values e ++ listValues rest

end

def Plain (e : Expr) : Prop := ∀ name ∈ e.names, PlainName name

instance (e : Expr) : Decidable e.Plain :=
  inferInstanceAs (Decidable (∀ name ∈ e.names, PlainName name))

/-- No value has a leap second out of place. -/
def RegularTimes (e : Expr) : Prop := ∀ v ∈ e.values, v.RegularTimes

instance (e : Expr) : Decidable e.RegularTimes :=
  inferInstanceAs (Decidable (∀ v ∈ e.values, v.RegularTimes))

/-- Plain names and regular times. -/
structure Clear (names : List String) (values : List Value) : Prop where
  plain : ∀ name ∈ names, PlainName name
  times : ∀ v ∈ values, v.RegularTimes

theorem clear_append {names names' : List String} {values values' : List Value} :
    Clear (names ++ names') (values ++ values') ↔ Clear names values ∧ Clear names' values' :=
  ⟨fun ⟨hn, hv⟩ => ⟨⟨(List.forall_mem_append.mp hn).1, (List.forall_mem_append.mp hv).1⟩,
      ⟨(List.forall_mem_append.mp hn).2, (List.forall_mem_append.mp hv).2⟩⟩,
    fun ⟨⟨hn, hv⟩, ⟨hn', hv'⟩⟩ => ⟨List.forall_mem_append.mpr ⟨hn, hn'⟩,
      List.forall_mem_append.mpr ⟨hv, hv'⟩⟩⟩

/-- What reading the text of an expression takes. -/
def Readable (e : Expr) : Prop := Clear e.names e.values

def ListReadable (es : List Expr) : Prop := Clear (listNames es) (listValues es)

theorem Readable.plain {e : Expr} (h : e.Readable) : e.Plain := Clear.plain h

theorem readable_value {v : Value} : (value v).Readable ↔ v.RegularTimes :=
  ⟨fun h => h.times v List.mem_cons_self,
    fun h => ⟨nofun, List.forall_mem_singleton.mpr h⟩⟩

theorem readable_field {name : String} : (field name).Readable ↔ PlainName name :=
  ⟨fun h => Clear.plain h name List.mem_cons_self,
    fun h => ⟨List.forall_mem_singleton.mpr h, nofun⟩⟩

theorem readable_call {function : String} {args : List Expr} :
    (call function args).Readable ↔ PlainName function ∧ ListReadable args :=
  ⟨fun ⟨hn, hv⟩ => ⟨(List.forall_mem_cons.mp hn).1, (List.forall_mem_cons.mp hn).2, hv⟩,
    fun ⟨hname, hn, hv⟩ => ⟨List.forall_mem_cons.mpr ⟨hname, hn⟩, hv⟩⟩

end Expr

end RowSpec
