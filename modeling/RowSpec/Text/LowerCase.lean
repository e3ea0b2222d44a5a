import RowSpec.Text.CaseTable

/-!
# Full lower-casing

* `lowerChar`  the lower-case form of one code point, out of context (`İ` has two code points);
* `lower`      the lower-case form of a text: as `lowerChar`, but a capital sigma that ends a word
               becomes the final sigma.
-/

namespace RowSpec

/-- membership in sorted ranges -/
def inRanges (n : Nat) : List (Nat × Nat) → Bool
  | [] => false
  | (first, last) :: rest => first ≤ n && (n ≤ last || inRanges n rest)

def isCased (c : Char) : Bool := inRanges c.toNat CaseTable.cased

def isCaseIgnorable (c : Char) : Bool := inRanges c.toNat CaseTable.ignorable

/-- the shift of the run that holds `n`, 0 outside all runs -/
def caseShift (n : Nat) : List (Nat × Nat × Nat × Int) → Int
  | [] => 0
  | (first, last, step, shift) :: rest =>
    if n < first then 0
    else if n ≤ last ∧ (n - first) % step = 0 then shift
    else caseShift n rest

def lowerChar (c : Char) : List Char :=
  if c = 'İ' then ['i', '\u0307']
  else [Char.ofNat (c.toNat + caseShift c.toNat CaseTable.lowered).toNat]

/-- Whether, ignorable code points aside, the text starts with a cased letter. -/
def startsCased (s : List Char) : Bool :=
  match s.dropWhile isCaseIgnorable with
  | [] => false
  | c :: _ => isCased c

/-- Lower-casing of the rest of a text whose part `before` has been read (last code point first). -/
def lowerAfter (before : List Char) : List Char → List Char
  | [] => []
  | c :: rest =>
    if c = 'Σ' then
      (if startsCased before && !startsCased rest then 'ς' else 'σ') :: lowerAfter (c :: before) rest
    else lowerChar c ++ lowerAfter (c :: before) rest

def lower (s : List Char) : List Char := lowerAfter [] s

end RowSpec
