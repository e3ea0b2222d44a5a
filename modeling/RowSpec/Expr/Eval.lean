import RowSpec.Expr.Basic
import RowSpec.Record
import RowSpec.Text.LowerCase
import RowSpec.Text.Wildcard
import RowSpec.Value.Order

/-!
# Evaluation of expressions

* `like`              the match of a text and a pattern, both lower-cased;
* `Comparison.holds`  the truth of a comparison of two values: null is equal to null only and has
                      no place in an order;
* `Expr.operand`      the value an expression stands for inside a comparison or a call;
* `Expr.holds`        the truth of a predicate on a row, or the first field error met.
-/

namespace RowSpec

def like (text pattern : String) : Bool :=
  Wildcard.accepts (lower pattern.toList) (lower text.toList)

namespace Comparison

/-- the truth of a comparison whose operands are in this order -/
def accepts : Comparison → Ordering → Bool
  | eq, o => o == .eq
  | ne, o => o != .eq
  | gt, o => o == .gt
  | ge, o => o != .lt
  | lt, o => o == .lt
  | le, o => o != .gt

/-- the truth of a comparison with a null, `both` telling whether both sides are null -/
def acceptsNull : Comparison → Bool → Bool
  | eq, both => both
  | ne, both => !both
  | _, _ => false

def holds (op : Comparison) (a b : Value) : Except FieldError Bool :=
  if a = .null ∨ b = .null then .ok (op.acceptsNull (a = .null ∧ b = .null))
  else match a.compare? b with
    | some o => .ok (op.accepts o)
    | none => .error (.incomparable a.kind b.kind)

end Comparison

/-- Whether the needle stands somewhere in the text. -/
def occursIn (needle : List Char) : List Char → Bool
  | [] => needle.isEmpty
  | c :: t => needle.isPrefixOf (c :: t) || occursIn needle t

/-- A function of two texts; none when the name is not known. -/
def textFunction? (name : String) (text argument : String) : Option Bool :=
  if name = "contains" then some (occursIn argument.toList text.toList)
  else if name = "startswith" then some (argument.toList.isPrefixOf text.toList)
  else if name = "endswith" then some (argument.toList.isSuffixOf text.toList)
  else if name = Expr.likeFunction then some (like text argument)
  else none

/-- A call on values that are not both texts is false. -/
def applyCall (name : String) : Value → Value → Except FieldError Bool
  | .text text, .text argument =>
    match textFunction? name text argument with
    | some b => .ok b
    | none => .error (.unsupportedFunction name)
  | _, _ => .ok false

namespace Expr

variable {ρ : Type} [Record ρ]

/-- The operand value of an expression whose truth is `truth`. -/
def operandOf (row : ρ) (truth : Except FieldError Bool) : Expr → Except FieldError Value
  | .field name => Record.fetch row name
  | .value v => .ok v
  | _ => truth.map .bool

mutual

def holds (row : ρ) : Expr → Except FieldError Bool
  | .and a b => do if ← holds row a then holds row b else pure false
  | .or a b => do if ← holds row a then pure true else holds row b
  | .not a => do return !(← holds row a)
  | .compare l op r => do
    let x ← operandOf row (holds row l) l
    let y ← operandOf row (holds row r) r
    op.holds x y
  | .isIn l items => do
    let x ← operandOf row (holds row l) l
    holdsIn row x items
  | .call name [a, b] => do
    let x ← operandOf row (holds row a) a
    let y ← operandOf row (holds row b) b
    applyCall name x y
  | .call name _ => .error (.unsupportedFunction name)
  | .field name => do
    match ← Record.fetch row name with
    | .bool b => pure b
    | v => throw (.typeMismatch name .bool v.kind)
  | .value (.bool b) => .ok b
  | .value v => .error (.notBoolean v.kind)

/-- Whether `x` equals one of the items, tried in order. -/
def holdsIn (row : ρ) (x : Value) : List Expr → Except FieldError Bool
  | [] => .ok false
  | e :: rest => do
    let y ← operandOf row (holds row e) e
    if ← Comparison.eq.holds x y then pure true else holdsIn row x rest

end

def operand (row : ρ) (e : Expr) : Except FieldError Value := operandOf row (holds row e) e

end Expr

end RowSpec
