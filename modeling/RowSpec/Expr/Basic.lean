import RowSpec.Value.Basic

/-!
# Filter expressions

* `Expr`             predicates over the fields of a row, as data;
* `Expr.all?`, `Expr.any?`   the conjunction and disjunction of a list, from the left;
* `Expr.like`        the search condition of a field and a pattern;
* `Expr.render`      the canonical text.
-/

namespace RowSpec

inductive Comparison
  | eq | ne | gt | ge | lt | le
deriving DecidableEq, Repr

def Comparison.name : Comparison → String
  | eq => "eq"
  | ne => "ne"
  | gt => "gt"
  | ge => "ge"
  | lt => "lt"
  | le => "le"

def Comparison.ofName? (s : String) : Option Comparison :=
  [eq, ne, gt, ge, lt, le].find? (·.name = s)

theorem Comparison.ofName?_name (c : Comparison) : ofName? c.name = some c := by
  cases c <;> decide

inductive Expr
  | and (a b : Expr)
  | or (a b : Expr)
  | not (a : Expr)
  | compare (l : Expr) (op : Comparison) (r : Expr)
  | isIn (l : Expr) (items : List Expr)
  | call (function : String) (args : List Expr)
  | field (name : String)
  | value (v : Value)

namespace Expr

/-! ## equality -/

mutual

def decEq : (a b : Expr) → Decidable (a = b)
  | .and a b, e => match e with
    | .and c d => match decEq a c, decEq b d with
      | isTrue h, isTrue k => isTrue (by rw [h, k])
      | isFalse h, _ => isFalse fun e => h (by cases e; rfl)
      | _, isFalse k => isFalse fun e => k (by cases e; rfl)
    | .or .. | .not .. | .compare .. | .isIn .. | .call .. | .field .. | .value .. =>
      isFalse nofun
  | .or a b, e => match e with
    | .or c d => match decEq a c, decEq b d with
      | isTrue h, isTrue k => isTrue (by rw [h, k])
      | isFalse h, _ => isFalse fun e => h (by cases e; rfl)
      | _, isFalse k => isFalse fun e => k (by cases e; rfl)
    | .and .. | .not .. | .compare .. | .isIn .. | .call .. | .field .. | .value .. =>
      isFalse nofun
  | .not a, e => match e with
    | .not c => match decEq a c with
      | isTrue h => isTrue (by rw [h])
      | isFalse h => isFalse fun e => h (by cases e; rfl)
    | .and .. | .or .. | .compare .. | .isIn .. | .call .. | .field .. | .value .. =>
      isFalse nofun
  | .compare a o b, e => match e with
    | .compare c p d => match decEq a c, instDecidableEqComparison o p, decEq b d with
      | isTrue h, isTrue i, isTrue k => isTrue (by rw [h, i, k])
      | isFalse h, _, _ => isFalse fun e => h (by cases e; rfl)
      | _, isFalse i, _ => isFalse fun e => i (by cases e; rfl)
      | _, _, isFalse k => isFalse fun e => k (by cases e; rfl)
    | .and .. | .or .. | .not .. | .isIn .. | .call .. | .field .. | .value .. =>
      isFalse nofun
  | .isIn a xs, e => match e with
    | .isIn c ys => match decEq a c, decEqList xs ys with
      | isTrue h, isTrue k => isTrue (by rw [h, k])
      | isFalse h, _ => isFalse fun e => h (by cases e; rfl)
      | _, isFalse k => isFalse fun e => k (by cases e; rfl)
    | .and .. | .or .. | .not .. | .compare .. | .call .. | .field .. | .value .. =>
      isFalse nofun
  | .call f xs, e => match e with
    | .call g ys => match instDecidableEqString f g, decEqList xs ys with
      | isTrue h, isTrue k => isTrue (by rw [h, k])
      | isFalse h, _ => isFalse fun e => h (by cases e; rfl)
      | _, isFalse k => isFalse fun e => k (by cases e; rfl)
    | .and .. | .or .. | .not .. | .compare .. | .isIn .. | .field .. | .value .. =>
      isFalse nofun
  | .field f, e => match e with
    | .field g => match instDecidableEqString f g with
      | isTrue h => isTrue (by rw [h])
      | isFalse h => isFalse fun e => h (by cases e; rfl)
    | .and .. | .or .. | .not .. | .compare .. | .isIn .. | .call .. | .value .. =>
      isFalse nofun
  | .value v, e => match e with
    | .value w => match instDecidableEqValue v w with
      | isTrue h => isTrue (by rw [h])
      | isFalse h => isFalse fun e => h (by cases e; rfl)
    | .and .. | .or .. | .not .. | .compare .. | .isIn .. | .call .. | .field .. =>
      isFalse nofun

def decEqList : (xs ys : List Expr) → Decidable (xs = ys)
  | [], [] => isTrue rfl
  | [], _ :: _ => isFalse nofun
  | _ :: _, [] => isFalse nofun
  | x :: xs, y :: ys => match decEq x y, decEqList xs ys with
    | isTrue h, isTrue k => isTrue (by rw [h, k])
    | isFalse h, _ => isFalse fun e => h (by cases e; rfl)
    | _, isFalse k => isFalse fun e => k (by cases e; rfl)

end

instance : DecidableEq Expr := decEq

/-! ## building -/

/-- the first expression joined with the others in order, nothing for an empty list -/
def fold? (join : Expr → Expr → Expr) : List Expr → Option Expr
  | [] => none
  | e :: rest => some (rest.foldl join e)

def all? : List Expr → Option Expr := fold? and

def any? : List Expr → Option Expr := fold? or

/-- name of the function that matches a text against a pattern with wildcards -/
def likeFunction : String := "like"

def like (field pattern : String) : Expr :=
  call likeFunction [.field field, value (.text pattern)]

/-! ## text -/

mutual

def chars : Expr → List Char
  | and a b => '(' :: chars a ++ " and ".toList ++ chars b ++ [')']
  | or a b => '(' :: chars a ++ " or ".toList ++ chars b ++ [')']
  | not a => "(not ".toList ++ chars a ++ [')']
  | compare l op r => '(' :: chars l ++ ' ' :: op.name.toList ++ ' ' :: chars r ++ [')']
  | isIn l items => '(' :: chars l ++ " in (".toList ++ listChars items ++ "))".toList
  | call function args => function.toList ++ '(' :: listChars args ++ [')']
  | field name => name.toList
  | value v => v.chars

/-- the texts with commas between them -/
def listChars : List Expr → List Char
  | [] => []
  | [e] => chars e
  | e :: rest => chars e ++ ',' :: listChars rest

end

def render (e : Expr) : String := String.ofList e.chars

end Expr

end RowSpec
