import RowSpec.Decimal
import RowSpec.Uuid
import RowSpec.Calendar.Instant

/-!
# Values

* `Value`          what a field of a row holds;
* `Kind`           the kind of a value, named in error texts and used to order unlike values;
* `Value.literal`  the value as it is written inside an expression.
-/

namespace RowSpec

inductive Kind
  | null | bool | number | uuid | instant | date | time | text
deriving DecidableEq, Repr

def Kind.name : Kind → String
  | null => "null"
  | bool => "bool"
  | number => "number"
  | uuid => "uuid"
  | instant => "datetime"
  | date => "date"
  | time => "time"
  | text => "string"

inductive Value
  | null
  | bool (b : Bool)
  | number (d : Decimal)
  | uuid (u : Uuid)
  | instant (t : Instant)
  | date (d : Date)
  | time (t : Time)
  | text (s : String)
deriving DecidableEq

namespace Value

def kind : Value → Kind
  | null => .null
  | bool _ => .bool
  | number _ => .number
  | uuid _ => .uuid
  | instant _ => .instant
  | date _ => .date
  | time _ => .time
  | text _ => .text

def ofInt (n : Int) : Value := number (.ofInt n)

def ofNat (n : Nat) : Value := ofInt n

/-- Every quote inside a text is written twice. -/
def quotedChars : List Char → List Char
  | [] => []
  | c :: rest => if c = '\'' then '\'' :: '\'' :: quotedChars rest else c :: quotedChars rest

def chars : Value → List Char
  | null => "null".toList
  | bool b => if b then "true".toList else "false".toList
  | number d => d.chars
  | uuid u => u.chars
  | instant t => t.chars
  | date d => d.chars
  | time t => t.chars
  | text s => '\'' :: quotedChars s.toList ++ ['\'']

def literal (v : Value) : String := String.ofList v.chars

end Value

end RowSpec
