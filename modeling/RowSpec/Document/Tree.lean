/-!
# Document trees

`Tree` is a document of named and listed values, such as a configuration file or a stored filter.
-/

namespace RowSpec

inductive Tree
  | null
  | bool (b : Bool)
  | integer (n : Int)
  /-- a number that is not written as an integer -/
  | fraction
  | text (s : String)
  | list (items : List Tree)
  | map (entries : List (String × Tree))
deriving Nonempty

namespace Tree

/-- a list of texts, such as a call without other arguments -/
def texts (ss : List String) : Tree := list (ss.map text)

def text? : Tree → Option String
  | text s => some s
  | _ => none

def bool? : Tree → Option Bool
  | bool b => some b
  | _ => none

def nat? : Tree → Option Nat
  | integer n => n.toNat?
  | _ => none

end Tree

end RowSpec
