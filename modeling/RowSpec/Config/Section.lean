import RowSpec.Document.Tree
import RowSpec.Evaluation.Page

/-!
# Reading configuration sections

* `Path`               the keys that lead to a place in a document, outermost first;
* `Surplus`            what becomes of values for which there is no more use;
* `Tree.count`, `Tree.variant`, `Tree.duration`   readers of single values;
* `Tree.Field`         a key with a reader, and what a value at the key changes;
* `Tree.readSection`   reads a map key by key, keys ascending, each known key by its own field.

A reader answers with a value or with the place of the first value that it cannot read.
-/

namespace RowSpec

abbrev Path := List String

/-- What becomes of the items of a list behind those that have a field, and of the keys of a map
behind the one that makes a choice. -/
inductive Surplus
  | refused | ignored
deriving DecidableEq, Repr

namespace Tree

def refuse {α : Type} : Except Path α := .error []

def count : Tree → Except Path Nat
  | integer n => if 0 ≤ n ∧ n ≤ countLimit then .ok n.toNat else refuse
  | _ => refuse

/-- The same reader, its refusals placed under a key. -/
def under {α : Type} (key : String) (r : Except Path α) : Except Path α :=
  r.mapError (key :: ·)

/-- the entries of a map by their keys -/
def ascending (entries : List (String × Tree)) : List (String × Tree) :=
  entries.mergeSort fun a b => a.1 ≤ b.1

/-- A name that has a meaning, over null. -/
def named {α : Type} (ofName? : String → Option α) (name : String) : Tree → Except Path α
  | null => match ofName? name with
    | some x => .ok x
    | none => refuse
  | _ => refuse

/-- One of several names, alone or as the first key of a map. -/
def variant {α : Type} (surplus : Surplus) (ofName? : String → Option α) : Tree → Except Path α
  | text name => named ofName? name null
  | map entries => match surplus, ascending entries with
    | _, [(key, t)] | .ignored, (key, t) :: _ => under key (named ofName? key t)
    | _, _ => refuse
  | _ => refuse

def duration : Tree → Except Path Duration
  | text s => match Duration.ofText? s with
    | some d => .ok d
    | none => refuse
  | _ => refuse

/-- A field of a section: its key, and how a value at the key changes the section. -/
structure Field (α : Type) where
  key : String
  read : Tree → α → Except Path α

/-- the field of a key and a way to set it -/
def Field.of {α β : Type} (key : String) (reader : Tree → Except Path β) (set : β → α → α) :
    Field α :=
  ⟨key, fun t x => (reader t).map (set · x)⟩

/-- Entries one after the other; a key that no field has is refused at that key. -/
def readEntries {α : Type} (fields : List (Field α)) (x : α) :
    List (String × Tree) → Except Path α
  | [] => .ok x
  | (key, t) :: rest =>
    match fields.find? (·.key = key) with
    | none => .error [key]
    | some f => do readEntries fields (← under key (f.read t x)) rest

/-- Values in the order of the fields. -/
def readItems {α : Type} (surplus : Surplus) (x : α) (position : Nat) :
    List (Field α) → List Tree → Except Path α
  | _, [] => .ok x
  | [], _ :: _ => match surplus with
    | .refused => refuse
    | .ignored => .ok x
  | f :: fields, t :: rest => do
    readItems surplus (← under (String.ofList (digits position)) (f.read t x)) (position + 1)
      fields rest

/-- A section starts from default values; it is a map or the list of its fields' values. -/
def readSection {α : Type} (surplus : Surplus) (default : α) (fields : List (Field α)) :
    Tree → Except Path α
  | map entries => readEntries fields default (ascending entries)
  | list items => readItems surplus default 0 fields items
  | _ => refuse

end Tree

/-- A page request needs both of its numbers; other keys have no meaning. -/
def PageRequest.ofTree : Tree → Except Path PageRequest
  | .map entries => do
    match entries.lookup "page_number", entries.lookup "page_size" with
    | some n, some s => return ⟨← n.count, ← s.count⟩
    | _, _ => Tree.refuse
  | .list [n, s] => do return ⟨← n.count, ← s.count⟩
  | _ => Tree.refuse

end RowSpec
