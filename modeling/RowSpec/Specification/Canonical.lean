import RowSpec.Digest.Sha256
import RowSpec.Specification.Facets

/-!
# Canonical shape

* `Facets.canonical`   a text that says which rows a specification selects and in which order;
                       tracking, split queries and caching leave no mark in it;
* `Facets.cacheKey`    a short digest of that text.
-/

namespace RowSpec

/-- the texts with `|` between them -/
def joinBars : List (List Char) → List Char
  | [] => []
  | [p] => p
  | p :: rest => p ++ '|' :: joinBars rest

def OrderEntry.sign (o : OrderEntry) : Char :=
  match o.key.direction with
  | .asc => '+'
  | .desc => '-'

def SearchEntry.chars (s : SearchEntry) : List Char :=
  s.field.toList ++ '~' :: (Value.text s.pattern).chars ++ '@' :: digits s.group

def optionalCount : Option Nat → List Char
  | none => ['-']
  | some n => digits n

def Paging.chars : Paging → List Char
  | .none => "none".toList
  | .window skip take => optionalCount skip ++ '/' :: optionalCount take
  | .page r => '#' :: digits r.number ++ 'x' :: digits r.size

namespace Facets

def canonicalParts (f : Facets) : List (List Char) :=
  f.predicates.map (fun e => "w:".toList ++ e.chars) ++
    f.searches.map (fun s => "s:".toList ++ s.chars) ++
    f.includes.map (fun i => "i:".toList ++ i.path.toList) ++
    f.includePaths.map (fun p => "i:".toList ++ p.toList) ++
    f.groupKey.toList.map (fun k => "g:".toList ++ k.toList) ++
    f.orderings.map (fun o => "o:".toList ++ o.sign :: o.key.field.toList) ++
    ["p:".toList ++ f.paging.chars] ++
    (if f.ignoreQueryFilters then ["f:ignore".toList] else [])

def canonical (f : Facets) : String := String.ofList (joinBars f.canonicalParts)

/-- the first eight bytes of the digest of the canonical shape, in hexadecimal -/
def cacheKey (f : Facets) : String :=
  String.ofList (((Sha256.digest f.canonical.toUTF8.toList).take 8).flatMap hexByte)

end Facets

end RowSpec
