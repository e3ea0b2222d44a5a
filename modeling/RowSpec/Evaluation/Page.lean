import RowSpec.Specification.Facets

/-!
# Pages

* `PageLimits`          the default and the largest size of a page;
* `PageLimits.window`   the rows to skip and to take for a page request;
* `PageInfo`            what a page says about itself.
-/

namespace RowSpec

/-- Counts of rows saturate at the largest number of 64 bits. -/
def countLimit : Nat := 0xFFFFFFFFFFFFFFFF

structure PageLimits where
  defaultSize : Nat := 25
  maxSize : Nat := 1000
deriving DecidableEq, Repr

namespace PageLimits

/-- The default stands in for size 0, and no page is larger than the largest size. -/
def effectiveSize (l : PageLimits) (r : PageRequest) : Nat :=
  min (if r.size = 0 then l.defaultSize else r.size) l.maxSize

/-- Pages are counted from 1, and page 0 is page 1. -/
def effectiveNumber (r : PageRequest) : Nat := max r.number 1

def window (l : PageLimits) (r : PageRequest) : Nat × Nat :=
  (min ((effectiveNumber r - 1) * l.effectiveSize r) countLimit, l.effectiveSize r)

theorem effectiveSize_le (l : PageLimits) (r : PageRequest) : l.effectiveSize r ≤ l.maxSize :=
  Nat.min_le_right _ _

theorem effectiveNumber_pos (r : PageRequest) : 0 < effectiveNumber r :=
  Nat.lt_of_lt_of_le Nat.one_pos (Nat.le_max_right _ _)

end PageLimits

structure PageInfo where
  number : Nat
  size : Nat
  /-- rows that the criteria select, whatever the page -/
  total : Nat
deriving DecidableEq, Repr

/-- The pages needed for all rows; none when pages hold nothing. -/
def PageInfo.totalPages (p : PageInfo) : Nat :=
  if p.size = 0 then 0 else (p.total + p.size - 1) / p.size

structure Page (ε : Type) where
  items : List ε
  info : PageInfo

end RowSpec
