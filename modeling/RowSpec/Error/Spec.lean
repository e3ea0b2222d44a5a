/-!
# Specification errors

Why a call that builds a specification is refused.
-/

namespace RowSpec

/-- The directive that meets paging set by another one. -/
inductive PagingPart
  | take | skip | paginationFilter
deriving DecidableEq, Repr

def PagingPart.name : PagingPart → String
  | take => "take"
  | skip => "skip"
  | paginationFilter => "pagination filter"

inductive SpecError
  | duplicateTake
  | duplicateSkip
  | duplicatePagination (part : PagingPart)
  | duplicatePaginationFilter
  | duplicateOrderBy
  | duplicateGroupBy
  | duplicateSelector
  | countTooLarge (part : PagingPart)
deriving DecidableEq, Repr

/-- short name of the kind of error -/
def SpecError.code : SpecError → String
  | duplicateTake => "DuplicateTake"
  | duplicateSkip => "DuplicateSkip"
  | duplicatePagination _ => "DuplicatePagination"
  | duplicatePaginationFilter => "DuplicatePaginationFilter"
  | duplicateOrderBy => "DuplicateOrderBy"
  | duplicateGroupBy => "DuplicateGroupBy"
  | duplicateSelector => "DuplicateSelector"
  | countTooLarge _ => "InvalidPagination"

def SpecError.message : SpecError → String
  | duplicateTake => "duplicate take: take has already been set on this specification"
  | duplicateSkip => "duplicate skip: skip has already been set on this specification"
  | duplicatePagination part =>
    "duplicate pagination: " ++ part.name ++ " conflicts with paging already set on this specification"
  | duplicatePaginationFilter =>
    "duplicate pagination filter: a pagination filter has already been set"
  | duplicateOrderBy =>
    "duplicate order by: a primary ordering is already present, use then_by"
  | duplicateGroupBy => "duplicate group by: a grouping key is already present"
  | duplicateSelector => "duplicate selector: a projection has already been set"
  | countTooLarge part => "invalid pagination: " ++ part.name ++ " exceeds i64::MAX"

end RowSpec
