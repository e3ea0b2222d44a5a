import RowSpec.Config.Section

/-!
# Repository configuration

* `Config`             page sizes and defaults for caching hints;
* `Config.ofTree`      reads the section of a configuration tree;
* `Config.validate`    the sizes that make sense together;
* `Config.load`        both, for the section `repository` of a whole tree;
* `Config.fill`        hints with what they leave open taken from the configuration.
-/

namespace RowSpec

structure CacheDefaults where
  timeout : Duration := .make 300 0
  mode : ExpirationMode := .absolute
deriving DecidableEq, Repr

structure Config where
  pages : PageLimits := {}
  cache : CacheDefaults := {}
deriving DecidableEq, Repr

inductive ConfigError
  /-- a value or a key that cannot be read, at its path inside the section; the path leaves out
  the name of the section wherever it occurs -/
  | load (at_ : Path)
  | sizesNotPositive
  | maxBelowDefault (max default : Nat)
deriving DecidableEq, Repr

namespace ConfigError

def detail : ConfigError → String
  | load at_ => ".".intercalate at_
  | sizesNotPositive => "page sizes must be positive"
  | maxBelowDefault max default =>
    "max_page_size (" ++ String.ofList (digits max) ++ ") is smaller than default_page_size (" ++
      String.ofList (digits default) ++ ")"

/-- text of an error that is not about reading -/
def message (e : ConfigError) : String := "invalid repository configuration: " ++ e.detail

end ConfigError

namespace Config

def sectionName : String := "repository"

def pageFields : List (Tree.Field PageLimits) :=
  [.of "default_page_size" Tree.count fun n l => { l with defaultSize := n },
    .of "max_page_size" Tree.count fun n l => { l with maxSize := n }]

def cacheFields (surplus : Surplus) : List (Tree.Field CacheDefaults) :=
  [.of "default_timeout" Tree.duration fun d c => { c with timeout := d },
    .of "default_mode" (Tree.variant surplus ExpirationMode.ofName?) fun m c => { c with mode := m }]

def fields (surplus : Surplus) : List (Tree.Field Config) :=
  [.of "pagination" (Tree.readSection surplus {} pageFields) fun l c => { c with pages := l },
    .of "cache" (Tree.readSection surplus {} (cacheFields surplus)) fun d c => { c with cache := d }]

def ofTree (surplus : Surplus) : Tree → Except Path Config :=
  Tree.readSection surplus {} (fields surplus)

def toTree (c : Config) : Tree :=
  .map [("pagination", .map [("default_page_size", .integer c.pages.defaultSize),
      ("max_page_size", .integer c.pages.maxSize)]),
    ("cache", .map [("default_timeout", .text c.cache.timeout.render),
      ("default_mode", .text c.cache.mode.name)])]

def validate (c : Config) : Except ConfigError Config :=
  if c.pages.defaultSize = 0 ∨ c.pages.maxSize = 0 then .error .sizesNotPositive
  else if c.pages.maxSize < c.pages.defaultSize then
    .error (.maxBelowDefault c.pages.maxSize c.pages.defaultSize)
  else .ok c

/-- A refusal in the section of the configuration. -/
def refusal (path : Path) : ConfigError := .load (path.filter (· ≠ sectionName))

/-- A tree without the section gives the default configuration; surplus values have no meaning. -/
def load (tree : Tree) : Except ConfigError Config := do
  let config ← match tree with
    | .map entries => match entries.lookup sectionName with
      | some t => (ofTree .ignored t).mapError refusal
      | none => pure {}
    | _ => pure {}
  config.validate

def fill (c : Config) (h : CacheHints) : CacheHints :=
  ⟨some (h.mode.getD c.cache.mode), some (h.timeout.getD c.cache.timeout)⟩

theorem validate_eq_ok {c d : Config} :
    c.validate = .ok d ↔
      d = c ∧ 0 < c.pages.defaultSize ∧ c.pages.defaultSize ≤ c.pages.maxSize := by
  unfold validate
  constructor
  · intro h
    split at h
    · cases h
    · split at h
      · cases h
      · cases h; exact ⟨rfl, by omega, by omega⟩
  · rintro ⟨rfl, h⟩
    rw [if_neg (by omega), if_neg (by omega)]

end Config

end RowSpec
