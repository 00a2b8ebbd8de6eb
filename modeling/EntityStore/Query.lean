import EntityStore.Checked
import EntityStore.Criteria

/-!
# Queries

What to look for, which properties to bring back, how to group and order them, and which window of
the result to take; and pages, which name a window by its number.
-/

namespace EntityStore

inductive Direction where
  | asc
  | desc
  deriving DecidableEq, Repr

structure OrderBy where
  key : String
  direction : Direction
  deriving DecidableEq, Repr

/-- A key to group by, and the property that is to take the size of the group. -/
structure GroupBy where
  key : String
  countAlias : Option String := none
  deriving DecidableEq, Repr

/-! ## Pages -/

/-- A page number, starting at one, and a page size. -/
structure Page where
  number : Int64
  size : Int64
  deriving DecidableEq, Repr

namespace Page

def isValid (p : Page) : Bool := 1 ≤ p.number && 0 < p.size

def offset? (p : Page) : Option Int64 :=
  (checkedInt64 (p.number.toInt - 1)).bind fun before => checkedInt64 (before.toInt * p.size.toInt)

/-- The number of rows before the page, the greatest integer where it does not fit. -/
def offset (p : Page) : Int64 := p.offset?.getD Int64.maxValue

end Page

/-! ## Queries -/

structure Query where
  criteria : Option Criteria := none
  fields : List String := []
  groupBys : List GroupBy := []
  orderBys : List OrderBy := []
  offset : Option Int64 := none
  limit : Option Int64 := none
  hint : Option String := none

namespace Query

def withCriteria (q : Query) (c : Criteria) : Query := { q with criteria := some c }

def withFields (q : Query) (fields : List String) : Query := { q with fields := fields }

def groupBy (q : Query) (g : GroupBy) : Query := { q with groupBys := q.groupBys ++ [g] }

def orderBy (q : Query) (keys : List OrderBy) : Query := { q with orderBys := q.orderBys ++ keys }

def skip (q : Query) (offset : Int64) : Query := { q with offset := some offset }

def take (q : Query) (limit : Int64) : Query := { q with limit := some limit }

def page (q : Query) (p : Page) : Query := (q.skip p.offset).take p.size

def withHint (q : Query) (hint : String) : Query := { q with hint := some hint }

/-- The window of rows to take. Both bounds must be given, and must be sensible. -/
def paging (q : Query) : Option (Int64 × Int64) :=
  match q.offset, q.limit with
  | some offset, some limit => if 0 ≤ offset ∧ 0 < limit then some (offset, limit) else none
  | _, _ => none

end Query

end EntityStore
