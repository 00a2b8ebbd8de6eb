/-!
# Operators

The thirteen comparisons of a criteria chain and the shape of the value that each takes.
-/

namespace EntityStore

inductive Operator where
  | eq
  | ne
  | gt
  | gte
  | lt
  | lte
  | like
  | fullText
  | phrase
  | among
  | notAmong
  | isNull
  | isNotNull
  deriving DecidableEq, Repr

inductive Shape where
  | noValue
  | single
  | multi
  deriving DecidableEq, Repr

namespace Operator

def symbol : Operator → String
  | eq => "="
  | ne => "!="
  | gt => ">"
  | gte => ">="
  | lt => "<"
  | lte => "<="
  | like => "LIKE"
  | fullText => "MATCH"
  | phrase => "MATCH_PHRASE"
  | among => "IN"
  | notAmong => "NOT IN"
  | isNull => "IS NULL"
  | isNotNull => "IS NOT NULL"

def shape : Operator → Shape
  | isNull | isNotNull => .noValue
  | among | notAmong => .multi
  | _ => .single

end Operator

end EntityStore
