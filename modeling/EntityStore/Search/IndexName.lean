import EntityStore.Calendar.Render
import EntityStore.Error
import EntityStore.Text.Split

/-!
# Names of indices

An index has a fixed name, or a name that goes on with the date of the moment. The date is written
by a pattern, which is checked once when the name is declared.
-/

namespace EntityStore.Search

structure IndexName where
  start : String
  date : Option (List PatternItem)
  deriving DecidableEq, Repr

namespace IndexName

/-- The date pattern within `date{…}`, if the text has that form and the pattern is not empty. -/
def datePattern? (pattern : List Char) : Option (List Char) := do
  let rest ← Text.dropStart? "date\x7b".toList pattern
  let inner ← Text.dropLastChar? '}' rest
  if inner.isEmpty then none else some inner

/-- The name that an entity declares. A blank pattern is as good as none. -/
def parse (index : String) (pattern : Option String) : Except StoreError IndexName :=
  if Text.isBlank index then .error (.configuration .blankIndex)
  else match (pattern.map Text.trim).filter (!·.isEmpty) with
    | none => .ok ⟨index, none⟩
    | some p =>
      match datePattern? p.toList with
      | none => .error (.configuration (.patternShape p))
      | some inner =>
        match patternItems? inner with
        | none => .error (.configuration (.patternFormat p))
        | some items => .ok ⟨index, some items⟩

def isDynamic (n : IndexName) : Bool := n.date.isSome

/-- The name at a moment, if its date can be written. -/
def resolveAt? (n : IndexName) (t : Instant) : Option String :=
  match n.date with
  | none => some n.start
  | some items => (t.render? items).map fun date => n.start ++ String.ofList date

end IndexName

end EntityStore.Search
