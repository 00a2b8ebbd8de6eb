import EntityStore.Proofs.Conversion
import EntityStore.Search.Query
import Mathlib.Data.List.Basic

/-!
# What the encoding of a query keeps

Two queries are sent as the same document exactly when they differ in nothing but what their values
lose on the way into a document. The proof reads an encoding from the outside in: the one key of the
document tells the kind of the query, and what stands under it tells the rest.
-/

namespace EntityStore

/-! ## Values in documents -/

namespace Value

theorem itemsToJson_eq_map (items : List Value) : itemsToJson items = items.map toJson := by
  induction items with
  | nil => rfl
  | cons item rest ih => rw [itemsToJson, ih, List.map_cons]

mutual

theorem plain_toJson : ∀ v : Value, v.toJson.Plain
  | null => trivial
  | int32 n => by
    have narrow := n.toInt_lt
    simp only [toJson, Json.ofInt32, Json.Plain, Int64.toInt_maxValue]
    omega
  | int64 n => by
    have narrow := n.toInt_lt
    simp only [toJson, Json.ofInt64, Json.Plain, Int64.toInt_maxValue]
    omega
  | float64 x => by
    simp only [toJson, Json.ofFloat]
    split_ifs <;> trivial
  | text s => trivial
  | boolean b => trivial
  | list items => by
    rw [toJson, Json.Plain]
    exact allPlain_itemsToJson items

theorem allPlain_itemsToJson : ∀ items : List Value, Json.AllPlain (itemsToJson items)
  | [] => trivial
  | item :: rest => ⟨plain_toJson item, allPlain_itemsToJson rest⟩

end

def reread (v : Value) : Value := ofJson v.toJson

theorem toJson_reread (v : Value) : v.reread.toJson = v.toJson :=
  (toJson_ofJson_iff v.toJson).mpr (plain_toJson v)

theorem toJson_eq_iff {v w : Value} : v.toJson = w.toJson ↔ v.reread = w.reread := by
  constructor
  · exact congrArg ofJson
  · intro same
    rw [← toJson_reread v, same, toJson_reread]

theorem itemsToJson_reread (items : List Value) :
    itemsToJson (items.map reread) = itemsToJson items := by
  simp only [itemsToJson_eq_map, List.map_map, Function.comp_def, toJson_reread]

theorem itemsToJson_eq_iff {vs ws : List Value} :
    itemsToJson vs = itemsToJson ws ↔ vs.map reread = ws.map reread := by
  constructor
  · intro same
    rw [itemsToJson_eq_map, itemsToJson_eq_map] at same
    have read := congrArg (List.map ofJson) same
    rwa [List.map_map, List.map_map] at read
  · intro same
    rw [← itemsToJson_reread vs, same, itemsToJson_reread]

end Value

theorem Json.single_inj {key key' : String} {body body' : Json} :
    single key body = single key' body' ↔ key = key' ∧ body = body' := by
  simp [single]

theorem RangeOp.key_injective : Function.Injective key := by
  intro a b same
  cases a <;> cases b <;> first | rfl | exact absurd same (by decide)

namespace SearchQuery

/-! ## Queries with other values -/

mutual

def mapValues (f : Value → Value) : SearchQuery → SearchQuery
  | matchAll => matchAll
  | term field value => term field (f value)
  | terms field values => terms field (values.map f)
  | range field op value => range field op (f value)
  | startsWith field start => startsWith field start
  | wildcard field pattern => wildcard field pattern
  | fullText field value => fullText field (f value)
  | phrase field value => phrase field (f value)
  | present field => present field
  | bool must mustNot => bool (mapAllValues f must) (mapAllValues f mustNot)
  | raw query => raw query

def mapAllValues (f : Value → Value) : List SearchQuery → List SearchQuery
  | [] => []
  | q :: rest => mapValues f q :: mapAllValues f rest

end

def normal : SearchQuery → SearchQuery := mapValues Value.reread

/-- The query without its values: its kinds, fields, comparisons, texts, and what stands under which
list of a Boolean query, with how many values are asked for. -/
def outline : SearchQuery → SearchQuery := mapValues fun _ => .null

mutual

theorem mapValues_mapValues (f g : Value → Value) :
    ∀ q : SearchQuery, (q.mapValues f).mapValues g = q.mapValues (g ∘ f)
  | term .. | range .. | fullText .. | phrase .. => rfl
  | matchAll | startsWith .. | wildcard .. | present .. | raw .. => rfl
  | terms field values => by simp only [mapValues, List.map_map]
  | bool must mustNot => by
    rw [mapValues, mapValues, mapValues, mapAllValues_mapAllValues f g must,
      mapAllValues_mapAllValues f g mustNot]

theorem mapAllValues_mapAllValues (f g : Value → Value) : ∀ qs : List SearchQuery,
    mapAllValues g (mapAllValues f qs) = mapAllValues (g ∘ f) qs
  | [] => rfl
  | q :: rest => by
    rw [mapAllValues, mapAllValues, mapAllValues, mapValues_mapValues f g q,
      mapAllValues_mapAllValues f g rest]

end

theorem outline_normal (q : SearchQuery) : q.normal.outline = q.outline :=
  mapValues_mapValues Value.reread _ q

mutual

theorem toJson_normal : ∀ q : SearchQuery, q.normal.toJson = q.toJson
  | matchAll | startsWith .. | wildcard .. | present .. | raw .. => rfl
  | term _ v | range _ _ v | fullText _ v | phrase _ v => by
    rw [normal, mapValues, toJson, toJson, Value.toJson_reread]
  | terms _ values => by
    rw [normal, mapValues, toJson, toJson, Value.itemsToJson_reread]
  | bool must mustNot => by
    rw [normal, mapValues, toJson, toJson, listToJson_normal must, listToJson_normal mustNot]

theorem listToJson_normal : ∀ qs : List SearchQuery,
    listToJson (mapAllValues Value.reread qs) = listToJson qs
  | [] => rfl
  | q :: rest => by
    rw [mapAllValues, listToJson, listToJson, ← normal, toJson_normal q, listToJson_normal rest]

end

/-! ## The key of an encoding -/

inductive Kind where
  | matchAll
  | term
  | terms
  | range
  | startsWith
  | wildcard
  | fullText
  | phrase
  | present
  | bool
  | raw
  deriving DecidableEq

def Kind.key : Kind → String
  | matchAll => "match_all"
  | term => "term"
  | terms => "terms"
  | range => "range"
  | startsWith => "prefix"
  | wildcard => "wildcard"
  | fullText => "match"
  | phrase => "match_phrase"
  | present => "exists"
  | bool => "bool"
  | raw => "wrapper"

theorem Kind.key_injective : Function.Injective key := by
  intro a b same
  cases a <;> cases b <;> first | rfl | exact absurd same (by decide)

def kind : SearchQuery → Kind
  | matchAll => .matchAll
  | term .. => .term
  | terms .. => .terms
  | range .. => .range
  | startsWith .. => .startsWith
  | wildcard .. => .wildcard
  | fullText .. => .fullText
  | phrase .. => .phrase
  | present .. => .present
  | bool .. => .bool
  | raw .. => .raw

def body : SearchQuery → Json
  | matchAll => .object []
  | term field value => .single field value.toJson
  | terms field values => .single field (.array (Value.itemsToJson values))
  | range field op value => .single field (.single op.key value.toJson)
  | startsWith field start => .single field (.text start)
  | wildcard field pattern => .single field (.text pattern)
  | fullText field value => .single field value.toJson
  | phrase field value => .single field value.toJson
  | present field => .single "field" (.text field)
  | bool must mustNot =>
    .object (listField "must" (listToJson must) ++ listField "must_not" (listToJson mustNot))
  | raw query => .single "query" (.text query)

theorem toJson_eq_single (q : SearchQuery) : q.toJson = .single q.kind.key q.body := by
  cases q <;> rfl

theorem toJson_eq_toJson {p q : SearchQuery} :
    p.toJson = q.toJson ↔ p.kind = q.kind ∧ p.body = q.body := by
  rw [toJson_eq_single, toJson_eq_single, Json.single_inj, Kind.key_injective.eq_iff]

/-- The lists of a Boolean query can be told from their fields, although an empty one has none. -/
theorem listFields_inj {must mustNot must' mustNot' : List Json} :
    listField "must" must ++ listField "must_not" mustNot =
      listField "must" must' ++ listField "must_not" mustNot' ↔
    must = must' ∧ mustNot = mustNot' := by
  cases must <;> cases mustNot <;> cases must' <;> cases mustNot' <;> simp [listField]

/-! ## Encodings that are the same -/

mutual

theorem normal_of_body : ∀ {p q : SearchQuery}, p.kind = q.kind → p.body = q.body →
    p.normal = q.normal
  -- The kinds are the same, so the bodies are of one shape.
  | matchAll, matchAll, _, _ => rfl
  | term _ _, term _ _, _, same | fullText _ _, fullText _ _, _, same
  | phrase _ _, phrase _ _, _, same => by
    obtain ⟨rfl, values⟩ := Json.single_inj.mp same
    rw [normal, mapValues, mapValues, Value.toJson_eq_iff.mp values]
  | terms _ _, terms _ _, _, same => by
    obtain ⟨rfl, values⟩ := Json.single_inj.mp same
    rw [normal, mapValues, mapValues, Value.itemsToJson_eq_iff.mp (Json.array.inj values)]
  | range _ _ _, range _ _ _, _, same => by
    obtain ⟨rfl, bounds⟩ := Json.single_inj.mp same
    obtain ⟨ops, values⟩ := Json.single_inj.mp bounds
    rw [normal, mapValues, mapValues, RangeOp.key_injective ops, Value.toJson_eq_iff.mp values]
  | startsWith _ _, startsWith _ _, _, same | wildcard _ _, wildcard _ _, _, same => by
    obtain ⟨rfl, texts⟩ := Json.single_inj.mp same
    rw [Json.text.inj texts]
  | present _, present _, _, same | raw _, raw _, _, same => by
    rw [Json.text.inj (Json.single_inj.mp same).2]
  | bool must mustNot, bool must' mustNot', _, same => by
    obtain ⟨musts, mustNots⟩ := listFields_inj.mp (Json.object.inj same)
    rw [normal, mapValues, mapValues, allNormal_of_listToJson musts,
      allNormal_of_listToJson mustNots]

theorem allNormal_of_listToJson : ∀ {ps qs : List SearchQuery}, listToJson ps = listToJson qs →
    mapAllValues Value.reread ps = mapAllValues Value.reread qs
  | [], [], _ => rfl
  | p :: ps, q :: qs, same => by
    obtain ⟨first, rest⟩ := List.cons.inj same
    obtain ⟨kinds, bodies⟩ := toJson_eq_toJson.mp first
    rw [mapAllValues, mapAllValues, ← normal, normal_of_body kinds bodies,
      allNormal_of_listToJson rest]

end

/-- Queries have one encoding exactly when they are one query but for what their values lose, and
then they have one outline. -/
theorem encoding_faithful (p q : SearchQuery) :
    (p.toJson = q.toJson ↔ p.normal = q.normal) ∧ (p.toJson = q.toJson → p.outline = q.outline) := by
  have same_normal : p.toJson = q.toJson → p.normal = q.normal := by
    intro same
    obtain ⟨kinds, bodies⟩ := toJson_eq_toJson.mp same
    exact normal_of_body kinds bodies
  refine ⟨⟨same_normal, fun same => ?_⟩, fun same => ?_⟩
  · rw [← toJson_normal p, same, toJson_normal]
  · rw [← outline_normal p, ← outline_normal q, same_normal same]

/-- The width of an integer is lost. -/
example : (term "n" (.int32 1)).toJson = (term "n" (.int64 1)).toJson := by
  rfl

end SearchQuery

end EntityStore
