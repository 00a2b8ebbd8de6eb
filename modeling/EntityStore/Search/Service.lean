import EntityStore.Program
import EntityStore.Search.Request

/-!
# The search service

What a search engine is asked about the documents of an index, and what it answers.
-/

namespace EntityStore.Search

inductive Call where
  | search (request : SearchRequest)
  | get (index : String) (docType : Option String) (id : String)
  | index (request : IndexRequest)
  | update (request : UpdateRequest)
  | delete (index : String) (docType : Option String) (id : String)
  /-- Makes what was written before visible to searches and updates. -/
  | refresh (index : String)

@[reducible] def Call.Reply : Call → Type
  | search _ => SearchResponse
  | get .. => Option SearchHit
  | index _ => IndexResponse
  | update _ => WriteResponse
  | delete .. => WriteResponse
  | refresh _ => Unit

abbrev service : Service := ⟨Call, Call.Reply⟩

end EntityStore.Search
