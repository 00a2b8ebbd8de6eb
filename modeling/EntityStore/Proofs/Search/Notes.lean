import EntityStore.Proofs.Mapping
import EntityStore.Search.Store

/-!
# An index of notes

The entity type in which statements about search stores are read at one example.
-/

namespace EntityStore.Search

def noteId : Field := ⟨"id", ⟨.int32, false⟩, .derived, true, false, false⟩

def noteTitle : Field := ⟨"title", ⟨.text, true⟩, .derived, false, false, false⟩

def noteRank : Field := ⟨"rank", ⟨.float64, false⟩, .derived, false, false, false⟩

def noteVersion : Field := ⟨"version", ⟨.int32, false⟩, .derived, false, false, true⟩

/-- Notes, with a title that may be missing, a rank, and the version of their document. -/
def notes : EntityType where
  typeName := "Note"
  names := { index := some "notes" }
  fields := [noteId, noteTitle, noteRank, noteVersion]

def noteMapping : Mapping where
  typeName := "Note"
  policy := .search
  properties := [
    ⟨"id", "id", .int32, false, false⟩,
    ⟨"title", "title", .text, true, false⟩,
    ⟨"rank", "rank", .float64, false, false⟩,
    ⟨"version", "version", .int32, false, false⟩]
  key := ⟨"id", "id", .int32, false, false⟩
  version := some ⟨"version", "version", .int32, false, false⟩
  names := { index := some "notes" }

def note (title : Content noteTitle.type) : Entity notes where
  slots := [⟨noteId, ⟨.int32 7, rfl⟩⟩, ⟨noteTitle, title⟩, ⟨noteRank, ⟨.float64 .zero, rfl⟩⟩,
    ⟨noteVersion, ⟨.int32 0, rfl⟩⟩]
  shape := rfl

def noteRead (title : Content noteTitle.type) : Entity notes where
  slots := [⟨noteId, ⟨.int32 7, rfl⟩⟩, ⟨noteTitle, title⟩, ⟨noteRank, ⟨.float64 .zero, rfl⟩⟩,
    ⟨noteVersion, ⟨.int32 3, rfl⟩⟩]
  shape := rfl

theorem build_notes : Mapping.build notes.descriptor .search = .ok noteMapping := by
  decide +kernel

def noteSession : Session notes where
  mapping := noteMapping
  indexName := ⟨"notes", none⟩
  idPolicy := .required
  maxUpdateSize := 100
  maxResultWindow := 100
  index := "notes"

end EntityStore.Search
