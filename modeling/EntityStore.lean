import EntityStore.Argument
import EntityStore.Binary64
import EntityStore.Binary64.Layout
import EntityStore.Binary64.Shortest
import EntityStore.Builder
import EntityStore.Calendar
import EntityStore.Calendar.Pattern
import EntityStore.Calendar.Render
import EntityStore.Checked
import EntityStore.Connection
import EntityStore.Criteria
import EntityStore.Criteria.Operator
import EntityStore.Criteria.Shape
import EntityStore.Entity
import EntityStore.Entity.Descriptor
import EntityStore.Entity.FieldType
import EntityStore.Error
import EntityStore.Id
import EntityStore.Json
import EntityStore.Json.Raw
import EntityStore.Json.Text
import EntityStore.Log
import EntityStore.Mapping
import EntityStore.Mapping.Row
import EntityStore.Operation
import EntityStore.Program
import EntityStore.Proofs.Blame
import EntityStore.Proofs.Change
import EntityStore.Proofs.Conversation
import EntityStore.Proofs.Course
import EntityStore.Proofs.Document
import EntityStore.Proofs.Entity
import EntityStore.Proofs.Failure
import EntityStore.Proofs.Integer
import EntityStore.Proofs.Late
import EntityStore.Proofs.Lookup
import EntityStore.Proofs.Mapping
import EntityStore.Proofs.Overwrite
import EntityStore.Proofs.Paging
import EntityStore.Proofs.Program
import EntityStore.Proofs.Refusal
import EntityStore.Proofs.Relational.Alignment
import EntityStore.Proofs.Relational.Bound
import EntityStore.Proofs.Relational.Condition
import EntityStore.Proofs.Relational.Course
import EntityStore.Proofs.Relational.Effect
import EntityStore.Proofs.Relational.Insertion
import EntityStore.Proofs.Relational.Request
import EntityStore.Proofs.Relational.Shape
import EntityStore.Proofs.Relational.Writes
import EntityStore.Proofs.Result
import EntityStore.Proofs.Rounding
import EntityStore.Proofs.Lossless
import EntityStore.Proofs.History
import EntityStore.Proofs.Calendar
import EntityStore.Proofs.Search.IndexName
import EntityStore.Proofs.Case
import EntityStore.Proofs.Row
import EntityStore.Proofs.Search.Course
import EntityStore.Proofs.Search.Index
import EntityStore.Proofs.Search.Interleaving
import EntityStore.Proofs.Search.Meaning
import EntityStore.Proofs.Search.Notes
import EntityStore.Proofs.Search.Refused
import EntityStore.Proofs.Search.Retry
import EntityStore.Proofs.Search.Window
import EntityStore.Proofs.Search.Writes
import EntityStore.Proofs.Template
import EntityStore.Proofs.Untried
import EntityStore.Proofs.WideColumn.Course
import EntityStore.Query
import EntityStore.Registry
import EntityStore.Relational.Clause
import EntityStore.Relational.Router
import EntityStore.Relational.Service
import EntityStore.Relational.Statement
import EntityStore.Relational.Store
import EntityStore.Repository
import EntityStore.Scaffold
import EntityStore.Search.Compile
import EntityStore.Search.Hit
import EntityStore.Search.IndexName
import EntityStore.Search.Query
import EntityStore.Search.Request
import EntityStore.Search.Service
import EntityStore.Search.Store
import EntityStore.Settings
import EntityStore.Settings.Address
import EntityStore.Settings.Shown
import EntityStore.Settings.Text
import EntityStore.Statement
import EntityStore.Text.Blank
import EntityStore.Text.Case
import EntityStore.Text.CaseTable
import EntityStore.Text.Integer
import EntityStore.Text.PrintTable
import EntityStore.Text.Quoted
import EntityStore.Text.Runs
import EntityStore.Text.Split
import EntityStore.Update
import EntityStore.Value
import EntityStore.WideColumn.Service
import EntityStore.WideColumn.Statement
import EntityStore.WideColumn.Store
import EntityStore.Proofs.Search.Cap
import EntityStore.Proofs.Relational.Routes
import EntityStore.Proofs.Relational.Rotation
import EntityStore.Proofs.Builder
import EntityStore.Proofs.Secrets
import EntityStore.Proofs.Groups
import EntityStore.Proofs.Transient
import EntityStore.Proofs.Credentials
import EntityStore.Proofs.Search.Limited
import EntityStore.Proofs.Search.Counted
import EntityStore.Proofs.Search.Matched
import EntityStore.Proofs.Key
import EntityStore.Proofs.Visited
import EntityStore.Proofs.Remains
import EntityStore.Proofs.Search.Insertion
import EntityStore.Proofs.Search.Override
import EntityStore.Proofs.Declaration
import EntityStore.Proofs.Relational.Projection
import EntityStore.Proofs.Relational.Assignment
import EntityStore.Proofs.Namesake
import EntityStore.Proofs.Search.Pattern
import EntityStore.Proofs.Literal
import EntityStore.Proofs.Unambiguous
import EntityStore.Proofs.Conversion
import EntityStore.Entity.Record
import EntityStore.Proofs.Split
import EntityStore.Proofs.Address
import EntityStore.Proofs.WideColumn.Count
import EntityStore.Proofs.Search.Encoding
import EntityStore.Proofs.Accessor
