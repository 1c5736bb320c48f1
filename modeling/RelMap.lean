import RelMap.Row.EncodeFull
import RelMap.Row.Stream
import RelMap.Query.Template
import RelMap.Document.Description
import RelMap.Document.Value
import RelMap.Document.Json
import RelMap.Proofs.Schema.Expansion
import RelMap.Proofs.Row.Slots
import RelMap.Proofs.Scope.Lookup
import RelMap.Proofs.Statement.Operations
import RelMap.Proofs.Row.Coercion
import RelMap.Proofs.Row.Contents
import RelMap.Proofs.Schema.Converters
import RelMap.Proofs.Row.Mapping
import RelMap.Proofs.Row.RoundTrip
import RelMap.Proofs.Row.KeyParts
import RelMap.Proofs.Row.KeyFields
import RelMap.Proofs.Row.KeySlots
import RelMap.Proofs.Scope.Requirement
import RelMap.Proofs.Statement.Passages
import RelMap.Proofs.Statement.SelectList
import RelMap.Proofs.Scope.Growth
import RelMap.Proofs.Statement.Queues
import RelMap.Proofs.Statement.Coverage
import RelMap.Proofs.Statement.Registered
import RelMap.Proofs.Statement.Emitted
import RelMap.Proofs.Statement.Clauses
import RelMap.Proofs.Statement.Walks
import RelMap.Proofs.Statement.Elements
import RelMap.Proofs.Statement.MentionedJoins
import RelMap.Proofs.Statement.Failures
import RelMap.Proofs.Statement.Visits
import RelMap.Proofs.Statement.Lockstep
import RelMap.Proofs.Scope.Binding
import RelMap.Proofs.Statement.Bindings
import RelMap.Proofs.Statement.Captures
import RelMap.Proofs.Row.Shape
import RelMap.Proofs.Row.FullShape
import RelMap.Proofs.Row.EncodedColumns
import RelMap.Proofs.Statement.PlannedJoins
import RelMap.Proofs.Statement.Written
import RelMap.Proofs.Statement.JoinedReads
import RelMap.Proofs.Statement.RootSelects
import RelMap.Proofs.Row.Typing
import RelMap.Proofs.Row.Settling
import RelMap.Proofs.Row.Stability
import RelMap.Proofs.Schema.Cycles
import RelMap.Proofs.Schema.Resolution
import RelMap.Proofs.Schema.Validity
import RelMap.Proofs.Schema.Acceptance
import RelMap.Proofs.Statement.Batches
import RelMap.Proofs.Sql.Truth
import RelMap.Proofs.Statement.Membership
import RelMap.Proofs.Scope.Calls
import RelMap.Proofs.Statement.CollectedValues
import RelMap.Proofs.Scope.Visibility
import RelMap.Proofs.Row.Streams
import RelMap.Proofs.Row.Interning
import RelMap.Proofs.Bounds.Statements
import RelMap.Proofs.Schema.Layout
import RelMap.Proofs.Schema.DeclarationOrder
import RelMap.Proofs.Scope.Marks
import RelMap.Proofs.Statement.NeededJoins
import RelMap.Proofs.Schema.Leaves
import RelMap.Proofs.Schema.ColumnFlags
import RelMap.Proofs.Schema.JoinInference
import RelMap.Proofs.Schema.EagerPaths
import RelMap.Proofs.Scope.FreshAliases
import RelMap.Proofs.Statement.PlanningByName
import RelMap.Proofs.Statement.AutomaticJoins
import RelMap.Proofs.Sql.GapSearch
import RelMap.Proofs.Statement.AcceptedParameters
import RelMap.Proofs.Statement.WrittenColumns
import RelMap.Proofs.Scope.InlineAmbiguity
import RelMap.Proofs.Scope.LaterBindings
import RelMap.Proofs.Statement.Roots
import RelMap.Proofs.Statement.JoinSources
import RelMap.Proofs.Statement.GeneratedNames
import RelMap.Proofs.Sql.Simplification
import RelMap.Proofs.Sql.Readability
import RelMap.Proofs.Row.CoercedValues
import RelMap.Proofs.Schema.CycleSearch
import RelMap.Proofs.Schema.FieldPaths
import RelMap.Proofs.Statement.Safety
import RelMap.Proofs.Statement.NamedBatches
import RelMap.Proofs.Reference.Loading
import RelMap.Proofs.Document.Descriptions
import RelMap.Proofs.Scope.DependencySearch
import RelMap.Proofs.Scope.Deferral
