import RecordFilter.Number.Decimal
import RecordFilter.Number.Shortest
import RecordFilter.Text.Blank
import RecordFilter.Text.Escaped
import RecordFilter.Text.Split
import RecordFilter.Text.Word
import RecordFilter.Json.Parser
import RecordFilter.Json.Printer
import RecordFilter.Sql.Select
import RecordFilter.Catalog.Store
import RecordFilter.Time.Reading
import RecordFilter.Request.Coercion
import RecordFilter.Request.Decode
import RecordFilter.Pattern.Parser
import RecordFilter.Catalog.Encoding
import RecordFilter.Main
import RecordFilter.Settings.File
import RecordFilter.Proofs.Params
import RecordFilter.Proofs.Walk
import RecordFilter.Proofs.Start
import RecordFilter.Proofs.Resolve
import RecordFilter.Proofs.Reachable
import RecordFilter.Proofs.Rollback
import RecordFilter.Proofs.Query
import RecordFilter.Proofs.AlikeRequests
import RecordFilter.Proofs.AlikeFilters
import RecordFilter.Proofs.Aliases
import RecordFilter.Proofs.Spelling
import RecordFilter.Proofs.Names
import RecordFilter.Proofs.Placeholders
import RecordFilter.Proofs.Listings
import RecordFilter.Proofs.Guards
import RecordFilter.Proofs.Crossings
import RecordFilter.Proofs.Hidden
import RecordFilter.Proofs.Comparisons
import RecordFilter.Proofs.Emails
import RecordFilter.Proofs.Marks
import RecordFilter.Proofs.Presence
import RecordFilter.Proofs.Order
import RecordFilter.Proofs.Depth
import RecordFilter.Proofs.Apart
import RecordFilter.Proofs.Canonical
import RecordFilter.Proofs.Origins
import RecordFilter.Proofs.Conversion
import RecordFilter.Proofs.Formulas
import RecordFilter.Proofs.JsonLists
import RecordFilter.Proofs.Rebinding
import RecordFilter.Proofs.Frames
import RecordFilter.Proofs.Documents
import RecordFilter.Proofs.Targets
import RecordFilter.Proofs.Tables
import RecordFilter.Proofs.Truth
import RecordFilter.Proofs.Equality
import RecordFilter.Proofs.Wildcards
import RecordFilter.Proofs.BoundPatterns
import RecordFilter.Proofs.LeftJoins
import RecordFilter.Proofs.Elements
import RecordFilter.Proofs.Filled
import RecordFilter.Proofs.Numbering
import RecordFilter.Proofs.Updating
import RecordFilter.Proofs.Scalars
import RecordFilter.Proofs.RequestPaths
import RecordFilter.Proofs.Items
import RecordFilter.Proofs.BodyPaths
import RecordFilter.Proofs.ItemReadings
import RecordFilter.Proofs.RequestValues
import RecordFilter.Proofs.BoundValues
import RecordFilter.Proofs.StoredForm
import RecordFilter.Proofs.JsonPaths
import RecordFilter.Proofs.BackRelations
import RecordFilter.Proofs.InnerModifiers
import RecordFilter.Proofs.LiteralEntries
import RecordFilter.Proofs.FilterForm
import RecordFilter.Proofs.Overlays
import RecordFilter.Proofs.Registry
import RecordFilter.Proofs.Quotes
