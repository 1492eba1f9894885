import FormTemplate.Blob
import FormTemplate.CommandLine.Execution
import FormTemplate.Config
import FormTemplate.Document
import FormTemplate.Document.Json
import FormTemplate.Files.Tree
import FormTemplate.Legacy
import FormTemplate.Main
import FormTemplate.Proofs.Blob.Locality
import FormTemplate.Proofs.Calendar.Timestamp
import FormTemplate.Proofs.Document.Isolation
import FormTemplate.Proofs.Document.Slugs
import FormTemplate.Proofs.Document.ReadBack
import FormTemplate.Proofs.Document.Run
import FormTemplate.Proofs.Json.Written
import FormTemplate.Proofs.Marker.Reported
import FormTemplate.Proofs.Schema.Built
import FormTemplate.Schema.Json
import FormTemplate.Schema.OfMarkers
import FormTemplate.Store.Reparse
import FormTemplate.Template
import FormTemplate.Validation
import FormTemplate.Proofs.Schema.Json
import FormTemplate.Proofs.Store.Calls
import FormTemplate.Proofs.Store.GuardedMap
import FormTemplate.Proofs.Document.Arrays
import FormTemplate.Proofs.Document.Rows
import FormTemplate.Proofs.Document.Again
import FormTemplate.Proofs.Store.Versions
import FormTemplate.Proofs.Store.Reparse
import FormTemplate.Proofs.Markup.Clean
import FormTemplate.Proofs.Document.Resubmit
import FormTemplate.Proofs.Unicode.Blank
import FormTemplate.Proofs.Markup.Trimmed
import FormTemplate.Proofs.Document.Rich
import FormTemplate.Proofs.Blob.NormalForm
import FormTemplate.Proofs.Store.Failures
import FormTemplate.Proofs.Store.Directory
import FormTemplate.Proofs.Document.LegacyView
import FormTemplate.Proofs.Document.Unconstrained
import FormTemplate.Proofs.Schema.Construction
import FormTemplate.Proofs.Marker.Accepted
import FormTemplate.Proofs.Marker.Blocks
import FormTemplate.Proofs.Schema.Layout
import FormTemplate.Proofs.Json.Context
import FormTemplate.Proofs.Items.Inert
import FormTemplate.Proofs.Items.Bared
import FormTemplate.Proofs.Items.LostBackslashes
import FormTemplate.Proofs.Items.Units
import FormTemplate.Proofs.Document.Lines
import FormTemplate.Proofs.Document.Checks
import FormTemplate.Proofs.Pattern.FullMatch
import FormTemplate.Proofs.Markup.Elements
import FormTemplate.Proofs.Schema.Growth
import FormTemplate.Proofs.Validation.Shapes
import FormTemplate.Proofs.Validation.Values
import FormTemplate.Proofs.Validation.Conforming
import FormTemplate.Proofs.Validation.Bounds
import FormTemplate.Proofs.Markup.Kept
import FormTemplate.Proofs.Marker.Overlap
import FormTemplate.Proofs.Bytes.Loops
