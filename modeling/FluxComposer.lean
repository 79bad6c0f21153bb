import FluxComposer.Builder.Edit
import FluxComposer.Builder.View
import FluxComposer.Main
import FluxComposer.Service.Handle
import FluxComposer.Domain.Mapping
import FluxComposer.Unicode.Combining
import FluxComposer.Unicode.Composition
import FluxComposer.Unicode.Direction
import FluxComposer.Unicode.Joining
import FluxComposer.Proofs.Text.Search
import FluxComposer.Proofs.Text.Blank
import FluxComposer.Proofs.Json.Printed
import FluxComposer.Proofs.Query.Grammar
import FluxComposer.Proofs.Query.Rendered
import FluxComposer.Proofs.Query.Canonical
import FluxComposer.Proofs.Query.Stability
import FluxComposer.Proofs.Query.Calls
import FluxComposer.Proofs.Query.Line
import FluxComposer.Proofs.Query.Layout
import FluxComposer.Proofs.Builder.RangeText
import FluxComposer.Proofs.Builder.Pipeline
import FluxComposer.Proofs.Builder.Saving
import FluxComposer.Proofs.Builder.Selection
import FluxComposer.Proofs.Builder.Clearing
import FluxComposer.Proofs.Builder.Picking
import FluxComposer.Proofs.Builder.Version
import FluxComposer.Proofs.Session.History
import FluxComposer.Proofs.Session.Lifetime
import FluxComposer.Proofs.Service.Listings
import FluxComposer.Proofs.Service.Access
import FluxComposer.Proofs.Service.Failure
import FluxComposer.Proofs.Csv.Quoted
import FluxComposer.Proofs.Influx.Grouping
import FluxComposer.Proofs.Influx.Written
import FluxComposer.Proofs.Influx.Decoded
import FluxComposer.Proofs.Influx.Listing
import FluxComposer.Proofs.Service.Isolation
import FluxComposer.Proofs.Service.Refinement
import FluxComposer.Proofs.Service.Translation
import FluxComposer.Proofs.Service.Publishing
import FluxComposer.Proofs.CommandLine.Files
