import BundleInstaller.Bundle.Declaration
import BundleInstaller.Bundle.Header
import BundleInstaller.Bundle.ReadError
import BundleInstaller.Bundle.Splitter
import BundleInstaller.Bundle.Strategy
import BundleInstaller.Cluster.Call
import BundleInstaller.Cluster.Catalog
import BundleInstaller.Cluster.Client
import BundleInstaller.Cluster.Collection
import BundleInstaller.Cluster.Discovery
import BundleInstaller.Cluster.Error
import BundleInstaller.Cluster.Memory
import BundleInstaller.Cluster.Metadata
import BundleInstaller.Cluster.Object
import BundleInstaller.Config
import BundleInstaller.Decimal.Arithmetic
import BundleInstaller.Decimal.Double
import BundleInstaller.Decimal.Reading
import BundleInstaller.Decimal.Shortest
import BundleInstaller.Decode.Content
import BundleInstaller.Decode.Format
import BundleInstaller.Decode.Mismatch
import BundleInstaller.Event
import BundleInstaller.Fetch.Error
import BundleInstaller.Fetch.Shelf
import BundleInstaller.Fetch.Source
import BundleInstaller.Fetch.Validate
import BundleInstaller.Http.Message
import BundleInstaller.Http.Target
import BundleInstaller.Install.Apply
import BundleInstaller.Install.Attempt
import BundleInstaller.Install.Call
import BundleInstaller.Install.Error
import BundleInstaller.Install.Reconcile
import BundleInstaller.Install.Rehearsal
import BundleInstaller.Install.Report
import BundleInstaller.Install.Summary
import BundleInstaller.Installation
import BundleInstaller.Installation.Definition
import BundleInstaller.Json.Cursor
import BundleInstaller.Json.Node
import BundleInstaller.Json.Reading
import BundleInstaller.Json.Value
import BundleInstaller.Main
import BundleInstaller.Operator.Arguments
import BundleInstaller.Operator.Call
import BundleInstaller.Operator.Control
import BundleInstaller.Operator.Error
import BundleInstaller.Operator.Execute
import BundleInstaller.Overlay.Build
import BundleInstaller.Overlay.Chunk
import BundleInstaller.Program
import BundleInstaller.Proofs.Calls
import BundleInstaller.Proofs.Numbering
import BundleInstaller.Proofs.Transcript
import BundleInstaller.Text.Blank
import BundleInstaller.Text.CombiningClass
import BundleInstaller.Text.Composition
import BundleInstaller.Text.Composition.Table
import BundleInstaller.Text.Direction
import BundleInstaller.Text.Escaped
import BundleInstaller.Text.Joining
import BundleInstaller.Text.Mark
import BundleInstaller.Text.Ranges
import BundleInstaller.Text.Unprintable
import BundleInstaller.Text.Utf8
import BundleInstaller.Text.Words
import BundleInstaller.Time.Duration
import BundleInstaller.Time.Timestamp
import BundleInstaller.Url
import BundleInstaller.Url.Address
import BundleInstaller.Url.Domain
import BundleInstaller.Url.Domain.Label
import BundleInstaller.Url.Domain.Mapping
import BundleInstaller.Url.Encoding
import BundleInstaller.Url.Host
import BundleInstaller.Url.Path
import BundleInstaller.Url.Punycode
import BundleInstaller.Yaml.Cursor
import BundleInstaller.Yaml.Event
import BundleInstaller.Yaml.Fault
import BundleInstaller.Yaml.Mark
import BundleInstaller.Yaml.Node
import BundleInstaller.Yaml.Scalar
import BundleInstaller.Yaml.Source
import BundleInstaller.Yaml.Token
import BundleInstaller.Yaml.Token.BlockText
import BundleInstaller.Yaml.Token.Gap
import BundleInstaller.Yaml.Token.Lexer
import BundleInstaller.Yaml.Token.Plain
import BundleInstaller.Yaml.Token.Quoted
import BundleInstaller.Yaml.Token.Tag
import BundleInstaller.Yaml.Value
import BundleInstaller.Yaml.Value.OfJson
import BundleInstaller.Yaml.Value.Reading
import BundleInstaller.Yaml.Value.Style
import BundleInstaller.Yaml.Value.Writing
import BundleInstaller.Proofs.Accounting
import BundleInstaller.Proofs.Identity
import BundleInstaller.Proofs.Memory
import BundleInstaller.Proofs.Admission
import BundleInstaller.Proofs.History
import BundleInstaller.Proofs.Parking
import BundleInstaller.Proofs.Retry
import BundleInstaller.Proofs.Entry
import BundleInstaller.Proofs.Convergence
import BundleInstaller.Proofs.Ensemble
import BundleInstaller.Proofs.Creations
import BundleInstaller.Proofs.Overtaking
import BundleInstaller.Proofs.Updates
import BundleInstaller.Proofs.Reapplication
import BundleInstaller.Proofs.Unreached
import BundleInstaller.Proofs.Exchange
import BundleInstaller.Proofs.Statuses
import BundleInstaller.Proofs.Merge
import BundleInstaller.Proofs.Fields
import BundleInstaller.Proofs.Patch
import BundleInstaller.Proofs.Octets
import BundleInstaller.Proofs.Chunks
import BundleInstaller.Proofs.Atomicity
import BundleInstaller.Proofs.Posts
import BundleInstaller.Proofs.Exits
import BundleInstaller.Proofs.Policies
import BundleInstaller.Proofs.Payload
import BundleInstaller.Proofs.Endpoints
import BundleInstaller.Proofs.Placement
import BundleInstaller.Proofs.Registration
import BundleInstaller.Proofs.Unusable
import BundleInstaller.Proofs.Absence
import BundleInstaller.Proofs.Duplicates
import BundleInstaller.Proofs.Durations
import BundleInstaller.Proofs.Sources
import BundleInstaller.Proofs.Styles
import BundleInstaller.Proofs.Quoting
import BundleInstaller.Proofs.Blocks
import BundleInstaller.Proofs.Lexing
import BundleInstaller.Proofs.Layout
import BundleInstaller.Proofs.Settings
import BundleInstaller.Proofs.Survey
import BundleInstaller.Proofs.LastAdded
