import RoleChart.Access
import RoleChart.Base64
import RoleChart.Blake3
import RoleChart.Build.Error
import RoleChart.Build.Plan
import RoleChart.Build.Request
import RoleChart.Build.Run
import RoleChart.Chart.Template
import RoleChart.Chart.Values
import RoleChart.CommandLine.Invocation
import RoleChart.CommandLine.Parameter
import RoleChart.CommandLine.Reading
import RoleChart.Config
import RoleChart.Decimal.Binary64
import RoleChart.Decimal.Literal
import RoleChart.Decimal.Shortest
import RoleChart.Document.Indexed
import RoleChart.Document.Layout
import RoleChart.Document.Mapping
import RoleChart.Document.Node
import RoleChart.Document.OfValue
import RoleChart.Document.Quoting
import RoleChart.Document.Render
import RoleChart.Fault
import RoleChart.Files
import RoleChart.Json
import RoleChart.Main
import RoleChart.Manifest.Basic
import RoleChart.Manifest.Decode
import RoleChart.Manifest.Lookup
import RoleChart.Metadata
import RoleChart.Names
import RoleChart.Path
import RoleChart.Pod.Affinity
import RoleChart.Pod.Container
import RoleChart.Pod.Environment
import RoleChart.Pod.Image
import RoleChart.Pod.Probe
import RoleChart.Pod.Resources
import RoleChart.Pod.Storage
import RoleChart.Pod.Template
import RoleChart.Port.Definition
import RoleChart.Port.Name
import RoleChart.Port.Range
import RoleChart.Registry
import RoleChart.Secret
import RoleChart.Service
import RoleChart.Settings
import RoleChart.Store.Basic
import RoleChart.Store.Error
import RoleChart.Store.Operations
import RoleChart.Text.Basic
import RoleChart.Text.Blank
import RoleChart.Text.Case
import RoleChart.Text.CodePoints
import RoleChart.Text.Composition
import RoleChart.Text.MapRun
import RoleChart.Text.Shown
import RoleChart.Toml.Scalar
import RoleChart.Toml.Statement
import RoleChart.Toml.Table
import RoleChart.Toml.Value
import RoleChart.Url.Address
import RoleChart.Url.Basic
import RoleChart.Url.Domain
import RoleChart.Url.Domain.Direction
import RoleChart.Url.Domain.Joining
import RoleChart.Url.Domain.Mapping
import RoleChart.Url.Error
import RoleChart.Url.Percent
import RoleChart.Url.Punycode
import RoleChart.Workload.Basic
import RoleChart.Workload.Guard
import RoleChart.Yaml.Cursor
import RoleChart.Yaml.Decode
import RoleChart.Yaml.Resolve
import RoleChart.Yaml.Token
import RoleChart.Yaml.Token.Property
import RoleChart.Yaml.Token.Scalar
import RoleChart.Yaml.Token.Stream
import RoleChart.Yaml.Tree
import RoleChart.Yaml.Value
import RoleChart.Yaml.Writer
import RoleChart.Proofs.Yaml.Gaps
import RoleChart.Proofs.Yaml.Spelling
import RoleChart.Proofs.Yaml.Steps
import RoleChart.Proofs.Yaml.Outline
import RoleChart.Proofs.Yaml.Scanning
import RoleChart.Proofs.Yaml.Grouping
import RoleChart.Proofs.Document.Draft
import RoleChart.Proofs.Document.Expansion
import RoleChart.Proofs.Yaml.Decoding
import RoleChart.Proofs.Yaml.PlainText
import RoleChart.Proofs.Document.Joining
import RoleChart.Proofs.Document.Outlining
import RoleChart.Proofs.Document.Drafting
import RoleChart.Proofs.Document.RoundTrip
import RoleChart.Proofs.Document.Comments
import RoleChart.Proofs.Building
import RoleChart.Proofs.Document.Lookup
import RoleChart.Proofs.Pod.Fields
import RoleChart.Proofs.Url.Login
import RoleChart.Proofs.Pod.Credentials
import RoleChart.Proofs.Workload.Controllers
import RoleChart.Proofs.Workload.Jobs
import RoleChart.Proofs.Workload.Volumes
import RoleChart.Proofs.Workload.Replicas
import RoleChart.Proofs.Secret
import RoleChart.Proofs.Template.Meaning
import RoleChart.Proofs.Template.Reading
import RoleChart.Proofs.Chart.Values
import RoleChart.Proofs.Chart.Environment
import RoleChart.Proofs.Template.Paths
import RoleChart.Proofs.Pod.Environment
import RoleChart.Proofs.Template.Free
import RoleChart.Proofs.Chart.Coverage
import RoleChart.Proofs.Chart.Supply
import RoleChart.Proofs.Pod.Coverage
import RoleChart.Proofs.Workload.Coverage
import RoleChart.Proofs.Access
import RoleChart.Proofs.Files
import RoleChart.Proofs.Service
import RoleChart.Proofs.Port.Accepted
import RoleChart.Proofs.Port.Legal
import RoleChart.Proofs.Port.Sanitized
import RoleChart.Proofs.Port.Exponent
import RoleChart.Proofs.Template.Counter
import RoleChart.Proofs.Service.Counted
import RoleChart.Proofs.Alike
import RoleChart.Proofs.Pod.Alike
import RoleChart.Proofs.Chart.Shape
import RoleChart.Proofs.Document.Indexed
import RoleChart.Proofs.Document.Differing
import RoleChart.Proofs.Document.Paths
import RoleChart.Proofs.Document.Editing
import RoleChart.Proofs.Document.OfValue
import RoleChart.Proofs.Document.Written
import RoleChart.Proofs.Manifest.Order
import RoleChart.Proofs.Access.Objects
import RoleChart.Proofs.Access.Names
import RoleChart.Proofs.Access.Installations
import RoleChart.Proofs.Build.Outcome
import RoleChart.Proofs.Build.Precedence
import RoleChart.Proofs.Document.Distinct
import RoleChart.Proofs.Distinct
import RoleChart.Proofs.Listing
import RoleChart.Proofs.Workload.Bare
import RoleChart.Proofs.Collisions
import RoleChart.Proofs.Build.Places
import RoleChart.Proofs.Build.Confinement
import RoleChart.Proofs.Build.Written
import RoleChart.Proofs.Chart.Fresh
import RoleChart.Proofs.Yaml.Separators
import RoleChart.Proofs.Yaml.Keeping
import RoleChart.Proofs.Document.Literal
import RoleChart.Proofs.Pod.Legible
import RoleChart.Proofs.Bytes
import RoleChart.Proofs.Names
import RoleChart.Proofs.Document.Merging
import RoleChart.Proofs.Pod.Image
import RoleChart.Proofs.Json
import RoleChart.Proofs.Registry
import RoleChart.Proofs.Pod.Visible
import RoleChart.Proofs.Pod.Headers
