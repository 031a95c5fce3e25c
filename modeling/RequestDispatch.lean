import RequestDispatch.Attribute.Reserved
import RequestDispatch.Attribute.Value
import RequestDispatch.Chain.Basic
import RequestDispatch.Chain.Decorator
import RequestDispatch.Chain.Dispatch
import RequestDispatch.Chain.Hosted
import RequestDispatch.Chain.Level
import RequestDispatch.Chain.Outline
import RequestDispatch.Chain.Step
import RequestDispatch.Chain.View
import RequestDispatch.Decimal.Binary64
import RequestDispatch.Decimal.Natural
import RequestDispatch.Decimal.Real
import RequestDispatch.Dictionary
import RequestDispatch.Dispatch.Pipeline
import RequestDispatch.Dispatch.Session
import RequestDispatch.Environment
import RequestDispatch.Handler.Basic
import RequestDispatch.Handler.Failure
import RequestDispatch.Handler.Program
import RequestDispatch.Inspection.Argument
import RequestDispatch.Inspection.Command
import RequestDispatch.Inspection.Report
import RequestDispatch.Inspection.Resolution
import RequestDispatch.Json.Reader
import RequestDispatch.Json.Tree
import RequestDispatch.Json.Written
import RequestDispatch.Logging.Directive
import RequestDispatch.Logging.FieldMatch
import RequestDispatch.Logging.Level
import RequestDispatch.Logging.Settings
import RequestDispatch.Main
import RequestDispatch.Mapping.Error
import RequestDispatch.Mapping.Pattern
import RequestDispatch.Mapping.Target
import RequestDispatch.MappingFile.Basic
import RequestDispatch.MappingFile.Catalog
import RequestDispatch.MappingFile.Form
import RequestDispatch.MappingFile.Json
import RequestDispatch.MappingFile.Load
import RequestDispatch.MappingFile.Yaml
import RequestDispatch.Path.Context
import RequestDispatch.Path.Info
import RequestDispatch.Path.Parameter
import RequestDispatch.Regex.Error
import RequestDispatch.Regex.Meaning
import RequestDispatch.Regex.Reader
import RequestDispatch.Regex.Search
import RequestDispatch.Regex.Syntax
import RequestDispatch.Regex.Written
import RequestDispatch.Registry.Basic
import RequestDispatch.Registry.Lifecycle
import RequestDispatch.Request.Arrival
import RequestDispatch.Request.Attributes
import RequestDispatch.Request.Authority
import RequestDispatch.Request.Basic
import RequestDispatch.Request.Token
import RequestDispatch.Request.Uri
import RequestDispatch.Request.Url
import RequestDispatch.Response.Buffered
import RequestDispatch.Response.Outlet
import RequestDispatch.Response.Step
import RequestDispatch.Text.Blank
import RequestDispatch.Text.Cut
import RequestDispatch.Text.Escape
import RequestDispatch.Text.Quoted
import RequestDispatch.Text.Utf8
import RequestDispatch.Unicode.Age
import RequestDispatch.Unicode.Binary
import RequestDispatch.Unicode.CaseRing
import RequestDispatch.Unicode.Category
import RequestDispatch.Unicode.CharSet
import RequestDispatch.Unicode.Extension
import RequestDispatch.Unicode.Fold
import RequestDispatch.Unicode.Property
import RequestDispatch.Unicode.Script
import RequestDispatch.Unicode.Segment
import RequestDispatch.Unicode.Table
import RequestDispatch.Unicode.Word
import RequestDispatch.Yaml.Cursor
import RequestDispatch.Yaml.Node
import RequestDispatch.Yaml.Scalar
import RequestDispatch.Yaml.Token
import RequestDispatch.Proofs.Chain.Layers
import RequestDispatch.Proofs.Chain.Recorded
import RequestDispatch.Proofs.Chain.Frame
import RequestDispatch.Proofs.Chain.Ordinary
import RequestDispatch.Proofs.Dispatch.Entry
import RequestDispatch.Proofs.Dispatch.Passage
import RequestDispatch.Proofs.Dispatch.Unwinding
import RequestDispatch.Proofs.Chain.Shown
import RequestDispatch.Proofs.Dispatch.Identity
import RequestDispatch.Proofs.Chain.Telling
import RequestDispatch.Proofs.Chain.Residue
import RequestDispatch.Proofs.Chain.Dressed
import RequestDispatch.Proofs.Dispatch.Nesting
import RequestDispatch.Proofs.Dispatch.Mirror
import RequestDispatch.Proofs.Chain.Isolation
import RequestDispatch.Proofs.Path.Cutting
import RequestDispatch.Proofs.Inspection.Foretelling
import RequestDispatch.Proofs.Response.Buffering
import RequestDispatch.Proofs.Response.Dropping
import RequestDispatch.Proofs.Dispatch.Trailer
import RequestDispatch.Proofs.Dispatch.Machine
import RequestDispatch.Proofs.Dispatch.Output
import RequestDispatch.Proofs.Chain.Restacking
import RequestDispatch.Proofs.Registry.Passes
import RequestDispatch.Proofs.Registry.Lifetime
import RequestDispatch.Proofs.Dispatch.LeadingBack
import RequestDispatch.Proofs.Dispatch.Callers
import RequestDispatch.Proofs.Dispatch.FirstMatch
import RequestDispatch.Proofs.Chain.Listing
import RequestDispatch.Proofs.Chain.ReadBack
import RequestDispatch.Proofs.Chain.Removal
import RequestDispatch.Proofs.Dispatch.OneTarget
import RequestDispatch.Proofs.Inspection.Placeholders
import RequestDispatch.Proofs.Chain.Domain
import RequestDispatch.Proofs.Chain.Url
import RequestDispatch.Proofs.Chain.Forwarding
import RequestDispatch.Proofs.Dispatch.Marker
import RequestDispatch.Proofs.Mapping.Forms
import RequestDispatch.Proofs.Registry.Instances
import RequestDispatch.Proofs.Mapping.WholePath
import RequestDispatch.Proofs.Path.Collapsing
import RequestDispatch.Proofs.Text.Escapes
import RequestDispatch.Proofs.Path.Unescaping
import RequestDispatch.Proofs.Mapping.Remaining
import RequestDispatch.Proofs.MappingFile.AllOrNothing
import RequestDispatch.Proofs.Chain.Decorated
import RequestDispatch.Proofs.Chain.Port
import RequestDispatch.Proofs.Response.Headers
import RequestDispatch.Proofs.Path.Normal
import RequestDispatch.Proofs.MappingFile.Mounting
import RequestDispatch.Proofs.Dispatch.Failures
import RequestDispatch.Proofs.Path.Beneath
import RequestDispatch.Proofs.Path.Alike
import RequestDispatch.Proofs.Request.OneServer
