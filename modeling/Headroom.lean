import Headroom.Binary64.Basic
import Headroom.Binary64.Reader
import Headroom.Binary64.Shortest
import Headroom.Cluster.Call
import Headroom.Cluster.Object
import Headroom.Cluster.Script
import Headroom.Cluster.World
import Headroom.CommandLine.Request
import Headroom.CommandLine.Switch
import Headroom.CommandLine.Usage
import Headroom.Decimal.Basic
import Headroom.Decimal.Reader
import Headroom.Document
import Headroom.Environment.Assignment
import Headroom.Environment.Expansion
import Headroom.Failure
import Headroom.Journal.Level
import Headroom.Journal.Logger
import Headroom.Main
import Headroom.NameTable
import Headroom.Preflight
import Headroom.Probe.Checker
import Headroom.Probe.Measurement
import Headroom.Probe.Poll
import Headroom.Probe.Reclaim
import Headroom.Probe.Survey
import Headroom.Proofs.Binary64.Rounding
import Headroom.Proofs.Cluster.Conformance
import Headroom.Proofs.Cluster.Ending
import Headroom.Proofs.Cluster.Likeness
import Headroom.Proofs.Cluster.Request
import Headroom.Proofs.Cluster.Settled
import Headroom.Proofs.Decimal.Reader
import Headroom.Proofs.Decimal.Value
import Headroom.Proofs.Journal.Kinship
import Headroom.Proofs.Journal.Openings
import Headroom.Proofs.Journal.Written
import Headroom.Proofs.NameTable
import Headroom.Proofs.Preflight
import Headroom.Proofs.Probe.Aggregation
import Headroom.Proofs.Probe.Approach
import Headroom.Proofs.Probe.Calls
import Headroom.Proofs.Probe.Complaints
import Headroom.Proofs.Probe.Course
import Headroom.Proofs.Probe.Deletions
import Headroom.Proofs.Probe.Failures
import Headroom.Proofs.Probe.Findings
import Headroom.Proofs.Probe.Foresight
import Headroom.Proofs.Probe.Legs
import Headroom.Proofs.Probe.Measurement
import Headroom.Proofs.Probe.Naming
import Headroom.Proofs.Probe.Obliviousness
import Headroom.Proofs.Probe.Order
import Headroom.Proofs.Probe.Polling
import Headroom.Proofs.Probe.Promptness
import Headroom.Proofs.Probe.Protocol
import Headroom.Proofs.Probe.Punctuality
import Headroom.Proofs.Probe.Reclamation
import Headroom.Proofs.Probe.Rejection
import Headroom.Proofs.Probe.Removal
import Headroom.Proofs.Probe.RequiredSpace
import Headroom.Proofs.Probe.Soundness
import Headroom.Proofs.Probe.Survey
import Headroom.Proofs.Probe.Termination
import Headroom.Proofs.Probe.Timeline
import Headroom.Proofs.Probe.Turns
import Headroom.Proofs.Probe.Visits
import Headroom.Proofs.Quantity
import Headroom.Proofs.Report.Content
import Headroom.Proofs.Report.DiskUsage
import Headroom.Proofs.Report.MountPath
import Headroom.Proofs.Report.MountPoint
import Headroom.Proofs.Report.MountTable
import Headroom.Proofs.Report.MountUnion
import Headroom.Proofs.Report.PathComponents
import Headroom.Proofs.Reservation
import Headroom.Proofs.Resource.Name
import Headroom.Proofs.Resource.Subdomain
import Headroom.Proofs.Resource.Suffix
import Headroom.Proofs.Schema.Reading
import Headroom.Proofs.Settings
import Headroom.Proofs.StorageClass.BasePath
import Headroom.Proofs.StorageClass.Settled
import Headroom.Proofs.Text.Digit
import Headroom.Proofs.Text.Neighbours
import Headroom.Proofs.Text.Rows
import Headroom.Proofs.Text.Utf8
import Headroom.Proofs.Text.Words
import Headroom.Proofs.Yaml.Attempt
import Headroom.Proofs.Yaml.Document
import Headroom.Proofs.Yaml.Event
import Headroom.Proofs.Yaml.Graph
import Headroom.Proofs.Yaml.Merge
import Headroom.Proofs.Yaml.Token
import Headroom.Proofs.Yaml.TokenStream
import Headroom.Proofs.Yaml.Value
import Headroom.Quantity
import Headroom.Report.Content
import Headroom.Report.DiskUsage
import Headroom.Report.Error
import Headroom.Report.MountPoint
import Headroom.Report.MountTable
import Headroom.Resource.Claim
import Headroom.Resource.Job
import Headroom.Resource.Name
import Headroom.Schema.Datum
import Headroom.Schema.Issue
import Headroom.Settings.Basic
import Headroom.Settings.Source
import Headroom.StorageClass.BasePath
import Headroom.StorageClass.Entry
import Headroom.StorageClass.Error
import Headroom.Text.Blank
import Headroom.Text.Cased
import Headroom.Text.CodePoint
import Headroom.Text.Digit
import Headroom.Text.LowerCase
import Headroom.Text.Numeral
import Headroom.Text.Printable
import Headroom.Text.Quoted
import Headroom.Text.Rows
import Headroom.Text.Utf8
import Headroom.Verdict
import Headroom.Yaml.Base64
import Headroom.Yaml.Cursor
import Headroom.Yaml.Document
import Headroom.Yaml.Event
import Headroom.Yaml.Fault
import Headroom.Yaml.Graph
import Headroom.Yaml.Merge
import Headroom.Yaml.Tag
import Headroom.Yaml.Timestamp
import Headroom.Yaml.Token
import Headroom.Yaml.Token.Block
import Headroom.Yaml.Token.Plain
import Headroom.Yaml.Token.Quoted
import Headroom.Yaml.Token.Stream
import Headroom.Yaml.Token.Tag
import Headroom.Yaml.Value
