import Bpf.Action
import Bpf.Assoc
import Bpf.AttachType
import Bpf.Attachment.Anchor
import Bpf.Attachment.Attach
import Bpf.Attachment.Basic
import Bpf.Attachment.Demand
import Bpf.Bytes
import Bpf.Code
import Bpf.CommandLine
import Bpf.Config
import Bpf.Errno
import Bpf.Error
import Bpf.Feature.Attachments
import Bpf.Feature.Cache
import Bpf.Feature.HelperCalls
import Bpf.Feature.Instructions
import Bpf.Feature.Matrix
import Bpf.Feature.Probe
import Bpf.Feature.ProgramTypes
import Bpf.Helper
import Bpf.Host
import Bpf.Insn
import Bpf.Json
import Bpf.Kernel
import Bpf.Link.Basic
import Bpf.Link.Info
import Bpf.Link.Iterator
import Bpf.LinkType
import Bpf.Linux.Attr
import Bpf.Linux.Kernel
import Bpf.Linux.Log
import Bpf.Linux.Trace
import Bpf.Main
import Bpf.Memory.Kernel
import Bpf.Memory.Report
import Bpf.Memory.State
import Bpf.NulFree
import Bpf.ObjectType
import Bpf.Output
import Bpf.Path
import Bpf.Pin
import Bpf.Pinned
import Bpf.Program
import Bpf.ProgramType
import Bpf.Proofs.Handles
import Bpf.Proofs.KnownAnswer
import Bpf.Proofs.LogRoom
import Bpf.Proofs.ProbedOnce
import Bpf.Proofs.Reachable
import Bpf.Proofs.Report
import Bpf.Proofs.ShortReply
import Bpf.Proofs.Walk
import Bpf.Proofs.Watching
import Bpf.Request
import Bpf.Table
import Bpf.Text.Blank
import Bpf.Text.Hex
import Bpf.Text.Invisible
import Bpf.Text.Lines
import Bpf.Text.Number
import Bpf.Text.Quoted
import Bpf.Text.Utf8
import Bpf.Toml.Document
import Bpf.Toml.Numbers
import Bpf.Toml.Strings
import Bpf.Toml.Value
import Bpf.Version.Basic
import Bpf.Version.Parse
import Bpf.Proofs.Session
import Bpf.Proofs.Attached
import Bpf.Proofs.LinkChanges
import Bpf.Proofs.Pins
import Bpf.Proofs.RecordedPins
import Bpf.Proofs.PinMap
import Bpf.Proofs.Scripted
import Bpf.Proofs.FreshIds
import Bpf.Proofs.WalkEnds
import Bpf.Proofs.ReportRows
import Bpf.Proofs.FixedAnswers
import Bpf.Proofs.QueryOrder
import Bpf.Proofs.Failures
import Bpf.Proofs.LinkTypes
import Bpf.Proofs.DecodedText
import Bpf.Proofs.HelperLog
import Bpf.Proofs.Growth
import Bpf.Proofs.Probing
import Bpf.Proofs.ClosedTables
import Bpf.Proofs.HelperTags
import Bpf.Proofs.Refusals
import Bpf.Proofs.UnknownAnchors
import Bpf.Proofs.LoadRequests
import Bpf.Proofs.HelperReadings
import Bpf.Proofs.HelperVerdicts
import Bpf.Proofs.ManyProbes
import Bpf.Proofs.LoadVerdicts
import Bpf.Proofs.AttachVerdicts
import Bpf.Proofs.Anchors
import Bpf.Proofs.Contracts
import Bpf.Proofs.AttachRequests
import Bpf.Proofs.NextIds
import Bpf.Proofs.OpenedReports
import Bpf.Proofs.ClosedLinks
import Bpf.Proofs.LinkAttributes
import Bpf.Proofs.CodeNames
import Bpf.Proofs.PlainLines
import Bpf.Proofs.ReleaseTexts
import Bpf.Proofs.ListedLinks
import Bpf.Proofs.HelperTexts
import Bpf.Proofs.EncodedText
import Bpf.Proofs.WrittenLogs
import Bpf.Proofs.CountedProbes
import Bpf.Proofs.ProbesOnDemand
import Bpf.Proofs.DeclaredProbes
import Bpf.Proofs.CutText
import Bpf.Proofs.ProgramNames
import Bpf.Proofs.InsnFields
