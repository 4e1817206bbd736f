import TrackerGuard.Artifact.Writer
import TrackerGuard.Coalescer.Basic
import TrackerGuard.Coalescer.Schedule
import TrackerGuard.Coalescer.Script
import TrackerGuard.Coalescer.Step
import TrackerGuard.Command.Arguments
import TrackerGuard.Command.Invocation
import TrackerGuard.Command.Report
import TrackerGuard.Command.Run
import TrackerGuard.Command.Shell
import TrackerGuard.Filter.Basic
import TrackerGuard.Filter.Grammar
import TrackerGuard.Filter.Groups
import TrackerGuard.Filter.Pattern
import TrackerGuard.Host.Address
import TrackerGuard.Host.Basic
import TrackerGuard.Idna.Composition
import TrackerGuard.Idna.CompositionTable
import TrackerGuard.Idna.Domain
import TrackerGuard.Idna.Label
import TrackerGuard.Idna.LabelTable
import TrackerGuard.Idna.Mapping
import TrackerGuard.Idna.MappingTable
import TrackerGuard.Idna.Punycode
import TrackerGuard.Json.Double
import TrackerGuard.Json.Fault
import TrackerGuard.Json.Reader
import TrackerGuard.Json.Shape
import TrackerGuard.Json.Value
import TrackerGuard.Json.Writer
import TrackerGuard.Main
import TrackerGuard.Page.Entity
import TrackerGuard.Page.Summary
import TrackerGuard.Proofs.Artifact.Awaited
import TrackerGuard.Proofs.Artifact.Freshness
import TrackerGuard.Proofs.Artifact.Run
import TrackerGuard.Proofs.Coalescer.Accounts
import TrackerGuard.Proofs.Coalescer.Barrier
import TrackerGuard.Proofs.Coalescer.Grants
import TrackerGuard.Proofs.Coalescer.HandBack
import TrackerGuard.Proofs.Coalescer.History
import TrackerGuard.Proofs.Coalescer.Ledger
import TrackerGuard.Proofs.Coalescer.Lock
import TrackerGuard.Proofs.Coalescer.Order
import TrackerGuard.Proofs.Coalescer.Service
import TrackerGuard.Proofs.Coalescer.Stranded
import TrackerGuard.Proofs.Coalescer.Transition
import TrackerGuard.Proofs.Coalescer.Warrants
import TrackerGuard.Proofs.Command.Compile
import TrackerGuard.Proofs.Filter.Cover
import TrackerGuard.Proofs.Filter.Fault
import TrackerGuard.Proofs.Filter.Groups
import TrackerGuard.Proofs.Filter.Meaning
import TrackerGuard.Proofs.Filter.Port
import TrackerGuard.Proofs.Filter.Reach
import TrackerGuard.Proofs.Filter.Reading
import TrackerGuard.Proofs.Host.Address
import TrackerGuard.Proofs.Host.Name
import TrackerGuard.Proofs.Host.Normal
import TrackerGuard.Proofs.Host.Suffix
import TrackerGuard.Proofs.Json.Compact
import TrackerGuard.Proofs.Json.Layout
import TrackerGuard.Proofs.Json.Sequence
import TrackerGuard.Proofs.Json.Token
import TrackerGuard.Proofs.Json.Value
import TrackerGuard.Proofs.Page.Attribution
import TrackerGuard.Proofs.Page.Summary
import TrackerGuard.Proofs.Rule.Document
import TrackerGuard.Proofs.Rule.Order
import TrackerGuard.Proofs.RuleList.Blocking
import TrackerGuard.Proofs.RuleList.Canonical
import TrackerGuard.Proofs.RuleList.Ceiling
import TrackerGuard.Proofs.RuleList.Exemptions
import TrackerGuard.Proofs.RuleList.Groups
import TrackerGuard.Proofs.RuleList.Precedence
import TrackerGuard.Proofs.Settings.FileStore
import TrackerGuard.Proofs.Settings.Flag
import TrackerGuard.Proofs.Settings.LastChange
import TrackerGuard.Proofs.Settings.Restart
import TrackerGuard.Proofs.Settings.Safelist
import TrackerGuard.Proofs.Settings.SharedStore
import TrackerGuard.Proofs.Settings.WholeSite
import TrackerGuard.Proofs.Settings.WriteThrough
import TrackerGuard.Proofs.Site.Cache
import TrackerGuard.Proofs.Site.Cut
import TrackerGuard.Proofs.Site.Eviction
import TrackerGuard.Proofs.Site.Lookup
import TrackerGuard.Proofs.Site.Projection
import TrackerGuard.Proofs.Site.Steps
import TrackerGuard.Proofs.Site.Subdomain
import TrackerGuard.Proofs.Site.Walk
import TrackerGuard.Proofs.Text.ByteOrder
import TrackerGuard.Proofs.Text.Dictionary
import TrackerGuard.Proofs.Text.Ends
import TrackerGuard.Proofs.Text.Lowercase
import TrackerGuard.Proofs.TrackerList.Agreement
import TrackerGuard.Proofs.TrackerList.Entries
import TrackerGuard.Proofs.TrackerList.FirstOccurrences
import TrackerGuard.Proofs.Url.Grammar
import TrackerGuard.Proofs.Url.Host
import TrackerGuard.Proofs.Url.Position
import TrackerGuard.Proofs.Verdict.Decision
import TrackerGuard.Proofs.Verdict.Doubt
import TrackerGuard.Proofs.Verdict.Exemption
import TrackerGuard.Proofs.Verdict.Index
import TrackerGuard.Proofs.Verdict.Reach
import TrackerGuard.Rule.Basic
import TrackerGuard.Rule.Document
import TrackerGuard.RuleList
import TrackerGuard.Session
import TrackerGuard.Settings.Features
import TrackerGuard.Settings.Flag
import TrackerGuard.Settings.Safelist
import TrackerGuard.Settings.Store
import TrackerGuard.Site.Cache
import TrackerGuard.Site.Lookup
import TrackerGuard.Site.Resolver
import TrackerGuard.Site.Walk
import TrackerGuard.Storage.Disk
import TrackerGuard.Storage.File
import TrackerGuard.Storage.Folder
import TrackerGuard.Suffix.Document
import TrackerGuard.Suffix.Tree
import TrackerGuard.Text.Blank
import TrackerGuard.Text.CodeRanges
import TrackerGuard.Text.Dictionary
import TrackerGuard.Text.Lowercase
import TrackerGuard.Text.LowercaseTable
import TrackerGuard.Text.Printable
import TrackerGuard.Text.Quoted
import TrackerGuard.TrackerList
import TrackerGuard.Url
import TrackerGuard.Verdict
