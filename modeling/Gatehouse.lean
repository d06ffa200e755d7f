import Gatehouse.Access.AllowList
import Gatehouse.Access.Exchange
import Gatehouse.Access.FormEntries
import Gatehouse.Access.Gate
import Gatehouse.Access.Page
import Gatehouse.Access.Token
import Gatehouse.Audit
import Gatehouse.Cli.Arguments
import Gatehouse.Cli.Command
import Gatehouse.Cli.Run
import Gatehouse.Data.Base64Url
import Gatehouse.Data.Hex
import Gatehouse.Data.Percent
import Gatehouse.Data.Sha256
import Gatehouse.Data.Utf8
import Gatehouse.Data.Word
import Gatehouse.Dialogue
import Gatehouse.Directory.FileStore
import Gatehouse.Directory.Opening
import Gatehouse.Directory.Operations
import Gatehouse.Directory.Record
import Gatehouse.Directory.Store
import Gatehouse.Elevation
import Gatehouse.Environment
import Gatehouse.Files.Call
import Gatehouse.Files.Path
import Gatehouse.Files.Tree
import Gatehouse.Firewall.Backend
import Gatehouse.Firewall.Command
import Gatehouse.Firewall.Error
import Gatehouse.Firewall.Hint
import Gatehouse.Firewall.Iptables
import Gatehouse.Firewall.Nftables
import Gatehouse.Firewall.Nftables.Batch
import Gatehouse.Firewall.Nftables.Listing
import Gatehouse.Firewall.Rehearsal
import Gatehouse.Firewall.Rule
import Gatehouse.Firewall.Selection
import Gatehouse.Http.Cookie
import Gatehouse.Http.FormText
import Gatehouse.Http.Headers
import Gatehouse.Http.MediaType
import Gatehouse.Http.Message
import Gatehouse.Http.Target
import Gatehouse.Json.Basic
import Gatehouse.Json.Draft
import Gatehouse.Json.Number
import Gatehouse.Json.Record
import Gatehouse.Machine
import Gatehouse.Main
import Gatehouse.Net.Address
import Gatehouse.Net.Network
import Gatehouse.Proofs.Access.Acceptance
import Gatehouse.Proofs.Access.AllowList
import Gatehouse.Proofs.Access.Answered
import Gatehouse.Proofs.Access.Calls
import Gatehouse.Proofs.Access.Changes
import Gatehouse.Proofs.Access.Client
import Gatehouse.Proofs.Access.Deletion
import Gatehouse.Proofs.Access.EmptyPasswords
import Gatehouse.Proofs.Access.Exchange
import Gatehouse.Proofs.Access.Filling
import Gatehouse.Proofs.Access.Forwarding
import Gatehouse.Proofs.Access.GrantCalls
import Gatehouse.Proofs.Access.History
import Gatehouse.Proofs.Access.Lifetimes
import Gatehouse.Proofs.Access.Overlap
import Gatehouse.Proofs.Access.Page
import Gatehouse.Proofs.Access.Refusals
import Gatehouse.Proofs.Access.Tickets
import Gatehouse.Proofs.Access.Token
import Gatehouse.Proofs.Audit
import Gatehouse.Proofs.Audit.Damage
import Gatehouse.Proofs.Data.Base64Url
import Gatehouse.Proofs.Data.ByteOrder
import Gatehouse.Proofs.Data.Hex
import Gatehouse.Proofs.Data.Utf8
import Gatehouse.Proofs.Dialogue
import Gatehouse.Proofs.Directory.Absence
import Gatehouse.Proofs.Directory.Additions
import Gatehouse.Proofs.Directory.Devices
import Gatehouse.Proofs.Directory.Documents
import Gatehouse.Proofs.Directory.Effects
import Gatehouse.Proofs.Directory.Failures
import Gatehouse.Proofs.Directory.FileSession
import Gatehouse.Proofs.Directory.FileStore
import Gatehouse.Proofs.Directory.HeldRoles
import Gatehouse.Proofs.Directory.Keys
import Gatehouse.Proofs.Directory.Names
import Gatehouse.Proofs.Directory.Operations
import Gatehouse.Proofs.Directory.Order
import Gatehouse.Proofs.Directory.Record
import Gatehouse.Proofs.Directory.Refinement
import Gatehouse.Proofs.Directory.Registry
import Gatehouse.Proofs.Directory.Restart
import Gatehouse.Proofs.Directory.Scan
import Gatehouse.Proofs.Directory.Sections
import Gatehouse.Proofs.Directory.Store
import Gatehouse.Proofs.Directory.SystemRoles
import Gatehouse.Proofs.Directory.Table
import Gatehouse.Proofs.Files.Below
import Gatehouse.Proofs.Files.Path
import Gatehouse.Proofs.Files.Replaced
import Gatehouse.Proofs.Files.Tree
import Gatehouse.Proofs.Firewall.Closing
import Gatehouse.Proofs.Firewall.Disturbances
import Gatehouse.Proofs.Firewall.Iptables.Chain
import Gatehouse.Proofs.Firewall.Iptables.Copies
import Gatehouse.Proofs.Firewall.Iptables.Entries
import Gatehouse.Proofs.Firewall.Iptables.Flush
import Gatehouse.Proofs.Firewall.Iptables.Listing
import Gatehouse.Proofs.Firewall.Iptables.Refinement
import Gatehouse.Proofs.Firewall.Iptables.Run
import Gatehouse.Proofs.Firewall.Iptables.Session
import Gatehouse.Proofs.Firewall.Nftables.Additions
import Gatehouse.Proofs.Firewall.Nftables.Batches
import Gatehouse.Proofs.Firewall.Nftables.Copies
import Gatehouse.Proofs.Firewall.Nftables.Echoes
import Gatehouse.Proofs.Firewall.Nftables.Failures
import Gatehouse.Proofs.Firewall.Nftables.Listing
import Gatehouse.Proofs.Firewall.Nftables.Packets
import Gatehouse.Proofs.Firewall.Nftables.Presence
import Gatehouse.Proofs.Firewall.Nftables.Refinement
import Gatehouse.Proofs.Firewall.Nftables.Reports
import Gatehouse.Proofs.Firewall.Nftables.Ruleset
import Gatehouse.Proofs.Firewall.Nftables.Session
import Gatehouse.Proofs.Firewall.Nftables.Start
import Gatehouse.Proofs.Firewall.Nftables.Traffic
import Gatehouse.Proofs.Firewall.PartialBatches
import Gatehouse.Proofs.Firewall.Revocation
import Gatehouse.Proofs.Firewall.Selection
import Gatehouse.Proofs.Firewall.Transcript
import Gatehouse.Proofs.Http.Cookie
import Gatehouse.Proofs.Interleaving.Invariant
import Gatehouse.Proofs.Interleaving.Run
import Gatehouse.Proofs.Interleaving.Serial
import Gatehouse.Proofs.Json.Canonical
import Gatehouse.Proofs.Json.Layout
import Gatehouse.Proofs.Json.Number
import Gatehouse.Proofs.Json.Printable
import Gatehouse.Proofs.Json.Quote
import Gatehouse.Proofs.Json.Reading
import Gatehouse.Proofs.Json.Record
import Gatehouse.Proofs.Json.Spelling
import Gatehouse.Proofs.Net.Address
import Gatehouse.Proofs.Net.Network
import Gatehouse.Proofs.Settings.Bounds
import Gatehouse.Proofs.Settings.Document
import Gatehouse.Proofs.Settings.File
import Gatehouse.Proofs.Site.Authority
import Gatehouse.Proofs.Site.Credentials
import Gatehouse.Proofs.Site.Deadlines
import Gatehouse.Proofs.Site.Decisions
import Gatehouse.Proofs.Site.FailedLogins
import Gatehouse.Proofs.Site.ForcedReset
import Gatehouse.Proofs.Site.Grants
import Gatehouse.Proofs.Site.Handling
import Gatehouse.Proofs.Site.Mediation
import Gatehouse.Proofs.Site.PublicFiles
import Gatehouse.Proofs.Site.Run
import Gatehouse.Proofs.Site.Sessions
import Gatehouse.Proofs.Site.Trail
import Gatehouse.Proofs.SortedMap
import Gatehouse.Proofs.Text.Blank
import Gatehouse.Proofs.Text.HardwareAddress
import Gatehouse.Proofs.Text.Markup
import Gatehouse.Proofs.Text.Template
import Gatehouse.Proofs.Time.Calendar
import Gatehouse.Proofs.Time.Instant
import Gatehouse.Proofs.Time.Timestamp
import Gatehouse.Settings.Configuration
import Gatehouse.Settings.File
import Gatehouse.Settings.Location
import Gatehouse.Site.Basic
import Gatehouse.Site.Challenge
import Gatehouse.Site.Handle
import Gatehouse.Site.PublicFiles
import Gatehouse.Site.Rules
import Gatehouse.Site.Start
import Gatehouse.SortedMap
import Gatehouse.Text.Blank
import Gatehouse.Text.Decimal
import Gatehouse.Text.Label
import Gatehouse.Text.Lower
import Gatehouse.Text.Markup
import Gatehouse.Time.Calendar
import Gatehouse.Time.Instant
import Gatehouse.Time.MailDate
import Gatehouse.Time.Span
import Gatehouse.Time.Timestamp
import Gatehouse.Uuid
