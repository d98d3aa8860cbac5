import CodeSearch.Access
import CodeSearch.Auth.Provider
import CodeSearch.Auth.Session
import CodeSearch.Auth.State
import CodeSearch.Charset.AgeTable
import CodeSearch.Charset.Basic
import CodeSearch.Charset.CaseFold
import CodeSearch.Charset.Category
import CodeSearch.Charset.CategoryTable
import CodeSearch.Charset.FoldTable
import CodeSearch.Charset.GraphemeBreakTable
import CodeSearch.Charset.Property
import CodeSearch.Charset.PropertyTable
import CodeSearch.Charset.ScriptExtensionTable
import CodeSearch.Charset.ScriptTable
import CodeSearch.Charset.SentenceBreakTable
import CodeSearch.Charset.WordBreakTable
import CodeSearch.Cli.Args
import CodeSearch.Cli.CheckConfig
import CodeSearch.Cli.Duration
import CodeSearch.Cli.Outcome
import CodeSearch.Cli.Run
import CodeSearch.Cli.Style
import CodeSearch.Cli.Sync
import CodeSearch.Config.Basic
import CodeSearch.Config.Finalize
import CodeSearch.Config.Load
import CodeSearch.Config.Merge
import CodeSearch.Config.Repo
import CodeSearch.Decimal.Double
import CodeSearch.Decimal.Shortest
import CodeSearch.Discovery.Link
import CodeSearch.Discovery.Source
import CodeSearch.Error
import CodeSearch.Files.Directories
import CodeSearch.Files.Path
import CodeSearch.Files.Tree
import CodeSearch.Git.Credentials
import CodeSearch.Git.Driver
import CodeSearch.Git.HeadBranch
import CodeSearch.Json.Basic
import CodeSearch.Json.Decode
import CodeSearch.Json.Node
import CodeSearch.Json.Printer
import CodeSearch.Json.Reader
import CodeSearch.Main
import CodeSearch.Pattern.Basic
import CodeSearch.Pattern.Compile
import CodeSearch.Pattern.Escape
import CodeSearch.Pattern.Expr
import CodeSearch.Pattern.Meaning
import CodeSearch.Pattern.Parser
import CodeSearch.Pattern.Size
import CodeSearch.Program
import CodeSearch.Proofs.Access
import CodeSearch.Proofs.Auth.Births
import CodeSearch.Proofs.Auth.Sessions
import CodeSearch.Proofs.Cli.Reports
import CodeSearch.Proofs.Cli.Sync
import CodeSearch.Proofs.Config.Artifacts
import CodeSearch.Proofs.Config.Completion
import CodeSearch.Proofs.Config.DataDirs
import CodeSearch.Proofs.Config.Discovery
import CodeSearch.Proofs.Config.Effective
import CodeSearch.Proofs.Config.Finalization
import CodeSearch.Proofs.Config.Merging
import CodeSearch.Proofs.Config.WorkingDirs
import CodeSearch.Proofs.Discovery.Links
import CodeSearch.Proofs.Discovery.Listing
import CodeSearch.Proofs.Discovery.Pages
import CodeSearch.Proofs.Files.Elsewhere
import CodeSearch.Proofs.Files.Entries
import CodeSearch.Proofs.Files.Leads
import CodeSearch.Proofs.Files.Making
import CodeSearch.Proofs.Files.Masks
import CodeSearch.Proofs.Files.Nodes
import CodeSearch.Proofs.Files.Paths
import CodeSearch.Proofs.Files.Segments
import CodeSearch.Proofs.Files.Texts
import CodeSearch.Proofs.Files.Writing
import CodeSearch.Proofs.Git.Confidentiality
import CodeSearch.Proofs.Git.CredentialLines
import CodeSearch.Proofs.Git.CredentialStore
import CodeSearch.Proofs.Git.Protocol
import CodeSearch.Proofs.Json.Keeping
import CodeSearch.Proofs.Json.Numbers
import CodeSearch.Proofs.Json.Records
import CodeSearch.Proofs.Json.RoundTrip
import CodeSearch.Proofs.Json.Strings
import CodeSearch.Proofs.Pattern.Literal
import CodeSearch.Proofs.Pattern.Matching
import CodeSearch.Proofs.Resolution
import CodeSearch.Proofs.Runs
import CodeSearch.Proofs.Search.AllOrNothing
import CodeSearch.Proofs.Search.Exclusions
import CodeSearch.Proofs.Search.FanOut
import CodeSearch.Proofs.Search.Findings
import CodeSearch.Proofs.Search.LiteralText
import CodeSearch.Proofs.Search.Opened
import CodeSearch.Proofs.Search.Paging
import CodeSearch.Proofs.Search.Tally
import CodeSearch.Proofs.Search.Walk
import CodeSearch.Proofs.Search.Windows
import CodeSearch.Proofs.Services
import CodeSearch.Proofs.SizeLimit
import CodeSearch.Proofs.Sync.Apart
import CodeSearch.Proofs.Sync.Attention
import CodeSearch.Proofs.Sync.Batches
import CodeSearch.Proofs.Sync.Bystanders
import CodeSearch.Proofs.Sync.Clock
import CodeSearch.Proofs.Sync.Collecting
import CodeSearch.Proofs.Sync.Confluence
import CodeSearch.Proofs.Sync.Exclusion
import CodeSearch.Proofs.Sync.Following
import CodeSearch.Proofs.Sync.Footprints
import CodeSearch.Proofs.Sync.Options
import CodeSearch.Proofs.Sync.Places
import CodeSearch.Proofs.Sync.Safety
import CodeSearch.Proofs.Sync.SideBySide
import CodeSearch.Proofs.Sync.Targets
import CodeSearch.Proofs.Sync.Triggers
import CodeSearch.Proofs.Sync.Workers
import CodeSearch.Proofs.Text.Digits
import CodeSearch.Proofs.Text.Encoding
import CodeSearch.Proofs.Text.Ends
import CodeSearch.Proofs.Text.Lines
import CodeSearch.Proofs.Text.Utf8
import CodeSearch.Proofs.Url.Hosts
import CodeSearch.Proofs.Url.Percent
import CodeSearch.Proofs.Vcs.Attempts
import CodeSearch.Proofs.Vcs.Scripts
import CodeSearch.Proofs.Vcs.Secrets
import CodeSearch.Proofs.Web.Authorization
import CodeSearch.Proofs.Web.Concealment
import CodeSearch.Proofs.Web.Failures
import CodeSearch.Proofs.Web.Flows
import CodeSearch.Proofs.Web.Numerals
import CodeSearch.Proofs.Web.Updates
import CodeSearch.Remote
import CodeSearch.Search.FanOut
import CodeSearch.Search.Matcher
import CodeSearch.Search.Options
import CodeSearch.Search.Walk
import CodeSearch.Search.WorkingCopy
import CodeSearch.Services
import CodeSearch.Store.NameMap
import CodeSearch.Sync.Batch
import CodeSearch.Sync.Clock
import CodeSearch.Sync.Coordinator
import CodeSearch.Sync.Machine
import CodeSearch.Sync.Worker
import CodeSearch.Text.Blank
import CodeSearch.Text.Digits
import CodeSearch.Text.Lines
import CodeSearch.Text.Quoted
import CodeSearch.Text.Utf8
import CodeSearch.Toml.Document
import CodeSearch.Toml.Lexical
import CodeSearch.Url.Basic
import CodeSearch.Url.Domain
import CodeSearch.Url.Form
import CodeSearch.Url.Ipv4
import CodeSearch.Url.Ipv6
import CodeSearch.Url.Percent
import CodeSearch.Vcs.Driver
import CodeSearch.Vcs.Kinds
import CodeSearch.Vcs.Script
import CodeSearch.Web.Api
import CodeSearch.Web.Cookie
import CodeSearch.Web.Message
import CodeSearch.Web.Params
import CodeSearch.Web.Traffic
import CodeSearch.Web.Uri
