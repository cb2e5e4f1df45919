import UpgradeGraph.Choice
import UpgradeGraph.Cli.Arguments
import UpgradeGraph.Cli.Run
import UpgradeGraph.Config
import UpgradeGraph.Dependencies
import UpgradeGraph.Disk
import UpgradeGraph.Disk.Graphs
import UpgradeGraph.Ecosystem
import UpgradeGraph.Entries
import UpgradeGraph.Graph.Archive
import UpgradeGraph.Graph.Call
import UpgradeGraph.Graph.Location
import UpgradeGraph.Graph.Node
import UpgradeGraph.Graph.Reach
import UpgradeGraph.Graph.Snapshot
import UpgradeGraph.Graph.Store
import UpgradeGraph.Instant
import UpgradeGraph.Json.Decode
import UpgradeGraph.Json.Reader
import UpgradeGraph.Json.Tree
import UpgradeGraph.Json.Writer
import UpgradeGraph.Main
import UpgradeGraph.Paths
import UpgradeGraph.Phase.Chain
import UpgradeGraph.Phase.Crawl
import UpgradeGraph.Phase.Fault
import UpgradeGraph.Phase.Resolve
import UpgradeGraph.Phase.Tally
import UpgradeGraph.Phase.Target
import UpgradeGraph.Phase.Work
import UpgradeGraph.Program
import UpgradeGraph.Proofs.Asking
import UpgradeGraph.Proofs.Choice
import UpgradeGraph.Proofs.Conduct
import UpgradeGraph.Proofs.Conduct.Work
import UpgradeGraph.Proofs.Division
import UpgradeGraph.Proofs.Division.Pool
import UpgradeGraph.Proofs.Division.Recording
import UpgradeGraph.Proofs.Division.Work
import UpgradeGraph.Proofs.Graph.Chained
import UpgradeGraph.Proofs.Graph.Declared
import UpgradeGraph.Proofs.Graph.Ordered
import UpgradeGraph.Proofs.Graph.Reach
import UpgradeGraph.Proofs.Graph.Resolved
import UpgradeGraph.Proofs.Graph.Sound
import UpgradeGraph.Proofs.Graph.Stock
import UpgradeGraph.Proofs.Graph.Tables
import UpgradeGraph.Proofs.Graph.Traced
import UpgradeGraph.Proofs.History
import UpgradeGraph.Proofs.Lineage
import UpgradeGraph.Proofs.Phase.Chain
import UpgradeGraph.Proofs.Phase.Chain.Convergence
import UpgradeGraph.Proofs.Phase.Chain.Outcome
import UpgradeGraph.Proofs.Phase.Launch
import UpgradeGraph.Proofs.Phase.Resolve
import UpgradeGraph.Proofs.Phase.Resolve.Convergence
import UpgradeGraph.Proofs.Phase.Resolve.Outcome
import UpgradeGraph.Proofs.Phase.Resolve.Pages
import UpgradeGraph.Proofs.Phase.Target
import UpgradeGraph.Proofs.Phase.Target.Path
import UpgradeGraph.Proofs.Phase.Target.Search
import UpgradeGraph.Proofs.Phase.Upkeep
import UpgradeGraph.Proofs.Requirement
import UpgradeGraph.Proofs.Sorting
import UpgradeGraph.Proofs.Upgrade
import UpgradeGraph.Proofs.Version.Order
import UpgradeGraph.Range.Basic
import UpgradeGraph.Range.Bounds
import UpgradeGraph.Range.Comparators
import UpgradeGraph.Range.Npm
import UpgradeGraph.Range.Nuget
import UpgradeGraph.Range.Union
import UpgradeGraph.Registry.Npm
import UpgradeGraph.Registry.Nuget
import UpgradeGraph.Registry.Script
import UpgradeGraph.Registry.Source
import UpgradeGraph.Registry.Visit
import UpgradeGraph.Requirement
import UpgradeGraph.Text
import UpgradeGraph.Text.Lowercase
import UpgradeGraph.Text.CodePoints
import UpgradeGraph.Text.Composition
import UpgradeGraph.Text.CompositionTable
import UpgradeGraph.Text.Quoted
import UpgradeGraph.Version.Level
import UpgradeGraph.Version.Number
import UpgradeGraph.Version.Order
import UpgradeGraph.Web.Url
import UpgradeGraph.Web.Domain
import UpgradeGraph.Web.Domain.Direction
import UpgradeGraph.Web.Domain.Joining
import UpgradeGraph.Web.Domain.MappingTable
import UpgradeGraph.Web.Domain.Punycode
import UpgradeGraph.Web.Host
import UpgradeGraph.Web.Reply
import UpgradeGraph.Proofs.Phase.Target.Outcome
import UpgradeGraph.Proofs.Account
import UpgradeGraph.Proofs.Account.Work
import UpgradeGraph.Proofs.Phase.Resolve.Totals
import UpgradeGraph.Proofs.Version.Partial
import UpgradeGraph.Proofs.Phase.Resolve.Repetition
import UpgradeGraph.Proofs.Attempts
import UpgradeGraph.Proofs.Phase.Resolve.Isolation
import UpgradeGraph.Proofs.Version.Padding
import UpgradeGraph.Proofs.Range.Interval
import UpgradeGraph.Proofs.Phase.Chain.Ranges
import UpgradeGraph.Proofs.Version.Natural
import UpgradeGraph.Proofs.Range.Npm
import UpgradeGraph.Proofs.Text
import UpgradeGraph.Proofs.Json.RoundTrip
import UpgradeGraph.Proofs.Dependencies
import UpgradeGraph.Proofs.Interruption
import UpgradeGraph.Proofs.Phase.Crawl.Catalog
import UpgradeGraph.Proofs.Phase.Crawl.Streak
import UpgradeGraph.Proofs.Phase.Crawl
import UpgradeGraph.Proofs.Phase.Crawl.Resumption
import UpgradeGraph.Proofs.Version.Ending
import UpgradeGraph.Proofs.Range.Operand
import UpgradeGraph.Proofs.Range.Form
import UpgradeGraph.Proofs.Range.Leading
import UpgradeGraph.Proofs.Range.Comparators
import UpgradeGraph.Proofs.Range.Nesting
import UpgradeGraph.Proofs.Range.Nuget
import UpgradeGraph.Proofs.Range.Listing
import UpgradeGraph.Proofs.Range.Written
import UpgradeGraph.Proofs.Graph.Query
import UpgradeGraph.Proofs.Graph.Nearest
import UpgradeGraph.Proofs.Unresolved
import UpgradeGraph.Proofs.Ranking
import UpgradeGraph.Proofs.Range.Pattern
import UpgradeGraph.Proofs.Range.Tokens
import UpgradeGraph.Proofs.Range.Union
import UpgradeGraph.Proofs.Range.Spelling
import UpgradeGraph.Proofs.Range.Pins
import UpgradeGraph.Proofs.Range.Margins
import UpgradeGraph.Proofs.Json.Members
import UpgradeGraph.Proofs.Registry.Visit
import UpgradeGraph.Proofs.Registry.Npm
import UpgradeGraph.Proofs.Phase.Crawl.Within
import UpgradeGraph.Proofs.Registry.Nuget
import UpgradeGraph.Proofs.Phase.Crawl.Spellings
import UpgradeGraph.Proofs.Chunks
import UpgradeGraph.Proofs.Phase.Crawl.Itinerary
import UpgradeGraph.Proofs.Phase.Crawl.Replica
import UpgradeGraph.Proofs.Phase.Resolve.Batches
import UpgradeGraph.Proofs.Version.Numeric
