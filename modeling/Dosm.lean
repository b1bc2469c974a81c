import Dosm.Agent.ApprovalForm
import Dosm.Agent.PlanOwners
import Dosm.Agent.SshRuns
import Dosm.Agent.TypedSecrets
import Dosm.Agent.Updates
import Dosm.Applications.Paths
import Dosm.Applications.Totals
import Dosm.Auth.Provisioning
import Dosm.Auth.Visibility
import Dosm.Certs.PageCaches
import Dosm.Chat.Accounting
import Dosm.Chat.Privacy
import Dosm.Chat.PromptIsolation
import Dosm.Chat.ReplySlots
import Dosm.Chat.Streaming
import Dosm.Confluence.Html
import Dosm.Confluence.Leftovers
import Dosm.Confluence.Listings
import Dosm.Credentials.SecretRef
import Dosm.Credentials.UseGuard
import Dosm.Dashboard.Isolation
import Dosm.Docs.Chunker
import Dosm.Docs.CliReference
import Dosm.Docs.Creation
import Dosm.Docs.IndexingRun
import Dosm.Docs.MarkdownText
import Dosm.Docs.Migration
import Dosm.Docs.Ownership
import Dosm.Docs.SavedPaths
import Dosm.Docs.SourceLoss
import Dosm.Docs.TextSearch
import Dosm.Docs.VectorRanking
import Dosm.Ftp.Commands
import Dosm.Ftp.MachineListing
import Dosm.Ftp.Session
import Dosm.Ftp.Socks
import Dosm.Ftp.Transfer
import Dosm.Guacamole.Leases
import Dosm.Inventory.References
import Dosm.Jumps.Identities
import Dosm.Jumps.LostConnections
import Dosm.Metrics.SoundReadings
import Dosm.Monitoring.CacheValidity
import Dosm.Monitoring.CoverageFilter
import Dosm.Network.CompletedScans
import Dosm.Org.Cards
import Dosm.Org.Pages
import Dosm.Org.SyncAnswer
import Dosm.Org.SyncFailures
import Dosm.Pipelines.Attribution
import Dosm.Pipelines.FinishedRuns
import Dosm.Pipelines.FreshInputs
import Dosm.Recording.PlanCards
import Dosm.Recording.Recovery
import Dosm.Recording.TypedSecrets
import Dosm.Secrets.Backends
import Dosm.Sessions.SingleWriter
import Dosm.Settings.ConfigFile
import Dosm.Startup.Runs
import Dosm.Tenancy.AllTenants
import Dosm.Terminals.Bridge
