import Starweaver.Gateway.AuthorizationUrl
import Starweaver.Gateway.BudgetThresholds
import Starweaver.Gateway.CodexOAuth
import Starweaver.Gateway.ConcurrencyQuota
import Starweaver.Gateway.ConfigLoading
import Starweaver.Gateway.ConfigWorkers
import Starweaver.Gateway.CostArithmetic
import Starweaver.Gateway.DashboardCounts
import Starweaver.Gateway.DeliveryTick
import Starweaver.Gateway.EmergencyReach
import Starweaver.Gateway.EndedSessions
import Starweaver.Gateway.ExportPaging
import Starweaver.Gateway.ExternalLogins
import Starweaver.Gateway.GrantScopes
import Starweaver.Gateway.KeyChains
import Starweaver.Gateway.KeyThrottle
import Starweaver.Gateway.LoginAttempts
import Starweaver.Gateway.LoginSessions
import Starweaver.Gateway.NotificationFanOut
import Starweaver.Gateway.NotificationRuns
import Starweaver.Gateway.OtelExporter
import Starweaver.Gateway.OtelExporterRuns
import Starweaver.Gateway.OtelPacing
import Starweaver.Gateway.PricePatterns
import Starweaver.Gateway.PriceSelection
import Starweaver.Gateway.RedisHotState
import Starweaver.Gateway.RedisLeases
import Starweaver.Gateway.RepairBound
import Starweaver.Gateway.ReplayScopes
import Starweaver.Gateway.RequestBudget
import Starweaver.Gateway.ResourceNames
import Starweaver.Gateway.ResponsesWebSocket
import Starweaver.Gateway.ResponsesWebSocketTurns
import Starweaver.Gateway.RouteEvidence
import Starweaver.Gateway.RouteOrder
import Starweaver.Gateway.RouteReferences
import Starweaver.Gateway.RoutedModel
import Starweaver.Gateway.SessionContextRuns
import Starweaver.Gateway.SlidingWindows
import Starweaver.Gateway.UsageAliases
import Starweaver.Gateway.UsageDashboards
import Starweaver.Gateway.VersionedUpdates
import Starweaver.Library.Base64
import Starweaver.Library.Dialogue
import Starweaver.Library.Grouping
import Starweaver.Library.KeyedOnce
import Starweaver.Library.PercentCode
import Starweaver.Library.TextCode
import Starweaver.Platform.BackendAgreement
import Starweaver.Platform.DisabledUsers
import Starweaver.Platform.InvitationUse
import Starweaver.Platform.MemberTables
import Starweaver.Platform.ProjectOrganizations
import Starweaver.Platform.RecordFrames
import Starweaver.Platform.RecordVersions
import Starweaver.Platform.RouteMatching
import Starweaver.Platform.SubjectIds
