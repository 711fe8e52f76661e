import Headhunt.Lib.Transition
import Headhunt.Lib.Table
import Headhunt.Lib.PyText
import Headhunt.Lib.PyJson
import Headhunt.Lib.PyBytes
import Headhunt.Storage.OutboxRepository
import Headhunt.Feishu.Fencing
import Headhunt.Api.Authenticity
import Headhunt.Runtime.ApprovalCard
import Headhunt.Memory.Isolation
import Headhunt.Storage.Repositories
import Headhunt.Runtime.Approvals
import Headhunt.Feishu.Service
import Headhunt.Runtime.ActionGate
import Headhunt.Runtime.ActionExecutor
import Headhunt.Feishu.OutboxHandlers
import Headhunt.Runtime.Decisions
import Headhunt.Storage.Transactions
import Headhunt.Feishu.Attempts
import Headhunt.Memory.Revocation
import Headhunt.Runtime.Worker
import Headhunt.Feishu.ForcedCouncil
import Headhunt.Runtime.TaskStarts
import Headhunt.Lib.PyJsonText
import Headhunt.ModelProfiles.KeyIsolation
import Headhunt.Feishu.TaskCards
import Headhunt.Runtime.Preparations
import Headhunt.Storage.DurableEnqueue
import Headhunt.Runtime.RepeatedAuthorization
import Headhunt.Feishu.RetrySpacing
import Headhunt.Memory.ProposalIds
import Headhunt.Memory.Embeddings
import Headhunt.Harness.ContextPack
import Headhunt.Graphs.Review
import Headhunt.Graphs.CardChats
import Headhunt.Graphs.ApprovalReplay
import Headhunt.Memory.Selection
import Headhunt.Artifacts.WritePolicy
import Headhunt.Artifacts.ReadAudit
import Headhunt.Runtime.BitableWrites
import Headhunt.ModelProfiles.Defaults
import Headhunt.Context.Allowlist
import Headhunt.Feishu.BracketFields
import Headhunt.Feishu.ModelSetupCompletion
import Headhunt.Feishu.IntakeContract
import Headhunt.Sops.TriggerPolicy
import Headhunt.Gateways.PublicUrls
import Headhunt.Memory.RetentionRuns
import Headhunt.Lib.PyBase64
import Headhunt.ModelProfiles.SecretRoundTrips
import Headhunt.Feishu.CallbackEncryption
import Headhunt.Lib.JsonGrammar
import Headhunt.Gateways.BraceScanner
import Headhunt.Gateways.ChatJson
import Headhunt.Lib.JsonOrder
import Headhunt.Gateways.StrictSchema
import Headhunt.Lib.TextLines
import Headhunt.Runtime.LocalSecrets
import Headhunt.Graphs.CardRoundTrips
import Headhunt.Runtime.ConfirmedDispatch
import Headhunt.Runtime.BitableItems
import Headhunt.Feishu.Redelivery
import Headhunt.Feishu.EventPreparation
import Headhunt.Runtime.KeptApprovals
import Headhunt.Feishu.TenantTokens
import Headhunt.Feishu.DispatchOrder
