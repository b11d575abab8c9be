import JwOps.Agentd.Events
import JwOps.Agentd.Limiter
import JwOps.Agentd.Policy
import JwOps.Agentd.Recovery
import JwOps.Agentd.RecoveryCodes
import JwOps.Agentd.Replay
import JwOps.Agentd.Revocation
import JwOps.Agentd.ServiceInventory
import JwOps.Agentd.Terminal
import JwOps.Contracts.Firewall
import JwOps.Contracts.Framing
import JwOps.Engine.Diff
import JwOps.Ledger.Tampering
import JwOps.Lifecycle.Links
import JwOps.Lifecycle.Records
import JwOps.Lifecycle.Reloads
import JwOps.Lifecycle.Restoring
import JwOps.Lifecycle.Services
import JwOps.Lifecycle.Staging
import JwOps.Sftp.Client
