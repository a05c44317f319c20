import SecretConfig.CommandLine
import SecretConfig.Main
import SecretConfig.Proofs.Session.SingleFlight
import SecretConfig.Proofs.Session.Transitions
import SecretConfig.Proofs.Agent.Closing
import SecretConfig.Proofs.Agent.Contexts
import SecretConfig.Proofs.Agent.FireTime
import SecretConfig.Proofs.Agent.Refresh
import SecretConfig.Proofs.Agent.Stages
import SecretConfig.Proofs.Agent.Upkeep
import SecretConfig.Proofs.Agent.Publishing
import SecretConfig.Proofs.Settings.Oversights
import SecretConfig.Proofs.Settings.Secrecy
import SecretConfig.Proofs.Agent.Relogin
import SecretConfig.Proofs.Scheduler.Runs
import SecretConfig.Proofs.Scheduler.Schedule
import SecretConfig.Proofs.Scheduler.Spacing
import SecretConfig.Proofs.Agent.Renewing
import SecretConfig.Proofs.Session.Overflow
import SecretConfig.Proofs.Agent.Remote
import SecretConfig.Proofs.Backend.Paths
import SecretConfig.Proofs.Vault.Quoting
import SecretConfig.Proofs.Property.Merging
import SecretConfig.Proofs.Backend.Credentials
import SecretConfig.Proofs.Property.Simultaneous
import SecretConfig.Proofs.Backend.Plans
import SecretConfig.Proofs.Json.Writing
import SecretConfig.Proofs.Tree.Records
import SecretConfig.Proofs.Settings.RoundTrip
import SecretConfig.Proofs.Tree.Members
import SecretConfig.Proofs.Backend.RoundTrip
import SecretConfig.Proofs.Settings.Overrides
import SecretConfig.Proofs.Agent.Reporting
import SecretConfig.Proofs.Agent.Counting
import SecretConfig.Proofs.Agent.Scripts
