import SecretConfig.Settings
import SecretConfig.Agent.Run

set_option autoImplicit false

/-! # Agents from settings

Settings describe an agent: its strategy and its timeout, the source with its descriptors and
options, and how it starts and stops. -/

namespace SecretConfig

namespace Settings

/-- How backends are read. -/
def Backends.options (c : Backends) : BuildOptions :=
  ⟨c.failFast, seconds c.readTimeout⟩

/-- The goal of starting the agent. -/
def startGoal (c : Settings) : Goal :=
  .start c.lifecycle.renewal.policy c.lifecycle.revokeOnShutdown

/-- The goal of stopping it. -/
def stopGoal (c : Settings) (scheduler : Option CallId) : Goal :=
  .stop scheduler c.lifecycle.revokeOnShutdown none

/-- The agent over a store, before anything runs. -/
def agent (c : Settings) (files : Files) (store : Store) (registry : Registry) :
    Except Error Agent := do
  let strategy ← c.authentication.strategy
  return {
    files, store, registry
    session := { strategy, timeout := seconds c.lifecycle.operationTimeout }
    source := { descriptors := c.backends.descriptors, options := c.backends.options } }

/-- The server that the settings name, behind a network. -/
def server (c : Settings) (files : Files) (net : Vault.Network) : Except Error Store :=
  (Vault.Client.ofConnection files c.connection).map (Store.remote · net)

end Settings

end SecretConfig
