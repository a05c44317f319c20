set_option autoImplicit false

/-! # Kinds of secret backends -/

namespace SecretConfig

/-- What a backend serves. -/
inductive BackendKind where
  | keyValue
  | database
  | rabbitMq
  | consul
  | aws
deriving DecidableEq, Repr, Inhabited

namespace BackendKind

/-- The name of a kind. -/
def name : BackendKind → String
  | keyValue => "key_value"
  | database => "database"
  | rabbitMq => "rabbit_mq"
  | consul => "consul"
  | aws => "aws"

/-- All kinds. -/
def all : List BackendKind := [keyValue, database, rabbitMq, consul, aws]

/-- The kind of a name. -/
def ofName? (s : String) : Option BackendKind := all.find? (fun k => k.name = s)

/-- The kind of a name or of one of the short names `kv` and `rabbitmq`. -/
def parse? (s : String) : Option BackendKind :=
  if s = "kv" then some keyValue
  else if s = "rabbitmq" then some rabbitMq
  else ofName? s

/-- What is said about a text that names no kind. -/
def unknownMessage (s : String) : String := "Unknown backend kind: " ++ s

theorem ofName?_name (k : BackendKind) : ofName? k.name = some k := by cases k <;> decide

end BackendKind

end SecretConfig
