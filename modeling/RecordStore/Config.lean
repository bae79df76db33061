/-
# RecordStore.Config — the configuration of a server.

A server is configured by the variables of its environment; each has a default.  The TCP port is
checked before the path of calls, and both before anything else is done.

The path of calls may be a pattern.  Of an environment only its first character is checked; the
pattern is read when a server starts.
-/
import RecordStore.Http.PathPattern
import RecordStore.Number.Decimal

namespace RecordStore

/-- The configuration of a server: where it listens, the path and namespace of calls, the files with
the schema and the first records, and the user of calls without a token. -/
structure Config where
  host : String
  port : Nat
  rpcPath : String
  serviceName : String
  schemaPath : Option String
  seedPath : Option String
  defaultUser : String
deriving DecidableEq

/-- Why an environment gives no configuration. -/
inductive ConfigFault where
  | invalidPort
  | invalidRpcPath (path : String)
deriving DecidableEq

/-- The wording of a fault. -/
def ConfigFault.message : ConfigFault → String
  | .invalidPort => "Invalid PORT value"
  | .invalidRpcPath path => "RPC_PATH must start with '/', got '" ++ path ++ "'"

namespace Config

/-- The configuration of an empty environment. -/
def default : Config where
  host := "0.0.0.0"
  port := 3000
  rpcPath := "/rpc"
  serviceName := "rpcsim.features"
  schemaPath := none
  seedPath := none
  defaultUser := "anonymous"

/-- The TCP port that a variable gives. -/
def port? : Option String → Option Nat
  | none => some default.port
  | some text => Number.Decimal.wordBelow? (2 ^ 16) text

/-- The configuration of an environment. -/
def ofEnvironment (environment : String → Option String) : Except ConfigFault Config :=
  match port? (environment "PORT") with
  | none => .error .invalidPort
  | some port =>
    let rpcPath := (environment "RPC_PATH").getD default.rpcPath
    if rpcPath.toList.head? = some '/' then
      .ok {
        host := (environment "HOST").getD default.host
        port := port
        rpcPath := rpcPath
        serviceName := (environment "RPC_NAMESPACE").getD default.serviceName
        schemaPath := environment "SCHEMA_PATH"
        seedPath := environment "SEED_PATH"
        defaultUser := (environment "SIM_USER").getD default.defaultUser }
    else .error (.invalidRpcPath rpcPath)

/-- The pattern of the paths of calls, if it is well formed. -/
def callPattern? (c : Config) : Option Http.PathPattern :=
  Http.PathPattern.ofString? c.rpcPath

end Config

end RecordStore
