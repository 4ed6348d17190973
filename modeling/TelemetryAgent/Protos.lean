/-
  The messages of agent.proto that the server reads and writes, with the fields it uses.
  A field of a message that no modelled function reads is left out.
-/
import Mathlib.Init

namespace TelemetryAgent

/-- `telemetry::Path`: what to stream, with its streaming profile. -/
structure Path where
  path : String := ""
  filter : String := ""
  suppressUnchanged : Bool := false
  maxSilentInterval : UInt32 := 0
  sampleFrequency : UInt32 := 0
  deriving DecidableEq, Repr, Inhabited

/-- `telemetry::SubscriptionAdditionalConfig` -/
structure SubscriptionAdditionalConfig where
  limitRecords : Int32 := 0
  limitTimeSeconds : Int32 := 0
  deriving DecidableEq, Repr, Inhabited

/-- `telemetry::SubscriptionRequest` -/
structure SubscriptionRequest where
  pathList : List Path := []
  additionalConfig : SubscriptionAdditionalConfig := {}
  deriving DecidableEq, Repr, Inhabited

/-- `telemetry::SubscriptionReply`, with the id of its `SubscriptionResponse`. -/
structure SubscriptionReply where
  subscriptionId : Nat := 0
  pathList : List Path := []
  deriving DecidableEq, Repr, Inhabited

/-- The `value` of a `KeyValue`. A double is the 64 bits that store it. -/
inductive KeyValue.Value where
  | notSet
  | double (bits : UInt64)
  | int (n : Int64)
  | uint (n : UInt64)
  | bool (b : Bool)
  | str (s : String)
  deriving DecidableEq, Repr, Inhabited

/-- `telemetry::KeyValue` -/
structure KeyValue where
  key : String
  value : KeyValue.Value
  deriving DecidableEq, Repr, Inhabited

namespace KeyValue

/-- `int_value()`: the default where the value is not an `int64`. -/
def intValue (kv : KeyValue) : Int64 :=
  match kv.value with
  | .int n => n
  | _ => 0

/-- `str_value()` -/
def strValue (kv : KeyValue) : String :=
  match kv.value with
  | .str s => s
  | _ => ""

end KeyValue

/-- `telemetry::OpenConfigData` -/
structure OpenConfigData where
  componentId : UInt32 := 0
  kv : List KeyValue := []
  deriving DecidableEq, Repr, Inhabited

/-- `telemetry::VerbosityLevel` -/
inductive VerbosityLevel where
  | detail
  | terse
  | brief
  deriving DecidableEq, Repr

end TelemetryAgent
