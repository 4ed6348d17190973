/-
  `GlobalConfig` (GlobalConfig.hpp): the settings that the modelled functions read.
-/
import Mathlib.Init

namespace TelemetryAgent

/-- `subscribe_topic_name`: `TOPIC_PATH`, `TOPIC_INTERNAL_SUB_ID` or another string. -/
inductive SubscribeTopicName where
  | path
  | internalSubscriptionId
  | other
  deriving DecidableEq, Repr

/-- `running_mode`, checked by `is_valid_running_mode` when it is read. -/
inductive RunningMode where
  | onBox
  | offBox
  deriving DecidableEq, Repr

structure GlobalConfig where
  deviceUserName : String := "regress"
  devicePassword : String := "MaRtInI"
  udpServerModule : Bool := false
  udpServerIp : String := "0.0.0.0"
  udpServerPort : Int := 10000
  subscribeTopicName : SubscribeTopicName := .path
  runningMode : RunningMode := .offBox
  validateOcpaths : Bool := false
  deriving DecidableEq, Repr

end TelemetryAgent
