/-
  `GlobalConfig::parse` (GlobalConfig.cpp): the settings of the server from a configuration file.

  `Fields` has every member of the class; `Fields.config` is the part of it that the other modules
  read. A setting that the file leaves out, or that has no sense, keeps its value. `rows` are the
  settings of a configuration as they are written in a file, and `parse_layout` is that the parser
  reads them back, whatever the order of the lines and the layout.
-/
import TelemetryAgent.GlobalConfig
import TelemetryAgent.Inih.INIReader

namespace TelemetryAgent

open Lib Ini

namespace GlobalConfig

def topicInternalSubId : String := "internal-subscription-id"
def topicPath : String := "path"

def systemModeNull : String := "null"
def systemModeFile : String := "file"
def systemModeProc : String := "proc"

def runningModeOnBox : String := "on-box"
def runningModeOffBox : String := "off-box"

/-- The members of the class, with the defaults of the constructor. -/
structure Fields where
  grpcServerUnixSocket : String := "/var/run/japi_na_grpcd"
  grpcServerIp : String := "0.0.0.0"
  grpcServerPort : Int := 50051
  grpcLogFilePath : String := "/var/log"
  grpcLogFileName : String := "agent_server.log"
  deviceMgdUnixSocket : String := "/var/run/japi_mgd"
  deviceMgdIp : String := "localhost"
  deviceMgdPort : Int := 50050
  deviceUserName : String := "regress"
  devicePassword : String := "MaRtInI"
  mqttBrokerIp : String := "127.0.0.1"
  mqttBrokerPort : Int := 1883
  udpServerModule : Bool := false
  udpServerIp : String := "0.0.0.0"
  udpServerPort : Int := 10000
  jsdInitRegistration : Bool := false
  jsdUnixSocket : String := "/var/run/japi_jsd"
  jsdNumOfRetries : Int := 5
  jsdJsonFilePath : String := "/tmp"
  jsdJsonFileName : String := "agent.json"
  subscribeTopicName : String := topicPath
  systemMode : String := systemModeProc
  systemFilePath : String := "/var/log"
  systemFileName : String := "sim_system.log"
  runningMode : String := runningModeOffBox
  validateOcpaths : Bool := false
  ocpathFilePath : String := "/tmp"
  ocpathFileName : String := "ocpaths.json"
  deriving DecidableEq, Repr

def isValidSubscriptionTopicName (subTopic : String) : Bool :=
  subTopic = topicInternalSubId || subTopic = topicPath

def isValidSystemMode (systemMode : String) : Bool :=
  systemMode = systemModeNull || systemMode = systemModeFile || systemMode = systemModeProc

def isValidRunningMode (runningMode : String) : Bool :=
  runningMode = runningModeOnBox || runningMode = runningModeOffBox

/-- The conversion of a `long` to an `int`. -/
def toInt (n : Int) : Int := n.bmod (2 ^ 32)

/-- A setting that is kept if the new value is not valid. -/
def checked (isValid : String → Bool) (old new : String) : String := if isValid new then new else old

/-- The settings, read one after the other. -/
def Fields.read (g : Fields) (reader : INIReader) : Fields :=
  let getInt inSection name (old : Int) := toInt (reader.getInteger inSection name old)
  let systemMode := checked isValidSystemMode g.systemMode
    (reader.get "other-knobs" "system_mode" g.systemMode)
  { grpcServerUnixSocket :=
      reader.get "telemetry-grpc" "grpc_server_unix_socket" g.grpcServerUnixSocket
    grpcServerIp := reader.get "telemetry-grpc" "grpc_server_ip" g.grpcServerIp
    grpcServerPort := getInt "telemetry-grpc" "grpc_server_port" g.grpcServerPort
    grpcLogFilePath := reader.get "telemetry-grpc" "grpc_log_file_path" g.grpcLogFilePath
    grpcLogFileName := reader.get "telemetry-grpc" "grpc_log_file_name" g.grpcLogFileName
    deviceMgdUnixSocket :=
      reader.get "junos-device" "device_mgd_unix_socket" g.deviceMgdUnixSocket
    deviceMgdIp := reader.get "junos-device" "device_mgd_ip" g.deviceMgdIp
    deviceMgdPort := getInt "junos-device" "device_mgd_port" g.deviceMgdPort
    deviceUserName := reader.get "junos-device" "device_user_name" g.deviceUserName
    devicePassword := reader.get "junos-device" "device_password" g.devicePassword
    mqttBrokerIp := reader.get "mqtt" "mqtt_broker_ip" g.mqttBrokerIp
    mqttBrokerPort := getInt "mqtt" "mqtt_broker_port" g.mqttBrokerPort
    udpServerModule := reader.getBoolean "udp" "udp_server_module" g.udpServerModule
    udpServerIp := reader.get "udp" "udp_server_ip" g.udpServerIp
    udpServerPort := getInt "udp" "udp_server_port" g.udpServerPort
    jsdInitRegistration := reader.getBoolean "jsd" "init_registration" g.jsdInitRegistration
    jsdUnixSocket := reader.get "jsd" "jsd_unix_socket" g.jsdUnixSocket
    jsdNumOfRetries := getInt "jsd" "number_of_retries" g.jsdNumOfRetries
    jsdJsonFilePath := reader.get "jsd" "json_file_path" g.jsdJsonFilePath
    jsdJsonFileName := reader.get "jsd" "json_file_name" g.jsdJsonFileName
    subscribeTopicName := checked isValidSubscriptionTopicName g.subscribeTopicName
      (reader.get "other-knobs" "subscribe_topic_name" g.subscribeTopicName)
    systemMode := systemMode
    -- the file is read only in the mode that writes to it
    systemFilePath :=
      if systemMode = systemModeFile then
        reader.get "other-knobs" "system_file_path" g.systemFilePath
      else g.systemFilePath
    systemFileName :=
      if systemMode = systemModeFile then
        reader.get "other-knobs" "system_file_name" g.systemFileName
      else g.systemFileName
    runningMode := checked isValidRunningMode g.runningMode
      (reader.get "other-knobs" "running_mode" g.runningMode)
    validateOcpaths := reader.getBoolean "other-knobs" "validate_ocpaths" g.validateOcpaths
    ocpathFilePath := reader.get "other-knobs" "ocpath_file_path" g.ocpathFilePath
    ocpathFileName := reader.get "other-knobs" "ocpath_file_name" g.ocpathFileName }

/-- `GlobalConfig::parse`, with the content of the file or `none` if it cannot be opened. -/
def parse (file : Option (List Char)) (g : Fields) : Bool × Fields :=
  let reader := INIReader.new file
  if reader.parseError < 0 then (false, g) else (true, g.read reader)

/-- The settings that the other modules read. -/
def Fields.config (g : Fields) : GlobalConfig where
  deviceUserName := g.deviceUserName
  devicePassword := g.devicePassword
  udpServerModule := g.udpServerModule
  udpServerIp := g.udpServerIp
  udpServerPort := g.udpServerPort
  subscribeTopicName :=
    if g.subscribeTopicName = topicPath then .path
    else if g.subscribeTopicName = topicInternalSubId then .internalSubscriptionId
    else .other
  runningMode := if g.runningMode = runningModeOffBox then .offBox else .onBox
  validateOcpaths := g.validateOcpaths

/-! ## Reading back -/

/-- The settings of a configuration as a file gives them: section, name and value. -/
def Fields.rows (c : Fields) : List (String × String × String) :=
  [("telemetry-grpc", "grpc_server_unix_socket", c.grpcServerUnixSocket),
    ("telemetry-grpc", "grpc_server_ip", c.grpcServerIp),
    ("telemetry-grpc", "grpc_server_port", toString c.grpcServerPort),
    ("telemetry-grpc", "grpc_log_file_path", c.grpcLogFilePath),
    ("telemetry-grpc", "grpc_log_file_name", c.grpcLogFileName),
    ("junos-device", "device_mgd_unix_socket", c.deviceMgdUnixSocket),
    ("junos-device", "device_mgd_ip", c.deviceMgdIp),
    ("junos-device", "device_mgd_port", toString c.deviceMgdPort),
    ("junos-device", "device_user_name", c.deviceUserName),
    ("junos-device", "device_password", c.devicePassword),
    ("mqtt", "mqtt_broker_ip", c.mqttBrokerIp),
    ("mqtt", "mqtt_broker_port", toString c.mqttBrokerPort),
    ("udp", "udp_server_module", toString c.udpServerModule),
    ("udp", "udp_server_ip", c.udpServerIp),
    ("udp", "udp_server_port", toString c.udpServerPort),
    ("jsd", "init_registration", toString c.jsdInitRegistration),
    ("jsd", "jsd_unix_socket", c.jsdUnixSocket),
    ("jsd", "number_of_retries", toString c.jsdNumOfRetries),
    ("jsd", "json_file_path", c.jsdJsonFilePath),
    ("jsd", "json_file_name", c.jsdJsonFileName),
    ("other-knobs", "subscribe_topic_name", c.subscribeTopicName),
    ("other-knobs", "system_mode", c.systemMode),
    ("other-knobs", "system_file_path", c.systemFilePath),
    ("other-knobs", "system_file_name", c.systemFileName),
    ("other-knobs", "running_mode", c.runningMode),
    ("other-knobs", "validate_ocpaths", toString c.validateOcpaths),
    ("other-knobs", "ocpath_file_path", c.ocpathFilePath),
    ("other-knobs", "ocpath_file_name", c.ocpathFileName)]

def Fields.numbers (c : Fields) : List Int :=
  [c.grpcServerPort, c.deviceMgdPort, c.mqttBrokerPort, c.udpServerPort, c.jsdNumOfRetries]

/-- The modes are among those that the server knows, and the numbers are `int`. -/
structure Fields.Valid (c : Fields) : Prop where
  subscribeTopicName : isValidSubscriptionTopicName c.subscribeTopicName = true
  systemMode : isValidSystemMode c.systemMode = true
  runningMode : isValidRunningMode c.runningMode = true
  numbers : ∀ n ∈ c.numbers, -2 ^ 31 ≤ n ∧ n < 2 ^ 31

/-- The text gives each setting once. -/
def Gives (l : List Setting) (c : Fields) : Prop :=
  ∀ row ∈ c.rows, INIReader.valuesOf l (INIReader.makeKey row.1.toList row.2.1.toList) = [row.2.2]

theorem toInt_eq {n : Int} (h : -2 ^ 31 ≤ n ∧ n < 2 ^ 31) : toInt n = n :=
  Int.bmod_eq_of_le h.1 h.2

theorem joined_singleton (value : String) : INIReader.joined [value] = value := by
  by_cases h : value = ""
  · subst h
    rfl
  · rw [INIReader.joined, List.dropWhile_cons_of_neg (by simpa using h),
      String.intercalate_singleton]

theorem getInteger_of_get {reader : INIReader} {inSection name : String} {n : Int}
    (h : ∀ d, reader.get inSection name d = toString n) (hn : -2 ^ 31 ≤ n ∧ n < 2 ^ 31) (d : Int) :
    toInt (reader.getInteger inSection name d) = n := by
  rw [INIReader.getInteger, h, strtol_toString (by omega) (by omega)]
  exact toInt_eq hn

theorem getBoolean_of_get {reader : INIReader} {inSection name : String} {b : Bool}
    (h : ∀ d, reader.get inSection name d = toString b) (d : Bool) :
    reader.getBoolean inSection name d = b := by
  rw [INIReader.getBoolean, h]
  revert d
  cases b with
  | false => decide
  | true => decide

theorem checked_of_valid {isValid : String → Bool} {new : String} (h : isValid new = true)
    (old : String) : checked isValid old new = new := if_pos h

theorem read_of_rows {reader : INIReader} {c : Fields} (hc : c.Valid)
    (h : ∀ row ∈ c.rows, ∀ d, reader.get row.1 row.2.1 d = row.2.2) (g : Fields) :
    g.read reader =
      if c.systemMode = systemModeFile then c
      else { c with systemFilePath := g.systemFilePath, systemFileName := g.systemFileName } := by
  have hnumbers := hc.numbers
  simp only [Fields.rows, Fields.numbers, List.forall_mem_cons, List.not_mem_nil, false_imp_iff,
    implies_true, and_true] at h hnumbers
  obtain ⟨h1, h2, h3, h4, h5, h6, h7, h8, h9, h10, h11, h12, h13, h14, h15, h16, h17, h18, h19,
    h20, h21, h22, h23, h24, h25, h26, h27, h28⟩ := h
  obtain ⟨hn1, hn2, hn3, hn4, hn5⟩ := hnumbers
  unfold Fields.read
  simp only [getInteger_of_get h3 hn1, getInteger_of_get h8 hn2, getInteger_of_get h12 hn3,
    getInteger_of_get h15 hn4, getInteger_of_get h18 hn5, getBoolean_of_get h13,
    getBoolean_of_get h16, getBoolean_of_get h26, h1, h2, h4, h5, h6, h7, h9, h10, h11, h14, h17,
    h19, h20, h21, h22, h23, h24, h25, h27, h28, checked_of_valid hc.subscribeTopicName,
    checked_of_valid hc.systemMode, checked_of_valid hc.runningMode]
  split_ifs
  · rfl
  · rfl

/-- A file that gives each setting once is read back, whatever is around the settings. The file for
    the output is read only in the mode that has one. -/
theorem parse_layout {es : List Entry} (hsound : ∀ e ∈ es, e.Sound ∧ e.Fits)
    (hplaced : Placed false es) {c : Fields} (hc : c.Valid) (hgives : Gives (settings [] [] es) c)
    (g : Fields) :
    parse (some (layout es)) g =
      (true, if c.systemMode = systemModeFile then c
        else { c with systemFilePath := g.systemFilePath, systemFileName := g.systemFileName }) := by
  have hrows : ∀ row ∈ c.rows, ∀ d,
      (INIReader.new (some (layout es))).get row.1 row.2.1 d = row.2.2 := by
    intro row hrow d
    rw [INIReader.new_layout hsound hplaced, INIReader.get_collect, INIReader.lookup,
      hgives row hrow]
    exact joined_singleton _
  have herror : ¬ (INIReader.new (some (layout es))).parseError < 0 := by
    rw [INIReader.new_layout hsound hplaced, INIReader.parseError]
    exact Int.not_lt.mpr (Int.natCast_nonneg _)
  rw [parse, if_neg herror, read_of_rows hc hrows]

/-- A file with the settings of a configuration, each below its section. -/
def Fields.file (c : Fields) : List Entry :=
  c.rows.flatMap fun row =>
    [.heading row.1.toList [], .pair row.2.1.toList [' '] '=' [' '] row.2.2.toList [] none]

theorem settings_file (c : Fields) :
    settings [] [] c.file = c.rows.map fun row => ⟨row.1.toList, row.2.1.toList, row.2.2.toList⟩ := by
  have hrows : ∀ (rows : List (String × String × String)) (inSection prevName : List Char),
      settings inSection prevName (rows.flatMap fun row =>
        [.heading row.1.toList [], .pair row.2.1.toList [' '] '=' [' '] row.2.2.toList [] none]) =
      rows.map fun row => ⟨row.1.toList, row.2.1.toList, row.2.2.toList⟩ := by
    intro rows
    induction rows with
    | nil => exact fun _ _ => rfl
    | cons row rows ih =>
      intro inSection prevName
      exact congrArg (_ :: ·) (ih _ _)
  exact hrows c.rows [] []

theorem gives_file (c : Fields) : Gives (settings [] [] c.file) c := by
  intro row hrow
  rw [settings_file]
  have hkeys : (c.rows.map fun row => INIReader.makeKey row.1.toList row.2.1.toList) =
      ({} : Fields).rows.map fun row => INIReader.makeKey row.1.toList row.2.1.toList := rfl
  have hnodup : (c.rows.map fun row => INIReader.makeKey row.1.toList row.2.1.toList).Nodup := by
    rw [hkeys]
    decide +kernel
  have h := INIReader.valuesOf_of_nodup (x := ⟨row.1.toList, row.2.1.toList, row.2.2.toList⟩)
    (l := c.rows.map fun row => ⟨row.1.toList, row.2.1.toList, row.2.2.toList⟩)
    (by rwa [List.map_map]) (List.mem_map_of_mem hrow)
  rwa [String.ofList_toList] at h

theorem parse_layout_file :
    parse (some (layout ({ systemMode := "file", grpcServerPort := -7 } : Fields).file)) {} =
      (true, { systemMode := "file", grpcServerPort := -7 }) :=
  parse_layout (by decide +kernel) (by decide)
    ⟨by decide, by decide, by decide, by decide⟩ (gives_file _) {}

/-! ## Reading again -/

theorem get_get (reader : INIReader) (inSection name d : String) :
    reader.get inSection name (reader.get inSection name d) = reader.get inSection name d := by
  unfold INIReader.get
  cases reader.values[INIReader.makeKey inSection.toList name.toList]? with
  | none => rfl
  | some value => rfl

theorem toInt_toInt (n : Int) : toInt (toInt n) = toInt n := Int.bmod_bmod

theorem getInteger_getInteger (reader : INIReader) (inSection name : String) (d : Int) :
    toInt (reader.getInteger inSection name (toInt (reader.getInteger inSection name d))) =
      toInt (reader.getInteger inSection name d) := by
  unfold INIReader.getInteger
  cases strtol (reader.get inSection name "").toList with
  | none => exact toInt_toInt d
  | some n => rfl

theorem getBoolean_getBoolean (reader : INIReader) (inSection name : String) (d : Bool) :
    reader.getBoolean inSection name (reader.getBoolean inSection name d) =
      reader.getBoolean inSection name d := by
  unfold INIReader.getBoolean
  dsimp only
  split_ifs
  · rfl
  · rfl
  · rfl

/-- A value that is not valid has left the old one, and does so again. -/
theorem checked_get (isValid : String → Bool) (reader : INIReader) (inSection name old : String) :
    checked isValid (checked isValid old (reader.get inSection name old))
        (reader.get inSection name (checked isValid old (reader.get inSection name old))) =
      checked isValid old (reader.get inSection name old) := by
  unfold INIReader.get checked
  cases reader.values[INIReader.makeKey inSection.toList name.toList]? with
  | none => simp only [Option.getD_none, ite_self]
  | some value =>
    simp only [Option.getD_some]
    split_ifs
    · rfl
    · rfl

theorem isValid_checked {isValid : String → Bool} {old : String} (h : isValid old = true)
    (new : String) : isValid (checked isValid old new) = true := by
  unfold checked
  split_ifs with hnew
  · exact hnew
  · exact h

theorem toInt_range (n : Int) : -2 ^ 31 ≤ toInt n ∧ toInt n < 2 ^ 31 :=
  ⟨Int.le_bmod (by decide), Int.bmod_lt (by decide)⟩

theorem read_read (g : Fields) (reader : INIReader) :
    (g.read reader).read reader = g.read reader := by
  unfold Fields.read
  simp only [get_get, getInteger_getInteger, getBoolean_getBoolean, checked_get]
  split_ifs
  · rw [get_get, get_get]
  · rfl

theorem Fields.Valid.read {g : Fields} (h : g.Valid) (reader : INIReader) :
    (g.read reader).Valid where
  subscribeTopicName := isValid_checked h.subscribeTopicName _
  systemMode := isValid_checked h.systemMode _
  runningMode := isValid_checked h.runningMode _
  numbers := by
    simp only [Fields.numbers, Fields.read, List.forall_mem_cons, toInt_range,
      List.not_mem_nil, false_imp_iff, implies_true, and_self]

theorem Fields.Valid.parse {g : Fields} (h : g.Valid) (file : Option (List Char)) :
    (parse file g).2.Valid := by
  unfold GlobalConfig.parse
  dsimp only
  split_ifs
  · exact h
  · exact h.read _

theorem parse_parse (file : Option (List Char)) (g : Fields) :
    parse file (parse file g).2 = parse file g := by
  unfold parse
  dsimp only
  split_ifs
  · rfl
  · rw [read_read]

/-- Only a file that cannot be opened is an error. -/
theorem parse_fst (file : Option (List Char)) (g : Fields) : (parse file g).1 = file.isSome := by
  cases file with
  | none => rfl
  | some stream =>
    have herror : ¬ (INIReader.new (some stream)).parseError < 0 :=
      Int.not_lt.mpr (Int.natCast_nonneg _)
    rw [parse, if_neg herror]
    rfl

theorem config_of_valid {g : Fields} (h : isValidSubscriptionTopicName g.subscribeTopicName = true) :
    g.config.subscribeTopicName ≠ .other := by
  unfold isValidSubscriptionTopicName at h
  unfold Fields.config
  dsimp only
  split_ifs with hpath hid
  · decide
  · decide
  · exact absurd h (by simp [hpath, hid])

/-- The configuration after one file after the other has been read. -/
def parses (files : List (Option (List Char))) (g : Fields) : Fields :=
  files.foldl (fun g file => (parse file g).2) g

theorem valid_parses (files : List (Option (List Char))) {g : Fields} (h : g.Valid) :
    (parses files g).Valid := by
  induction files generalizing g with
  | nil => exact h
  | cons file files ih => exact ih (h.parse file)

/-- Whatever files have been read, the modes are known to the server, and a file that is read again
    changes nothing. -/
theorem parses_stable (files : List (Option (List Char))) :
    (parses files {}).Valid ∧ (parses files {}).config.subscribeTopicName ≠ .other ∧
      ∀ file, (parse file (parses files {})).1 = file.isSome ∧
        parse file (parse file (parses files {})).2 = parse file (parses files {}) := by
  have hvalid : (parses files {}).Valid :=
    valid_parses files ⟨by decide, by decide, by decide, by decide⟩
  exact ⟨hvalid, config_of_valid hvalid.subscribeTopicName,
    fun file => ⟨parse_fst file _, parse_parse file _⟩⟩

end GlobalConfig

end TelemetryAgent
