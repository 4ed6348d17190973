/-
  A JSON library with the spelling and the reader of `Lib.JsonReader`, for documents without
  numbers. It meets what the configuration code relies on, and it reads the templates as they
  are described. Concrete runs use it.
-/
import TelemetryAgent.Lib.JsonReader
import TelemetryAgent.Junos.JunosTelemetryJson

namespace TelemetryAgent

open TelemetryAgent.Lib JunosTelemetryJson

def plainJsoncpp : Jsoncpp Empty where
  toSpelling := Json.plainSpelling
  parse := Json.read

theorem plainJsoncpp_parse : plainJsoncpp.parse = Json.read := rfl

theorem isEscapeTail_hexDigit : ∀ n < 16, Jsoncpp.isEscapeTail (Json.hexDigit n) = true := by
  decide

theorem plainJsoncpp_lawful : plainJsoncpp.Lawful where
  escape_plain c hc := by
    simp only [Jsoncpp.isPlain, Bool.and_eq_true, decide_eq_true_eq] at hc
    have h : ¬ c.toNat < 32 := by omega
    exact (if_neg hc.1.2).trans ((if_neg hc.2).trans (if_neg h))
  escape_other c _ := by
    change Json.escapeChar c = [c] ∨ ∃ s, Json.escapeChar c = '\\' :: s ∧ _
    unfold Json.escapeChar
    split_ifs with h1 h2 h3
    · exact .inr ⟨_, rfl, List.all_eq_true.mp (by decide)⟩
    · exact .inr ⟨_, rfl, List.all_eq_true.mp (by decide)⟩
    · refine .inr ⟨_, rfl, ?_⟩
      have hd1 := isEscapeTail_hexDigit (c.toNat / 16) (by omega)
      have hd2 := isEscapeTail_hexDigit (c.toNat % 16) (by omega)
      simpa [hd1, hd2] using (by decide : Jsoncpp.isEscapeTail 'u' = true ∧
        Jsoncpp.isEscapeTail '0' = true)
    · exact .inl rfl
  number n := n.elim
  parse_write := Json.read_write

/-! ## The templates -/

/-- The members of the sensor template as they stand in its text. -/
def sensorText : List (String × Json Empty) :=
  [deleteOperation, ("@name@", .str "__SENSOR_NAME__"),
    ("server-name", .str "__STREAMING_SERVER_NAME__"),
    ("export-name", .str "__EXPORT_PROFILE_NAME__"), ("resource", .str "__PATH_path__"),
    ("resource-filter", .str "__PATH_filter__"),
    ("reporting-rate", .str "__PATH_sample_frequency__"),
    ("subscription-id", .str "__INTERNAL_SUBSCRIPTION_ID__")]

theorem normalize_entry (list : String) (ms : List (String × Json Empty)) :
    (analytics [entry list ms]).normalize =
      analytics [entry list (Json.normalizeMembers ms [])] := by
  simp only [analytics, entry, Json.normalize, Json.normalizeMembers, Json.normalizeItems,
    insertMember]

set_option maxRecDepth 20000 in
theorem read_exportProfile : Json.read exportProfile.toList =
    some (analytics [entry "export-profile" exportProfileTemplate] : Json Empty) := by
  have h : Json.read exportProfile.toList =
      some (analytics [entry "export-profile" exportProfileTemplate] : Json Empty).normalize :=
    Json.read_ofList (by decide +kernel)
  rw [h, normalize_entry]
  simp only [exportProfileTemplate, deleteOperation, Json.normalizeMembers, Json.normalize,
    insertMember, String.reduceEq, String.reduceLT, if_false]

set_option maxRecDepth 20000 in
theorem read_streamingServer : Json.read streamingServer.toList =
    some (analytics [entry "streaming-server" streamingServerTemplate] : Json Empty) := by
  have h : Json.read streamingServer.toList =
      some (analytics [entry "streaming-server" streamingServerTemplate] : Json Empty).normalize :=
    Json.read_ofList (by decide +kernel)
  rw [h, normalize_entry]
  simp only [streamingServerTemplate, deleteOperation, Json.normalizeMembers, Json.normalize,
    insertMember, String.reduceEq, String.reduceLT, if_false]

set_option maxRecDepth 20000 in
theorem read_sensorConfig : Json.read sensorConfig.toList =
    some (analytics [entry "sensor" sensorTemplate] : Json Empty) := by
  have h : Json.read sensorConfig.toList =
      some (analytics [entry "sensor" sensorText] : Json Empty).normalize :=
    Json.read_ofList (by decide +kernel)
  rw [h, normalize_entry]
  simp only [sensorTemplate, sensorText, deleteOperation, Json.normalizeMembers, Json.normalize,
    insertMember, String.reduceEq, String.reduceLT, if_true, if_false]

set_option maxRecDepth 20000 in
theorem read_clearAllConfig : Json.read clearAllConfig.toList =
    some (analytics [deleteOperation] : Json Empty) := by
  have h : Json.read clearAllConfig.toList =
      some (analytics [deleteOperation] : Json Empty).normalize :=
    Json.read_ofList (by decide +kernel)
  rw [h]
  simp only [analytics, deleteOperation, Json.normalizeMembers, Json.normalize, insertMember]

theorem plainJsoncpp_readsTemplates : ReadsTemplates plainJsoncpp where
  exportProfile := plainJsoncpp_parse ▸ read_exportProfile
  streamingServer := plainJsoncpp_parse ▸ read_streamingServer
  sensorConfig := plainJsoncpp_parse ▸ read_sensorConfig
  clearAllConfig := plainJsoncpp_parse ▸ read_clearAllConfig

end TelemetryAgent
