import Gatehouse.Proofs.Json.Reading
import Gatehouse.Proofs.Json.Record
import Gatehouse.Proofs.Net.Network
import Gatehouse.Proofs.Settings.Bounds
/-!
# Reading back settings

Settings that fit are read back from the text of their file: each setting from its own spelling,
whatever the others are.  Fitting is no more than what the bounds ask for and one bound of the format,
so that settings which were read fit if they were accepted.
-/

namespace Gatehouse

open Draft (text_string boolean_bool spelled_string choice_string natural_int integer_int
  optional_text list_array)
open Draft.Fields (Reads Gives)

theorem Firewall.Preference.ofName?_name (preference : Preference) :
    ofName? preference.name = some preference := by
  cases preference <;> decide

namespace Configuration

/-- Settings within their bounds, with an interval that a number of 64 bits can hold. -/
structure Fits (settings : Configuration) : Prop where
  accepted : settings.violation? = none
  interval : settings.diagnosticInterval ≤ Word.greatest64

theorem fits_standard : standard.Fits := ⟨by decide, by decide⟩

theorem le_greatest64_of_le_longestLifetime {seconds : Nat} (within : seconds ≤ longestLifetime) :
    seconds ≤ Word.greatest64 :=
  Nat.le_trans within (by decide)

/-! ## Settings that are written -/

/-- The members of the document of settings as they are read. -/
def members (settings : Configuration) : List (String × Draft) := [
  ("listen_addr", .string (some settings.listenAddress.text)),
  ("static_dir", .string (some settings.staticDirectory)),
  ("grant_ttl_secs", .number (some (.int settings.grantLifetime))),
  ("session_ttl_secs", .number (some (.int settings.sessionLifetime))),
  ("reset_ttl_secs", .number (some (.int settings.resetLifetime))),
  ("grant_allow_list", .bool settings.grantsAddress),
  ("cookie_secure", .bool settings.secureCookie),
  ("trusted_proxies",
    .array (settings.trustedProxies.map fun network => .string (some network.text))),
  ("firewall_backend", .string (some settings.backend.name)),
  ("nat_external_ip", .string (some (Address.v4 settings.natAddress).text)),
  ("session_secret", Draft.ofJson (.ofText? settings.sessionSecret)),
  ("log_level", .string (some settings.logLevel)),
  ("log_to_file", .bool settings.logToFile),
  ("directory_path", Draft.ofJson (.ofText? settings.directoryFile)),
  ("diagnostic_interval_secs", .number (some (.int settings.diagnosticInterval))),
  ("flush_on_shutdown", .bool settings.flushOnShutdown),
  ("initial_reset_hours", .number (some (.int settings.initialResetHours))),
  ("audit_enabled", .bool settings.auditEnabled)]

theorem reread_document {settings : Configuration} (fits : settings.Fits) :
    settings.document.reread = .object (Draft.Fields.named settings.members) := by
  obtain ⟨grant, session, reset, _, least, greatest⟩ := violation?_eq_none.1 fits.accepted
  have grant := Json.reread_nat (le_greatest64_of_le_longestLifetime grant)
  have session := Json.reread_nat (le_greatest64_of_le_longestLifetime session)
  have reset := Json.reread_nat (le_greatest64_of_le_longestLifetime reset)
  have interval := Json.reread_nat fits.interval
  have hours : (Json.int settings.initialResetHours).reread =
      .number (some (.int settings.initialResetHours)) := by
    refine Json.reread_int ?_ ?_
    · exact Int.le_trans (by decide) least
    · exact Int.le_trans greatest (by decide)
  have networks : (settings.trustedProxies.map fun network => Json.string network.text).map
      Json.reread = settings.trustedProxies.map fun network => .string (some network.text) := by
    rw [List.map_map]
    rfl
  simp only [document, Json.reread, Json.rereadMembers, Json.rereadItems_eq_map, grant, session,
    reset, interval, hours, networks, Json.reread_ofText?]
  rfl

theorem readAddress4_text (bits : BitVec 32) :
    readAddress4 (.string (some (Address.v4 bits).text)) = .ok bits := by
  refine spelled_string ?_
  rw [Address.text, String.toList_ofList]
  exact Address.parse4?_dotted bits

/-- Every setting is read from its own member. -/
theorem reads_members {settings : Configuration} (fits : settings.Fits) :
    fields.Reads settings.members settings := by
  obtain ⟨grant, session, reset, _, least, greatest⟩ := violation?_eq_none.1 fits.accepted
  have hours : Word.leastSigned ≤ settings.initialResetHours ∧
      settings.initialResetHours ≤ Word.greatestSigned :=
    ⟨Int.le_trans (by decide) least, Int.le_trans greatest (by decide)⟩
  have networks := list_array (fun network => spelled_string (Network.parse?_text network))
    settings.trustedProxies
  rw [List.map_id'] at networks
  have reads : fields.Reads _ settings :=
    Reads.map Configuration.mk (.single (spelled_string (Endpoint.parse?_text _)))
      |>.seq (.single (text_string _))
      |>.seq (.single (natural_int (le_greatest64_of_le_longestLifetime grant)))
      |>.seq (.single (natural_int (le_greatest64_of_le_longestLifetime session)))
      |>.seq (.single (natural_int (le_greatest64_of_le_longestLifetime reset)))
      |>.seq (.single (boolean_bool _)) |>.seq (.single (boolean_bool _))
      |>.seq (.single networks)
      |>.seq (.single (choice_string (Firewall.Preference.ofName?_name _)))
      |>.seq (.single (readAddress4_text _)) |>.seq (.single (optional_text _))
      |>.seq (.single (text_string _)) |>.seq (.single (boolean_bool _))
      |>.seq (.single (optional_text _)) |>.seq (.single (natural_int fits.interval))
      |>.seq (.single (boolean_bool _)) |>.seq (.single (integer_int hours))
      |>.seq (.single (boolean_bool _))
  simp only [List.cons_append, List.nil_append] at reads
  exact reads

/-- Settings that fit are read back. -/
theorem parse?_text {settings : Configuration} (fits : settings.Fits) :
    parse? settings.text = some settings := by
  have isRead := (reads_members fits).read_named (by simp [members])
  rw [parse?, text, Draft.readText_pretty, reread_document fits, isRead]
  rfl

/-! ## Settings that are read -/

/-- The interval that is read has 64 bits. -/
theorem interval_of_parse? {text : String} {settings : Configuration}
    (isRead : parse? text = some settings) : settings.diagnosticInterval ≤ Word.greatest64 := by
  have gives : fields.Gives fun settings => settings.diagnosticInterval ≤ Word.greatest64 := by
    have interval : (Draft.Fields.withDefault "diagnostic_interval_secs" readCount
        standard.diagnosticInterval).Gives fun seconds => seconds ≤ Word.greatest64 := by
      refine .single _ (fun _ _ => Draft.le_of_natural) ?_
      rintro _ _ ⟨⟩
      decide
    refine .seq (.seq (.seq (.seq_of interval ?_)))
    iterate 13 refine .seq ?_
    exact .map fun _ _ _ _ _ _ _ _ _ _ _ _ _ _ _ within _ _ _ => within
  cases isRecord : Draft.readText fields.read text with
  | error reason =>
      rw [parse?, isRecord] at isRead
      cases isRead
  | ok other =>
      rw [parse?, isRecord] at isRead
      cases isRead
      obtain ⟨draft, isRecord⟩ := Draft.exists_read_of_readText isRecord
      exact gives.of_read isRecord

end Configuration

end Gatehouse
