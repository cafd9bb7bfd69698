import VlanBinding.Proofs.Bytes
import VlanBinding.Proofs.Encoding
import VlanBinding.Settings

/-!
Settings written to a file and loaded again. Main statement: whatever the settings are, their text
gives them back, and so does the file that holds it; what was loaded from any file survives being
written.
-/

namespace VlanBinding.Settings

open VlanBinding.Json

theorem carries_path (n : Nat) (path : String) : Carries n .path (.str path) path :=
  ⟨rfl, trivial, Nat.zero_le n⟩

theorem carries_port (n : Nat) (port : UInt16) : Carries n .uint16 (portToJson port) port :=
  Fabric.carries_uint16 n port

section Fields

variable {R : Type} {n : Nat} {key : String} {fields : List (Schema.Field Source DecodeError R)}
variable {members : List (String × Json)} {x y : R} {put : Option String → R → R}
variable {text? : Option String}

/-- A text that is null when there is none. -/
theorem carriesFields_text (h : CarriesFields n fields members (put text? x) y) :
    CarriesFields n (Json.optional key .string put :: fields)
      (nullableMember key .str text? :: members) x y :=
  .nullable (fun text _ => ⟨by simp, carries_str n text⟩) h

/-- A path that is null when there is none. -/
theorem carriesFields_path (h : CarriesFields n fields members (put text? x) y) :
    CarriesFields n (Json.optional key .path put :: fields)
      (nullableMember key .str text? :: members) x y :=
  .nullable (fun path _ => ⟨by simp, carries_path n path⟩) h

end Fields

theorem ApiServer.carries (s : ApiServer) :
    Carries 1 (.record ApiServer.schema) s.toJson s := by
  apply CarriesFields.record (by decide)
  apply CarriesFields.defaulted (carries_str 0 s.host)
  apply CarriesFields.defaulted (carries_port 0 s.port)
  apply CarriesFields.defaulted (carries_bool 0 s.useSsl)
  apply CarriesFields.defaulted (carries_bool 0 s.insecure)
  apply carriesFields_path
  apply carriesFields_text
  exact .nil 0 s

theorem Neutron.carries (s : Settings.Neutron) :
    Carries 1 (.record Settings.Neutron.schema) s.toJson s := by
  apply CarriesFields.record (by decide)
  apply CarriesFields.defaulted (carries_str 0 s.url)
  apply carriesFields_text
  exact .nil 0 s

theorem Server.carries (s : Server) : Carries 1 (.record Server.schema) s.toJson s := by
  apply CarriesFields.record (by decide)
  apply CarriesFields.defaulted (carries_str 0 s.listenAddress)
  apply CarriesFields.defaulted (carries_port 0 s.port)
  exact .nil 0 s

theorem Keystone.carries (s : Keystone) : Carries 1 Keystone.decoder s.toJson s := by
  apply CarriesFields.record (by decide)
  apply CarriesFields.required (carries_str 0 s.authUrl)
  apply CarriesFields.required (carries_str 0 s.username)
  apply CarriesFields.required (carries_str 0 s.password)
  apply CarriesFields.required (carries_str 0 s.projectName)
  apply CarriesFields.defaulted (carries_str 0 s.userDomainName)
  apply CarriesFields.defaulted (carries_str 0 s.projectDomainName)
  exact .nil 0 s

/-- The text of settings tells all of them; that there is no Keystone is told by its absence. -/
theorem carries (s : Settings) : Carries 2 decoder s.toJson s := by
  apply CarriesFields.record (by decide)
  simp only [List.cons_append, List.nil_append]
  apply CarriesFields.defaulted (carries_bool 1 s.enabled)
  apply carriesFields_path
  apply CarriesFields.defaulted s.apiServer.carries
  apply CarriesFields.defaulted s.neutron.carries
  apply CarriesFields.defaulted s.server.carries
  apply CarriesFields.optional
  · intro k _
    exact ⟨by simp [Keystone.toJson], k.carries⟩
  · rfl
  · apply CarriesFields.defaulted (carries_str 1 s.logFolder)
    exact .nil 1 s

theorem parse_rendered (s : Settings) : parse s.render = .ok s :=
  (s.carries.mono (by decide)).decodeText_write Style.spacing_pretty

/-- A file with a text gives the settings that the text gives. -/
theorem load_ofText (path text : String) :
    load (.ofText path text) = (parse text).mapError .malformed := by
  have htext : String.fromUTF8? text.toUTF8 = some text := Text.fromUTF8?_eq_some_iff.mpr rfl
  simp only [load, File.ofText, htext]

theorem load_render (s : Settings) (path : String) : load (.ofText path s.render) = .ok s := by
  rw [load_ofText, parse_rendered]
  rfl

/-- Settings survive as text, and as a file under any path: what has no value is without one again,
and what has one has the same. Written once more, settings that were loaded from a file make the
very text that they made before. -/
theorem settings_read_back :
    (∀ (s : Settings) (path : String),
      parse s.render = .ok s ∧ load (.ofText path s.render) = .ok s) ∧
    ∀ (file : File) (s : Settings), load file = .ok s → ∀ path : String,
      let again := load (.ofText path s.render)
      again = load file ∧ again.map render = .ok s.render := by
  refine ⟨fun s path => ⟨parse_rendered s, load_render s path⟩, ?_⟩
  intro file s hload path again
  have hagain : again = .ok s := load_render s path
  refine ⟨?_, ?_⟩
  · rw [hagain, hload]
  · rw [hagain]
    rfl

/-- A file that gives the API server as a list, has an unknown key and leaves out most of the
rest. -/
def oddText : String :=
  "\x7b\"keystone\": \x7b\"auth_url\": \"http://k/v3\", \"username\": \"\\u00fc\\\"\\\\\",\n" ++
    "  \"password\": \"\", \"project_name\": \"\\ud83d\\ude00\"\x7d, \"topology\": null,\n" ++
    "  \"api_server\": [\"fabric\", 65535, true, false, \"/ca\\u0000.pem\"],\n" ++
    "  \"other\": [1.5, null]\x7d\n"

def oddSettings : Settings where
  apiServer := { host := "fabric", port := 65535, useSsl := true, caFile := some "/ca\x00.pem" }
  keystone := some
    { authUrl := "http://k/v3", username := "ü\"\\", password := "", projectName := "😀" }

theorem odd_settings_read_back :
    let file := File.ofText "config.json" oddText
    load file = .ok oddSettings ∧
      let again := load (.ofText "copy.json" oddSettings.render)
      again = load file ∧ again.map render = .ok oddSettings.render := by
  have hparse : (parse oddText).toOption = some oddSettings := by decide +kernel
  have hload : load (.ofText "config.json" oddText) = .ok oddSettings := by
    rw [load_ofText]
    cases htext : parse oddText with
    | error e =>
        rw [htext] at hparse
        cases hparse
    | ok s =>
        rw [htext] at hparse
        exact congrArg Except.ok (Option.some.inj hparse)
  exact ⟨hload, settings_read_back.2 _ _ hload "copy.json"⟩

end VlanBinding.Settings
