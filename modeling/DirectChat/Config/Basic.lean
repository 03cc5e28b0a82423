import DirectChat.Chat.Settings
import DirectChat.Config.CommandLine
import DirectChat.Json.Value
/-!
# The configuration

For each key the first source that sets it decides: the command line, the environment, the file, and
then the built-in value. Only the value that decides has to be one that the key takes.
-/

namespace DirectChat

/-- A configuration. -/
structure Config where
  port : Nat
  bindAddress : String
  /-- Where the configuration file is looked for. -/
  config : String
  jsonLogs : Bool
  /-- Whether only a template of a configuration file is wanted. -/
  generateConfig : Bool
  dataDir : String
  uploadDir : String
  baseUrl : Option String
  historyLimit : Nat
  notifyTimeoutSecs : Nat
deriving DecidableEq, Repr, Inhabited

/-- What is wrong with a configuration. -/
inductive ConfigError
  /-- The value of a key is of another kind than the key takes. -/
  | wrongKind (k : ConfigKey) (found : ConfigValue) (wanted : String)
  /-- The number at a key is out of range. -/
  | outOfRange (k : ConfigKey) (found : ConfigValue) (wanted : String)
  /-- The file is not well formed. -/
  | malformedFile
deriving DecidableEq, Repr, Inhabited

/-- The key that an error is about. -/
def ConfigError.key? : ConfigError → Option ConfigKey
  | .wrongKind k _ _ | .outOfRange k _ _ => some k
  | .malformedFile => none

/-- What an error says. -/
def ConfigError.message : ConfigError → String
  | .wrongKind _ found wanted => "invalid type: found " ++ found.describe ++ ", expected " ++ wanted
  | .outOfRange _ found wanted => "invalid value " ++ found.describe ++ ", expected " ++ wanted
  | .malformedFile => "Message"

namespace Config

/-- The built-in values. -/
def default : Config :=
  ⟨3001, "0.0.0.0", "./duet.toml", false, false, "./data", "./uploads", none, 50, 5⟩

/-! ## Values of the keys -/

/-- The text at a key. -/
def readText (k : ConfigKey) : ConfigValue → Except ConfigError String
  | .text s => .ok s
  | .letter c => .ok (String.singleton c)
  | v => .error (.wrongKind k v "a string")

/-- The truth value at a key. -/
def readBool (k : ConfigKey) : ConfigValue → Except ConfigError Bool
  | .bool b => .ok b
  | v => .error (.wrongKind k v "a boolean")

/-- The number at a key that takes numbers of so many bits. -/
def readNat (wanted : String) (bits : Nat) (k : ConfigKey) :
    ConfigValue → Except ConfigError Nat
  | .unsigned n =>
    if n < Nat.pow 2 bits then .ok n else .error (.outOfRange k (.unsigned n) wanted)
  | .signed i =>
    if 0 ≤ i ∧ i < (Nat.pow 2 bits : Int) then .ok i.toNat else .error (.outOfRange k (.signed i) wanted)
  | v => .error (.wrongKind k v wanted)

/-- What a key is set to, or its built-in value. -/
def setting {α : Type} (l : ConfigLayer) (k : ConfigKey)
    (read : ConfigKey → ConfigValue → Except ConfigError α) (builtIn : α) :
    Except ConfigError α :=
  match l k with
  | some v => read k v
  | none => .ok builtIn

/-- The configuration that a layer says. Of several wrong values the one whose key is first in the
alphabet is reported. -/
def ofLayer (l : ConfigLayer) : Except ConfigError Config := do
  let baseUrl ← setting l .baseUrl (fun k v => (readText k v).map some) default.baseUrl
  let bindAddress ← setting l .bindAddress readText default.bindAddress
  let config ← setting l .config readText default.config
  let dataDir ← setting l .dataDir readText default.dataDir
  let generateConfig ← setting l .generateConfig readBool default.generateConfig
  let historyLimit ← setting l .historyLimit (readNat "usize" 64) default.historyLimit
  let jsonLogs ← setting l .jsonLogs readBool default.jsonLogs
  let notifyTimeoutSecs ←
    setting l .notifyTimeoutSecs (readNat "u64" 64) default.notifyTimeoutSecs
  let port ← setting l .port (readNat "u16" 16) default.port
  let uploadDir ← setting l .uploadDir readText default.uploadDir
  return { port, bindAddress, config, jsonLogs, generateConfig, dataDir, uploadDir, baseUrl,
           historyLimit, notifyTimeoutSecs }

/-- The layer of a configuration file; without a file nothing is set. -/
def fileLayer : Option String → Except ConfigError ConfigLayer
  | none => .ok fun _ => none
  | some text =>
    match Toml.parse? text with
    | some table => .ok (ConfigLayer.ofNamed table)
    | none => .error .malformedFile

/-- The configuration of a command line, an environment and the text of a configuration file. -/
def load (c : CommandLine) (env : Environment) (file : Option String) :
    Except ConfigError Config := do
  let table ← fileLayer file
  ofLayer (ConfigLayer.stack [c.layer, env.layer, table])

/-! ## What is made of a configuration -/

/-- The settings of the chat. The public address is taken without slashes at its end, and an empty
one for none. -/
def chatSettings (c : Config) : ChatSettings where
  baseUrl := (c.baseUrl.map fun url =>
    String.ofList (url.toList.reverse.dropWhile (· = '/')).reverse).filter fun url => url ≠ ""
  historyLimit := c.historyLimit
  notifyTimeoutSecs := c.notifyTimeoutSecs
  uploadDir := c.uploadDir

/-- A configuration as a record. A public address that is not set is left out. -/
def toJson (c : Config) : Json :=
  .record <|
    [("port", .int c.port), ("bind_address", .text c.bindAddress), ("config", .text c.config),
      ("json_logs", .bool c.jsonLogs), ("generate_config", .bool c.generateConfig),
      ("data_dir", .text c.dataDir), ("upload_dir", .text c.uploadDir)]
    ++ (c.baseUrl.map fun url => ("base_url", .text url)).toList
    ++ [("history_limit", .int c.historyLimit),
      ("notify_timeout_secs", .int c.notifyTimeoutSecs)]

/-- A commented configuration file in which nothing is set. -/
def template : String := String.join <| [
  "# Duet Chat Server Configuration",
  "# Place this file at ./duet.toml or specify with --config <path>",
  "# All settings can be overridden via environment variables (DUET_PORT, etc.)",
  "# or CLI flags (--port, etc.)",
  "",
  "# Server port (default: 3001)",
  "# port = 3001",
  "",
  "# Bind address (default: 0.0.0.0, all interfaces)",
  "# bind_address = \"0.0.0.0\"",
  "",
  "# Enable structured JSON logging for Docker/production",
  "# json_logs = false",
  "",
  "# Data directory for the SQLite database and JWT signing key",
  "# data_dir = \"./data\"",
  "",
  "# Directory served under /uploads; voice notes are read from <upload_dir>/voices",
  "# and profile photos are written to <upload_dir> itself",
  "# upload_dir = \"./uploads\"",
  "",
  "# Public base URL for absolute voice and photo URLs. When unset, the Host header of the",
  "# WebSocket upgrade request is used instead.",
  "# base_url = \"https://chat.example.com\"",
  "",
  "# Messages sent in the history snapshot when a client joins a room",
  "# history_limit = 50",
  "",
  "# Upper bound in seconds for background presence / new-message notifications",
  "# notify_timeout_secs = 5"].map fun line => line ++ "\n"

end Config

end DirectChat
