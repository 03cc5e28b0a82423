import DirectChat.Config.Value
import DirectChat.Text.Integer
/-!
# Keys of the configuration

A key has a name in files and in the environment, a flag on the command line, and for some keys a
variable that the command line stands in for. The kind of a key says which values it takes.
-/

namespace DirectChat

/-- What can be configured, in the alphabetical order of the names. -/
inductive ConfigKey
  | baseUrl | bindAddress | config | dataDir | generateConfig
  | historyLimit | jsonLogs | notifyTimeoutSecs | port | uploadDir
deriving DecidableEq, Repr, Inhabited

namespace ConfigKey

/-- All keys. -/
def all : List ConfigKey :=
  [baseUrl, bindAddress, config, dataDir, generateConfig, historyLimit, jsonLogs, notifyTimeoutSecs,
    port, uploadDir]

/-- The name of a key in a file, and in the environment after the mark of this program. -/
def name : ConfigKey → String
  | baseUrl => "base_url"
  | bindAddress => "bind_address"
  | config => "config"
  | dataDir => "data_dir"
  | generateConfig => "generate_config"
  | historyLimit => "history_limit"
  | jsonLogs => "json_logs"
  | notifyTimeoutSecs => "notify_timeout_secs"
  | port => "port"
  | uploadDir => "upload_dir"

/-- The flag of a key, without the hyphens in front. -/
def flag (k : ConfigKey) : String :=
  String.ofList (k.name.toList.map fun c => if c = '_' then '-' else c)

/-- The key with a flag. -/
def ofFlag? (s : String) : Option ConfigKey := all.find? fun k => k.flag = s

/-- Whether the flag of a key stands alone, without a value. -/
def isSwitch : ConfigKey → Bool
  | generateConfig | jsonLogs => true
  | _ => false

/-- The variable that stands in for a flag that is not on the command line. -/
def standIn? : ConfigKey → Option String
  | baseUrl => some "DUET_BASE_URL"
  | bindAddress => some "DUET_BIND_ADDRESS"
  | dataDir => some "DUET_DATA_DIR"
  | historyLimit => some "DUET_HISTORY_LIMIT"
  | notifyTimeoutSecs => some "DUET_NOTIFY_TIMEOUT_SECS"
  | port => some "DUET_PORT"
  | uploadDir => some "DUET_UPLOAD_DIR"
  | config | generateConfig | jsonLogs => none

/-- The value that a text on the command line says. A port may have either sign as long as it is in
range, other numbers no minus. -/
def flagValue? (k : ConfigKey) (s : String) : Option ConfigValue :=
  match k with
  | port => ((int64? s.toList).filter fun i => 0 ≤ i && i < 65536).map fun i => .unsigned i.toNat
  | historyLimit | notifyTimeoutSecs =>
    ((natural? s.toList).filter fun n => n < Nat.pow 2 64).map .unsigned
  | _ => some (.text s)

end ConfigKey

/-- What a source sets. -/
abbrev ConfigLayer := ConfigKey → Option ConfigValue

/-- The layer of a list of named values; of values of one name the last counts, and other names are
passed over. -/
def ConfigLayer.ofNamed (named : List (String × ConfigValue)) : ConfigLayer :=
  fun k => (named.reverse.find? fun e => e.1 = k.name).map Prod.snd

/-- The layer of several, the first of which goes before the others. -/
def ConfigLayer.stack (layers : List ConfigLayer) : ConfigLayer := fun k => layers.findSome? (· k)

@[simp] theorem ConfigLayer.stack_nil (k : ConfigKey) : stack [] k = none := rfl

@[simp] theorem ConfigLayer.stack_cons (l : ConfigLayer) (ls : List ConfigLayer) (k : ConfigKey) :
    stack (l :: ls) k = (l k).or (stack ls k) := by
  simp only [stack, List.findSome?_cons]
  cases l k <;> rfl

end DirectChat
