import DirectChat.Config.Variables
/-!
# The command line

A flag begins with two hyphens. Its value is the next word, or follows an equals sign in the same
word; switches have no value. Each flag is given at most once. A word that begins with a hyphen is no
value of the flag before it, and a word that belongs to no flag is refused. A flag that is missing
may be given by its variable.
-/

namespace DirectChat

/-- Why a command line is not taken. -/
inductive CommandLineError
  /-- A word that is neither a flag nor the value of one. -/
  | unknownWord
  /-- A flag without its value. -/
  | missingValue
  /-- A value that its flag does not take. -/
  | badValue
  /-- A flag that is given twice. -/
  | repeated
  /-- A value for a flag that takes none. -/
  | unwantedValue
  /-- The usage is asked for. -/
  | help
  /-- The version is asked for. -/
  | version
deriving DecidableEq, Repr, Inhabited

/-- The flags that are set, each at most once. -/
structure CommandLine where
  flags : List (ConfigKey × ConfigValue)
deriving Repr, Inhabited

namespace CommandLine

/-- The value of a flag, if it is set. -/
def get? (c : CommandLine) (k : ConfigKey) : Option ConfigValue := c.flags.lookup k

/-- Sets a flag that is not set yet. -/
def set (c : CommandLine) (k : ConfigKey) (v : Option ConfigValue) :
    Except CommandLineError CommandLine :=
  if (c.get? k).isSome then .error .repeated
  else match v with
    | some v => .ok ⟨(k, v) :: c.flags⟩
    | none => .error .badValue

/-! ## Words -/

/-- A word of the command line. -/
inductive Word
  /-- A flag with a value, and the value if it is in the same word. -/
  | option (k : ConfigKey) (value : Option String)
  | switch (k : ConfigKey)
  | help
  | version
  /-- What ends the flags. -/
  | endOfFlags
  /-- A word that may be the value of a flag. -/
  | plain (s : String)
  | wrong (e : CommandLineError)

/-- The word that a flag of the given name is, with the value after its equals sign. -/
def Word.ofFlag (name : String) (value : Option String) : Word :=
  let alone (w : Word) := if value.isSome then .wrong .unwantedValue else w
  match ConfigKey.ofFlag? name with
  | some k => if k.isSwitch then alone (.switch k) else .option k value
  | none =>
    if name = "help" then alone .help
    else if name = "version" then alone .version
    else .wrong .unknownWord

/-- What a word is. Of letters after a single hyphen only the first counts. -/
def Word.ofText (s : String) : Word :=
  match s.toList with
  | ['-', '-'] => .endOfFlags
  | '-' :: '-' :: cs =>
    match cs.span (· ≠ '=') with
    | (name, '=' :: value) => .ofFlag (String.ofList name) (some (String.ofList value))
    | (name, _) => .ofFlag (String.ofList name) none
  | '-' :: 'h' :: _ => .help
  | '-' :: 'V' :: _ => .version
  | '-' :: _ :: _ => .wrong .unknownWord
  | _ => .plain s

/-- A flag whose word has been read, with its value once that has been read too. -/
abbrev Pending := Option (ConfigKey × Option String)

/-- Sets the flag that was read last. -/
def settle (c : CommandLine) : Pending → Except CommandLineError CommandLine
  | none => .ok c
  | some (_, none) => .error .missingValue
  | some (k, some s) => c.set k (k.flagValue? s)

/-- Reads the words one after another. A flag is set when the next one begins, so that a wrong word
is reported before a wrong value in front of it. -/
def read (c : CommandLine) (pending : Pending) : List String →
    Except CommandLineError CommandLine
  | [] => c.settle pending
  | w :: ws =>
    match Word.ofText w with
    | .option k (some s) => do (← (← c.settle pending).set k (k.flagValue? s)).read none ws
    | .option k none => do (← c.settle pending).read (some (k, none)) ws
    | .switch k => do (← (← c.settle pending).set k (some (.bool true))).read none ws
    | .help => do
      discard (c.settle pending)
      .error .help
    | .version => do
      discard (c.settle pending)
      .error .version
    | .endOfFlags => if ws = [] then c.settle pending else .error .unknownWord
    | .plain s =>
      match pending with
      | some (k, none) => c.read (some (k, some s)) ws
      | _ => .error .unknownWord
    | .wrong e => .error e

/-! ## Variables and defaults -/

/-- Sets a flag that is not set yet from its variable. -/
def setFromVariable (env : Environment) (c : CommandLine) (k : ConfigKey) :
    Except CommandLineError CommandLine :=
  match k.standIn?.bind fun name => List.lookup name env with
  | some s => if (c.get? k).isSome then .ok c else c.set k (k.flagValue? s)
  | none => .ok c

/-- The command line of the given words, with the flags that only variables set. -/
def parse (words : List String) (env : Environment) : Except CommandLineError CommandLine := do
  let c ← read ⟨[]⟩ none words
  ConfigKey.all.foldlM (setFromVariable env) c

/-- Where the configuration file is looked for. -/
def configPath (c : CommandLine) : String :=
  match c.get? .config with
  | some (.text s) => s
  | _ => "./duet.toml"

/-- The layer of a command line. It always says where the configuration file is. -/
def layer (c : CommandLine) : ConfigLayer :=
  fun k => if k = .config then some (.text c.configPath) else c.get? k

end CommandLine

end DirectChat
