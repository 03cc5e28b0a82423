import DirectChat.Proofs.Config.CommandLine
import DirectChat.Proofs.Config.Values
import DirectChat.Proofs.Config.Variables
/-!
# Layers of a configuration

Five sources say what a configuration is: the flags of the command line, the variables of the flags, the variables with
the names of the keys in letters of any case, the entries of the file, and the built-in values. For each key the first
that speaks of it decides (`Sources.deciding`), whatever the others say and whatever is said of other keys
(`deciding_about`). A configuration is refused only if some value that decides is not taken
(`layers_combine_key_by_key`).
-/

namespace DirectChat

theorem lookup_filter {α β : Type} [DecidableEq α] {p : α × β → Bool} {a : α} {l : List (α × β)}
    (h : ∀ e ∈ l, e.1 = a → p e = true) : (l.filter p).lookup a = l.lookup a := by
  induction l with
  | nil => rfl
  | cons e l ih =>
    rw [List.forall_mem_cons] at h
    rw [List.filter_cons, List.lookup_cons, ← ih h.2]
    by_cases ha : a = e.1
    · rw [if_pos (h.1 ha.symm), List.lookup_cons]
    · rw [beq_false_of_ne ha]
      split_ifs
      · rw [List.lookup_cons, beq_false_of_ne ha]
      · rfl

theorem filterMap_filter_isSome {α β : Type} (f : α → Option β) (l : List α) :
    (l.filter fun a => (f a).isSome).filterMap f = l.filterMap f := by
  rw [List.filterMap_filter]
  congr 1
  funext a
  cases f a <;> rfl

/-! ## Sources -/

/-- Where a value may come from. -/
inductive Source
  | flag
  /-- The variable of a flag. -/
  | standIn
  /-- The variables with the name of a key in letters of any case. -/
  | env
  | file
  | builtIn
deriving DecidableEq

/-- What a configuration is made from: the flags that are given, the environment, and the entries of the file. -/
structure Sources where
  given : List (ConfigKey × Option String)
  env : Environment
  entries : List (String × ConfigValue)

namespace Sources

/-- All sources, those first that go before others. -/
def inOrder : List Source := [.flag, .standIn, .env, .file, .builtIn]

/-- Where the file is, as the command line says. -/
def path (s : Sources) : String :=
  match s.given.lookup .config with
  | some (some path) => path
  | _ => "./duet.toml"

/-- What a source says of a key. The command line always says where the file is. -/
def says? (s : Sources) (k : ConfigKey) : Source → Option ConfigValue
  | .flag => if k = .config then some (.text s.path) else (s.given.lookup k).bind (CommandLine.givenValue? k)
  | .standIn => CommandLine.standIn? s.env k
  | .env => (s.env.filterMap (Environment.said? k)).getLast?
  | .file => (s.entries.filterMap k.named?).getLast?
  | .builtIn => Config.default.value? k

/-- The value of the first source that speaks of a key. -/
def deciding (s : Sources) (k : ConfigKey) : Option ConfigValue := inOrder.findSome? (s.says? k)

/-- What is said of one key alone. -/
def about (s : Sources) (k : ConfigKey) : Sources where
  given := s.given.filter fun g => g.1 = k
  env := s.env.filter fun v => (Environment.said? k v).isSome
  entries := s.entries.filter fun e => (k.named? e).isSome

theorem deciding_eq_or (s : Sources) (k : ConfigKey) : s.deciding k =
    (s.says? k .flag).or ((s.says? k .standIn).or ((s.says? k .env).or ((s.says? k .file).or (s.says? k .builtIn)))) := by
  simp only [deciding, inOrder, List.findSome?_cons, List.findSome?_nil]
  cases s.says? k .flag <;> cases s.says? k .standIn <;> cases s.says? k .env <;> cases s.says? k .file <;>
    cases s.says? k .builtIn <;> rfl

/-! ## One key alone -/

theorem says?_about (s : Sources) (k : ConfigKey) (source : Source) : (s.about k).says? k source = s.says? k source := by
  have hgiven : (s.about k).given.lookup k = s.given.lookup k := lookup_filter fun _ _ h => decide_eq_true h
  cases source with
  | flag =>
    simp only [says?, hgiven]
    split_ifs with hk
    · subst hk
      rw [path, path, hgiven]
    · rfl
  | standIn =>
    cases hname : k.standIn? with
    | none => simp only [says?, CommandLine.standIn?, CommandLine.standInText?, hname, Option.bind_none]
    | some name =>
      have hlookup : (s.about k).env.lookup name = s.env.lookup name := lookup_filter fun v _ hv => by
        rw [← hv] at hname
        rw [Environment.said?_of_standIn? hname, Option.isSome_some]
      simp only [says?, CommandLine.standIn?, CommandLine.standInText?, hname, Option.bind_some, hlookup]
  | env => exact congrArg List.getLast? (filterMap_filter_isSome _ _)
  | file => exact congrArg List.getLast? (filterMap_filter_isSome _ _)
  | builtIn => rfl

/-- **What is said of other keys does not matter.** -/
theorem deciding_about (s : Sources) (k : ConfigKey) : (s.about k).deciding k = s.deciding k := by
  rw [deciding, deciding, funext (says?_about s k)]

end Sources

/-! ## Layers -/

namespace Config

variable {words : List String} {env : Environment} {file : Option String} {c : CommandLine} {s : Sources}
  {entries : List (String × ConfigValue)}

/-- The entries of a configuration file; without a file there are none. -/
def entries? : Option String → Option (List (String × ConfigValue))
  | none => some []
  | some text => Toml.parse? text

theorem fileLayer_of_entries? (h : entries? file = some entries) : fileLayer file = .ok (ConfigLayer.ofNamed entries) := by
  cases file with
  | none =>
    cases h
    rfl
  | some text =>
    change Toml.parse? text = some entries at h
    rw [fileLayer, h]

/-- What a command line sets is what its flags, and else their variables, say. -/
def Sets (c : CommandLine) (s : Sources) : Prop :=
  ∀ k, c.get? k = ((s.given.lookup k).bind (CommandLine.givenValue? k)).or (s.says? k .standIn)

theorem configPath_of_sets (h : Sets c s) : c.configPath = s.path := by
  have hget : c.get? .config = (s.given.lookup .config).bind (CommandLine.givenValue? .config) := by
    rw [h]
    exact Option.or_none
  rw [CommandLine.configPath, hget, Sources.path]
  cases s.given.lookup .config with
  | none => rfl
  | some value => cases value <;> rfl

theorem layer_of_sets (h : Sets c s) (k : ConfigKey) : c.layer k = (s.says? k .flag).or (s.says? k .standIn) := by
  rw [CommandLine.layer, configPath_of_sets h, h k]
  simp only [Sources.says?]
  split_ifs <;> rfl

/-- The layers of a command line, an environment and a file say of each key what the first of the sources says. -/
theorem stack_of_sets (h : Sets c s) (k : ConfigKey) :
    (ConfigLayer.stack [c.layer, s.env.layer, ConfigLayer.ofNamed s.entries] k).or (default.value? k) = s.deciding k := by
  rw [Sources.deciding_eq_or, ConfigLayer.stack_cons, ConfigLayer.stack_cons, ConfigLayer.stack_cons,
    ConfigLayer.stack_nil, layer_of_sets h, Environment.layer_eq, ConfigLayer.ofNamed_eq]
  simp only [Option.or_none, Option.or_assoc]
  rfl

/-- What is loaded from a command line combines the sources key by key. -/
structure Combines (s : Sources) (c : CommandLine) (loaded : Except ConfigError Config) : Prop where
  /-- Only a value that decides is ever refused. -/
  fails_iff : (∃ e, loaded = .error e) ↔ ∃ k v, s.deciding k = some v ∧ k.taken? v = none
  /-- Every key has the value that decides. -/
  value : ∀ config, loaded = .ok config → ∀ k, config.value? k = (s.deciding k).bind k.taken?
  /-- A switch that is given is on. -/
  switch : ∀ config, loaded = .ok config → ∀ k, k.isSwitch = true → (s.given.lookup k).isSome = true →
    config.value? k = some (.bool true)
  /-- Only the command line says where the file is. -/
  path : ∀ config, loaded = .ok config → config.config = c.configPath
  /-- Nothing that is said of other keys plays a part. -/
  alone : ∀ k, (s.about k).deciding k = s.deciding k

theorem load_eq_ofLayer (hfile : entries? file = some entries) (c : CommandLine) (env : Environment) :
    load c env file = ofLayer (ConfigLayer.stack [c.layer, env.layer, ConfigLayer.ofNamed entries]) := by
  rw [load, fileLayer_of_entries? hfile]
  rfl

theorem value?_of_load (hsets : Sets c s) (hfile : entries? file = some s.entries) {config : Config}
    (h : load c s.env file = .ok config) (k : ConfigKey) : config.value? k = (s.deciding k).bind k.taken? := by
  rw [load_eq_ofLayer hfile] at h
  rw [(ofLayer_eq_ok h k).value, stack_of_sets hsets]

/-- The error names a key whose value is not taken. -/
theorem refused_of_load (hsets : Sets c s) (hfile : entries? file = some s.entries) {e : ConfigError}
    (h : load c s.env file = .error e) : ∃ k v, e.key? = some k ∧ s.deciding k = some v ∧ k.taken? v = none := by
  rw [load_eq_ofLayer hfile] at h
  obtain ⟨k, v, hkey, hsaid, hrefused⟩ := ofLayer_eq_error h
  exact ⟨k, v, hkey, by rw [← stack_of_sets hsets, hsaid, Option.some_or], hrefused⟩

theorem not_refused_of_load (hsets : Sets c s) (hfile : entries? file = some s.entries) {config : Config}
    (h : load c s.env file = .ok config) {k : ConfigKey} {v : ConfigValue} (hsaid : s.deciding k = some v) :
    (k.taken? v).isSome = true := by
  rw [load_eq_ofLayer hfile] at h
  have htaken := (ofLayer_eq_ok h k).taken
  rw [← stack_of_sets hsets] at hsaid
  generalize ConfigLayer.stack _ k = decided at htaken hsaid
  cases decided with
  | some v' =>
    cases hsaid
    exact htaken v rfl
  | none =>
    have hbuiltIn := bind_taken?_default k
    rw [Option.none_or] at hsaid
    rw [hsaid, Option.bind_some] at hbuiltIn
    rw [hbuiltIn, Option.isSome_some]

theorem combines_of_sets (hsets : Sets c s) (hfile : entries? file = some s.entries)
    (hswitch : ∀ g ∈ s.given, g.1.isSwitch = true ↔ g.2 = none) : Combines s c (load c s.env file) where
  fails_iff := by
    constructor
    · rintro ⟨e, h⟩
      obtain ⟨k, v, -, hrefused⟩ := refused_of_load hsets hfile h
      exact ⟨k, v, hrefused⟩
    · rintro ⟨k, v, hsaid, hrefused⟩
      cases h : load c s.env file with
      | error e => exact ⟨e, rfl⟩
      | ok config =>
        have htaken := not_refused_of_load hsets hfile h hsaid
        rw [hrefused] at htaken
        cases htaken
  value _ h := value?_of_load hsets hfile h
  switch config h k hk hgiven := by
    obtain ⟨value, hvalue⟩ := Option.isSome_iff_exists.1 hgiven
    obtain ⟨front, rest, hsplit, -⟩ := List.lookup_eq_some_iff.1 hvalue
    obtain rfl : value = none := (hswitch (k, value) (by simp [hsplit])).1 hk
    have hconfig : k ≠ .config := by
      rintro rfl
      cases hk
    have hsays : s.says? k .flag = some (.bool true) := by
      simp only [Sources.says?, if_neg hconfig, hvalue, Option.bind_some, CommandLine.givenValue?]
    rw [value?_of_load hsets hfile h, Sources.deciding_eq_or, hsays, Option.some_or, Option.bind_some]
    cases k <;> first | rfl | cases hk
  path config h := by
    have hvalue := value?_of_load hsets hfile h .config
    rw [Sources.deciding_eq_or] at hvalue
    rw [configPath_of_sets hsets]
    exact ConfigValue.text.inj (Option.some.inj hvalue)
  alone := s.deciding_about

/-- **Layers are combined key by key.** The words of a command line that is taken give some flags, in one way only and each
of them once. What is then loaded has for every key the value of the first source that speaks of it. -/
theorem layers_combine_key_by_key (hparse : CommandLine.parse words env = .ok c)
    (hfile : entries? file = some entries) : ∃ given, (∀ given', CommandLine.Gives words given' ↔ given' = given) ∧
      (given.map Prod.fst).Nodup ∧ Combines ⟨given, env, entries⟩ c (load c env file) := by
  obtain ⟨given, hgives, hsound, hget⟩ := CommandLine.get?_of_parse hparse
  refine ⟨given, fun given' => ⟨fun h => h.unique hgives, fun h => h ▸ hgives⟩, hsound.once, ?_⟩
  exact combines_of_sets (s := ⟨given, env, entries⟩) hget hfile hgives.isSwitch_iff

/-- The port of the file is no number and the one of the variable is out of range, but a flag goes before them. -/
theorem layers_combine_key_by_key_overridden :
    ∃ c entries given, CommandLine.parse ["--port", "5000", "--generate-config"]
        [("DUET_HISTORY_LIMIT", "20"), ("duet_history_limit", "many"), ("Duet_Port", "70000"),
          ("duet_upload_dir", "/srv/duet")] = .ok c ∧
      entries? (some "port = 'high'\njson_logs = true\nhistory_limit = 7\n") = some entries ∧
      CommandLine.Gives ["--port", "5000", "--generate-config"] given ∧
      Combines ⟨given, [("DUET_HISTORY_LIMIT", "20"), ("duet_history_limit", "many"), ("Duet_Port", "70000"),
          ("duet_upload_dir", "/srv/duet")], entries⟩ c (.ok { default with
        port := 5000, jsonLogs := true, generateConfig := true, uploadDir := "/srv/duet", historyLimit := 20 }) := by
  have hparse : CommandLine.parse ["--port", "5000", "--generate-config"]
      [("DUET_HISTORY_LIMIT", "20"), ("duet_history_limit", "many"), ("Duet_Port", "70000"),
        ("duet_upload_dir", "/srv/duet")] =
      .ok ⟨[(.historyLimit, .unsigned 20), (.generateConfig, .bool true), (.port, .unsigned 5000)]⟩ := rfl
  have hfile : entries? (some "port = 'high'\njson_logs = true\nhistory_limit = 7\n") =
      some [("port", .text "high"), ("json_logs", .bool true), ("history_limit", .signed 7)] := by decide +kernel
  obtain ⟨given, hgives, -, hcombines⟩ := layers_combine_key_by_key hparse hfile
  exact ⟨_, _, given, hparse, hfile, (hgives given).2 rfl, hcombines⟩

end Config

end DirectChat
