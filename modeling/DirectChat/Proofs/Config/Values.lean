import DirectChat.Config.Basic
import DirectChat.Proofs.Config.CommandLine
/-!
# What a layer says is taken

A key takes the values of one kind (`ConfigKey.taken?`). A layer makes a configuration if every value that it sets is
taken, and the configuration then has these values, and the built-in ones where nothing is set (`ofLayer_eq_ok`).
Otherwise the error names a key whose value is not taken (`ofLayer_eq_error`).
-/

namespace DirectChat

/-- The kinds of values that keys take. -/
inductive ValueKind
  | text
  | truth
  /-- A number without a sign that so many bits hold. -/
  | number (bits : Nat)
deriving DecidableEq

/-- What is made of a value of a kind; of others, and of numbers out of range, nothing is. A letter is a text of its own,
and it does not matter whether a source keeps the signs of its numbers. -/
def ValueKind.taken? : ValueKind → ConfigValue → Option ConfigValue
  | .text, .text s => some (.text s)
  | .text, .letter c => some (.text (String.singleton c))
  | .truth, .bool b => some (.bool b)
  | .number bits, .unsigned n => if n < Nat.pow 2 bits then some (.unsigned n) else none
  | .number bits, .signed i => if 0 ≤ i ∧ i < (Nat.pow 2 bits : Int) then some (.unsigned i.toNat) else none
  | _, _ => none

namespace ConfigKey

/-- The kind of the values that a key takes. -/
def kind : ConfigKey → ValueKind
  | baseUrl | bindAddress | config | dataDir | uploadDir => .text
  | generateConfig | jsonLogs => .truth
  | historyLimit | notifyTimeoutSecs => .number 64
  | port => .number 16

/-- What a key makes of a value, if it takes it. -/
def taken? (k : ConfigKey) (v : ConfigValue) : Option ConfigValue := k.kind.taken? v

end ConfigKey

namespace Config

/-- The value that a configuration has for a key. Only the public address may have none. -/
def value? (c : Config) : ConfigKey → Option ConfigValue
  | .baseUrl => c.baseUrl.map .text
  | .bindAddress => some (.text c.bindAddress)
  | .config => some (.text c.config)
  | .dataDir => some (.text c.dataDir)
  | .generateConfig => some (.bool c.generateConfig)
  | .historyLimit => some (.unsigned c.historyLimit)
  | .jsonLogs => some (.bool c.jsonLogs)
  | .notifyTimeoutSecs => some (.unsigned c.notifyTimeoutSecs)
  | .port => some (.unsigned c.port)
  | .uploadDir => some (.text c.uploadDir)

/-- Every built-in value is taken. -/
theorem bind_taken?_default (k : ConfigKey) : (default.value? k).bind k.taken? = default.value? k := by
  cases k <;> decide

/-! ## One key -/

variable {α : Type} {k : ConfigKey} {v : ConfigValue} {l : ConfigLayer} {said : α → Option ConfigValue}

/-- What comes of reading a value at a key: what the key makes of it, or an error that names the key. -/
inductive Outcome (k : ConfigKey) (v : ConfigValue) (said : α → Option ConfigValue) : Except ConfigError α → Prop
  | ok {a : α} {x : ConfigValue} (htaken : k.taken? v = some x) (hsaid : said a = some x) : Outcome k v said (.ok a)
  | error {e : ConfigError} (hrefused : k.taken? v = none) (hkey : e.key? = some k) : Outcome k v said (.error e)

theorem outcome_readText (hk : k.kind = .text) (v : ConfigValue) :
    Outcome k v (fun s => some (.text s)) (readText k v) := by
  cases v with
  | text s => exact .ok (by rw [ConfigKey.taken?, hk]; rfl) rfl
  | letter c => exact .ok (by rw [ConfigKey.taken?, hk]; rfl) rfl
  | _ => exact .error (by rw [ConfigKey.taken?, hk]; rfl) rfl

theorem outcome_readBool (hk : k.kind = .truth) (v : ConfigValue) :
    Outcome k v (fun b => some (.bool b)) (readBool k v) := by
  cases v with
  | bool b => exact .ok (by rw [ConfigKey.taken?, hk]; rfl) rfl
  | _ => exact .error (by rw [ConfigKey.taken?, hk]; rfl) rfl

theorem outcome_readNat {bits : Nat} (hk : k.kind = .number bits) (wanted : String) (v : ConfigValue) :
    Outcome k v (fun n => some (.unsigned n)) (readNat wanted bits k v) := by
  cases v with
  | unsigned n =>
    have htaken : k.taken? (.unsigned n) = if n < Nat.pow 2 bits then some (.unsigned n) else none := by
      rw [ConfigKey.taken?, hk]
      rfl
    rw [readNat]
    split_ifs at htaken ⊢
    · exact .ok htaken rfl
    · exact .error htaken rfl
  | signed i =>
    have htaken : k.taken? (.signed i) =
        if 0 ≤ i ∧ i < (Nat.pow 2 bits : Int) then some (.unsigned i.toNat) else none := by
      rw [ConfigKey.taken?, hk]
      rfl
    rw [readNat]
    split_ifs at htaken ⊢
    · exact .ok htaken rfl
    · exact .error htaken rfl
  | _ => exact .error (by rw [ConfigKey.taken?, hk]; rfl) rfl

theorem outcome_readSomeText (hk : k.kind = .text) (v : ConfigValue) :
    Outcome k v (Option.map ConfigValue.text) ((readText k v).map some) := by
  have houtcome := outcome_readText hk v
  generalize readText k v = result at houtcome ⊢
  cases houtcome with
  | ok htaken hsaid => exact .ok htaken hsaid
  | error hrefused hkey => exact .error hrefused hkey

/-- A key has the value that a layer or else the built-in values say, as it is taken. -/
structure Settled (l : ConfigLayer) (k : ConfigKey) (value : Option ConfigValue) : Prop where
  taken : ∀ v, l k = some v → (k.taken? v).isSome = true
  value : value = ((l k).or (default.value? k)).bind k.taken?

section

variable {read : ConfigKey → ConfigValue → Except ConfigError α} {builtIn a : α} {e : ConfigError}

theorem settled_of_setting (h : setting l k read builtIn = .ok a) (hread : ∀ v, Outcome k v said (read k v))
    (hbuiltIn : said builtIn = default.value? k) : Settled l k (said a) := by
  rw [setting] at h
  cases hl : l k with
  | none =>
    rw [hl] at h
    cases h
    exact ⟨by simp [hl], by rw [hl, Option.none_or, bind_taken?_default, hbuiltIn]⟩
  | some v =>
    rw [hl] at h
    have houtcome := hread v
    simp only at h
    rw [h] at houtcome
    cases houtcome with
    | ok htaken hsaid => exact ⟨by simp [hl, htaken], by rw [hl, Option.some_or, Option.bind_some, htaken, hsaid]⟩

theorem refused_of_setting (h : setting l k read builtIn = .error e) (hread : ∀ v, Outcome k v said (read k v)) :
    ∃ k v, e.key? = some k ∧ l k = some v ∧ k.taken? v = none := by
  rw [setting] at h
  cases hl : l k with
  | none =>
    rw [hl] at h
    cases h
  | some v =>
    rw [hl] at h
    have houtcome := hread v
    simp only at h
    rw [h] at houtcome
    cases houtcome with
    | error hrefused hkey => exact ⟨k, v, hkey, hl, hrefused⟩

end

/-! ## All keys -/

theorem ofLayer_eq_ok {c : Config} (h : ofLayer l = .ok c) (k : ConfigKey) : Settled l k (c.value? k) := by
  simp only [ofLayer, bind_eq_ok_iff] at h
  obtain ⟨baseUrl, hbaseUrl, bindAddress, hbindAddress, config, hconfig, dataDir, hdataDir, generateConfig,
    hgenerateConfig, historyLimit, hhistoryLimit, jsonLogs, hjsonLogs, notifyTimeoutSecs, hnotifyTimeoutSecs, port, hport,
    uploadDir, huploadDir, h⟩ := h
  cases h
  cases k with
  | baseUrl => exact (settled_of_setting hbaseUrl (outcome_readSomeText rfl) rfl :)
  | bindAddress => exact (settled_of_setting hbindAddress (outcome_readText rfl) rfl :)
  | config => exact (settled_of_setting hconfig (outcome_readText rfl) rfl :)
  | dataDir => exact (settled_of_setting hdataDir (outcome_readText rfl) rfl :)
  | generateConfig => exact (settled_of_setting hgenerateConfig (outcome_readBool rfl) rfl :)
  | historyLimit => exact (settled_of_setting hhistoryLimit (outcome_readNat rfl _) rfl :)
  | jsonLogs => exact (settled_of_setting hjsonLogs (outcome_readBool rfl) rfl :)
  | notifyTimeoutSecs => exact (settled_of_setting hnotifyTimeoutSecs (outcome_readNat rfl _) rfl :)
  | port => exact (settled_of_setting hport (outcome_readNat rfl _) rfl :)
  | uploadDir => exact (settled_of_setting huploadDir (outcome_readText rfl) rfl :)

theorem ofLayer_eq_error {e : ConfigError} (h : ofLayer l = .error e) :
    ∃ k v, e.key? = some k ∧ l k = some v ∧ k.taken? v = none := by
  simp only [ofLayer, bind_eq_error_iff] at h
  rcases h with h | ⟨_, -, h | ⟨_, -, h | ⟨_, -, h | ⟨_, -, h | ⟨_, -, h | ⟨_, -, h | ⟨_, -, h | ⟨_, -, h |
    ⟨_, -, h | ⟨_, -, h⟩⟩⟩⟩⟩⟩⟩⟩⟩⟩
  · exact refused_of_setting h (outcome_readSomeText rfl)
  · exact refused_of_setting h (outcome_readText rfl)
  · exact refused_of_setting h (outcome_readText rfl)
  · exact refused_of_setting h (outcome_readText rfl)
  · exact refused_of_setting h (outcome_readBool rfl)
  · exact refused_of_setting h (outcome_readNat rfl _)
  · exact refused_of_setting h (outcome_readBool rfl)
  · exact refused_of_setting h (outcome_readNat rfl _)
  · exact refused_of_setting h (outcome_readNat rfl _)
  · exact refused_of_setting h (outcome_readText rfl)
  · cases h

end Config

end DirectChat
