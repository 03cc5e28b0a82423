import DirectChat.Config.Variables
import DirectChat.Proofs.Config.Key
import DirectChat.Proofs.Text.Blank
import DirectChat.Proofs.Text.Split
/-!
# What variables set

A variable speaks of one key: the one whose name stands behind the mark of this program (`Environment.said?`), in
letters of any case (`said?_of_any_case`). Of the variables that speak of a key the last counts (`layer_eq`).
-/

namespace DirectChat

namespace Environment

variable {k : ConfigKey}

/-- What stands behind the mark of this program in the name of a variable, in small letters. -/
def behindMark? (variableName : String) : Option (List Char) :=
  let cs := (trimBlanks variableName.toList).map Char.toLower
  if mark.toList.isPrefixOf cs then some (trimBlanks (cs.drop mark.length)) else none

/-- Whether a name is the name of a key with further names behind it, each after a point. -/
def isDotted (k : ConfigKey) (name : List Char) : Bool :=
  (k.name.toList ++ ['.']).isPrefixOf name && (splitOnChar '.' (name.drop (k.name.length + 1))).all (!List.isEmpty ·)

/-- What a variable says of a key. With further names behind that of the key it says that there is a map. -/
def said? (k : ConfigKey) (v : String × String) : Option ConfigValue :=
  (behindMark? v.1).bind fun name =>
    if name = k.name.toList then some (valueOf v.2) else if isDotted k name then some .map else none

theorem nameParts?_eq (variableName : String) : nameParts? variableName =
    (behindMark? variableName).bind fun name =>
      if [] ∈ splitOnChar '.' name then none else some ((splitOnChar '.' name).map String.ofList) := by
  simp only [nameParts?, behindMark?]
  by_cases hmark : mark.toList.isPrefixOf ((trimBlanks variableName.toList).map Char.toLower) = true
  · rw [if_pos hmark, if_pos hmark, Option.bind_some]
  · rw [if_neg hmark, if_neg hmark, Option.bind_none]

theorem isDotted_of_not_mem {name : List Char} (h : '.' ∉ name) : isDotted k name = false := by
  rw [isDotted, Bool.and_eq_false_iff, ← Bool.not_eq_true, List.isPrefixOf_iff_prefix]
  exact .inl fun hfront => h (hfront.subset (by simp))

theorem isDotted_iff {first rest : List Char} (hfirst : '.' ∉ first) :
    isDotted k (first ++ '.' :: rest) = true ↔ first = k.name.toList ∧ [] ∉ splitOnChar '.' rest := by
  have hempty : ∀ pieces : List (List Char), pieces.all (!List.isEmpty ·) = true ↔ [] ∉ pieces := by
    intro pieces
    rw [List.all_eq_true]
    exact ⟨fun h hmem => by simpa using h [] hmem, fun h piece hmem => by cases piece <;> simp_all⟩
  have hdrop : (k.name.toList ++ '.' :: rest).drop (k.name.length + 1) = rest := by
    rw [← String.length_toList, List.drop_length_add_append, List.drop_succ_cons, List.drop_zero]
  rw [isDotted, Bool.and_eq_true, hempty, List.isPrefixOf_iff_prefix]
  constructor
  · rintro ⟨⟨more, hmore⟩, hpieces⟩
    rw [List.append_assoc, List.singleton_append] at hmore
    have hsplit := congrArg (splitOnChar '.') hmore
    rw [splitOnChar_append k.not_dot_mem_name, splitOnChar_append hfirst] at hsplit
    obtain rfl := (List.cons.inj hsplit).1
    rw [hdrop] at hpieces
    exact ⟨rfl, hpieces⟩
  · rintro ⟨rfl, hpieces⟩
    rw [hdrop]
    exact ⟨⟨rest, by simp⟩, hpieces⟩

/-- A variable speaks of the key in front of the first point of its name. -/
theorem bind_setting? (k : ConfigKey) (v : String × String) : (setting? v).bind k.named? = said? k v := by
  rw [setting?, nameParts?_eq, said?]
  cases behindMark? v.1 with
  | none => rfl
  | some name =>
    simp only [Option.bind_some]
    obtain ⟨hdot, hsplit⟩ | ⟨first, rest, hfirst, rfl, hsplit⟩ := splitOnChar_cases '.' name
    · rw [hsplit, isDotted_of_not_mem hdot]
      by_cases hname : name = []
      · subst hname
        rw [if_neg k.name_ne_nil.symm]
        rfl
      · rw [if_neg (by simpa using Ne.symm hname)]
        simp [ConfigKey.named?, ← String.toList_inj]
    · have hname : first ++ '.' :: rest ≠ k.name.toList := fun h => k.not_dot_mem_name (h ▸ by simp)
      obtain ⟨second, more, hmore⟩ := List.exists_cons_of_ne_nil (splitOnChar_ne_nil '.' rest)
      rw [hsplit, if_neg hname]
      simp only [isDotted_iff hfirst, List.mem_cons]
      by_cases hempty : [] ∈ splitOnChar '.' rest
      · simp [hempty]
      rw [hmore] at hempty ⊢
      by_cases hkey : first = k.name.toList
      · simp [hkey, hempty, ConfigKey.named?, k.name_ne_nil.symm]
      · simp only [hkey, hempty, or_false, false_and, if_false]
        split_ifs <;> simp [ConfigKey.named?, ← String.toList_inj, hkey]

/-- **Of the variables that speak of a key the last counts.** -/
theorem layer_eq (env : Environment) (k : ConfigKey) : env.layer k = (env.filterMap (said? k)).getLast? := by
  rw [layer, ConfigLayer.ofNamed_eq, List.filterMap_filterMap]
  simp only [bind_setting?]

theorem behindMark?_of_any_case {variableName : String}
    (h : variableName.toList.map Char.toLower = mark.toList ++ k.name.toList) :
    behindMark? variableName = some k.name.toList := by
  have hmark : mark.toList.all (fun c => !isBlank c) = true := by decide +kernel
  have hplain : ∀ c ∈ variableName.toList, isBlank c = false := by
    intro c hc
    by_contra hblank
    rw [Bool.not_eq_false] at hblank
    have hmem : c.toLower ∈ mark.toList ++ k.name.toList := h ▸ List.mem_map_of_mem hc
    rw [toLower_of_isBlank hblank, List.mem_append] at hmem
    rcases hmem with hmem | hmem
    · simpa [hblank] using List.all_eq_true.1 hmark c hmem
    · rw [ConfigKey.not_isBlank_of_mem_name hmem] at hblank
      cases hblank
  have hname : trimBlanks k.name.toList = k.name.toList :=
    trimBlanks_eq_self fun _ hc => ConfigKey.not_isBlank_of_mem_name hc
  simp only [behindMark?, trimBlanks_eq_self hplain, h, ← String.length_toList, List.drop_left, hname]
  rw [if_pos (List.isPrefixOf_iff_prefix.2 (List.prefix_append ..))]

/-- **A variable that has the mark and the name of a key for its name, in letters of any case, says its text.** -/
theorem said?_of_any_case {variableName : String}
    (h : variableName.toList.map Char.toLower = mark.toList ++ k.name.toList) (text : String) :
    said? k (variableName, text) = some (valueOf text) := by
  rw [said?, behindMark?_of_any_case h, Option.bind_some, if_pos rfl]

theorem said?_of_standIn? {name : String} (h : k.standIn? = some name) (text : String) :
    said? k (name, text) = some (valueOf text) := by
  have hlower : ∀ k ∈ ConfigKey.all, ∀ name ∈ k.standIn?,
      name.toList.map Char.toLower = mark.toList ++ k.name.toList := by decide +kernel
  exact said?_of_any_case (hlower k k.mem_all name h) text

end Environment

end DirectChat
