import DirectChat.Config.Key
import DirectChat.Text.Blank
/-!
# Names of keys

No two keys have one flag (`ofFlag?_flag`). Names are small letters and underscores, so that they are found again in what
stands around them on a command line and in the name of a variable. Of the entries with one name the last counts
(`ConfigLayer.ofNamed_eq`).
-/

namespace DirectChat

namespace ConfigKey

variable {k : ConfigKey} {c : Char}

theorem mem_all (k : ConfigKey) : k ∈ all := by cases k <;> decide

/-! ## Flags -/

theorem ofFlag?_flag (k : ConfigKey) : ofFlag? k.flag = some k := by cases k <;> decide +kernel

theorem flag_of_ofFlag? {name : String} (h : ofFlag? name = some k) : k.flag = name := by
  simpa using List.find?_some h

theorem ne_of_mem_flag (h : c ∈ k.flag.toList) : c ≠ '=' := by
  have hflag : k.flag.toList.all (fun c => c ≠ '=') = true := by cases k <;> decide +kernel
  exact of_decide_eq_true (List.all_eq_true.1 hflag c h)

theorem flag_ne_nil (k : ConfigKey) : k.flag.toList ≠ [] := by cases k <;> decide +kernel

/-! ## Names -/

theorem not_isBlank_of_mem_name (h : c ∈ k.name.toList) : isBlank c = false := by
  have hname : k.name.toList.all (fun c => !isBlank c) = true := by cases k <;> decide +kernel
  simpa using List.all_eq_true.1 hname c h

theorem not_dot_mem_name (k : ConfigKey) : '.' ∉ k.name.toList := by cases k <;> decide +kernel

theorem name_ne_nil (k : ConfigKey) : k.name.toList ≠ [] := by cases k <;> decide +kernel

/-- The value of an entry with the name of a key. -/
def named? (k : ConfigKey) (e : String × ConfigValue) : Option ConfigValue := if e.1 = k.name then some e.2 else none

end ConfigKey

theorem ConfigLayer.ofNamed_eq (named : List (String × ConfigValue)) (k : ConfigKey) :
    ofNamed named k = (named.filterMap k.named?).getLast? := by
  rw [List.getLast?_filterMap, ofNamed]
  induction named.reverse with
  | nil => rfl
  | cons e es ih =>
    rw [List.findSome?_cons, List.find?_cons, ConfigKey.named?]
    by_cases he : e.1 = k.name <;> simp [he, ih]

end DirectChat
