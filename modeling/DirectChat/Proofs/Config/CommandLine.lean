import DirectChat.Config.CommandLine
import DirectChat.Proofs.Config.Key
import DirectChat.Proofs.Text.Integer
/-!
# What a command line says

A command line is a row of flags, each with its value if it takes one (`CommandLine.Gives`), and is read in one way only
(`Gives.unique`). It is taken if every flag is given once and with a value that the flag takes (`exists_parse_iff`). What
it then sets is the value of the flag, or, if the flag is not given, that of its variable (`get?_of_parse`).
-/

namespace DirectChat

section

variable {ε α β : Type} {x : Except ε α} {f : α → Except ε β}

theorem bind_eq_ok_iff {b : β} : (x >>= f) = .ok b ↔ ∃ a, x = .ok a ∧ f a = .ok b := by
  cases x <;> simp [bind, Except.bind]

theorem bind_eq_error_iff {e : ε} : (x >>= f) = .error e ↔ x = .error e ∨ ∃ a, x = .ok a ∧ f a = .error e := by
  cases x <;> simp [bind, Except.bind]

end

namespace CommandLine

/-! ## Words -/

/-- A word that may be the value of the flag before it: it does not begin with a hyphen, unless it is one. -/
def IsValueWord (w : String) : Prop := w.toList.head? ≠ some '-' ∨ w = "-"

namespace Word

variable {k : ConfigKey} {name w text : String} {value : Option String}

/-- With these words no command line goes on. -/
inductive Ends : Word → Prop
  | help : Ends .help
  | version : Ends .version
  | wrong (e : CommandLineError) : Ends (.wrong e)

/-- The ways in which the words are written. -/
inductive Spells : String → Word → Prop
  | switch (k : ConfigKey) (hk : k.isSwitch = true) : Spells ("--" ++ k.flag) (.switch k)
  | flag (k : ConfigKey) (hk : k.isSwitch = false) : Spells ("--" ++ k.flag) (.option k none)
  | joined (k : ConfigKey) (hk : k.isSwitch = false) (text : String) :
    Spells ("--" ++ k.flag ++ "=" ++ text) (.option k (some text))
  | endOfFlags : Spells "--" .endOfFlags
  | plain {w : String} (hw : IsValueWord w) : Spells w (.plain w)
  | ends {w : String} {word : Word} (hword : word.Ends) : Spells w word

theorem ofFlag_flag (k : ConfigKey) (value : Option String) : ofFlag k.flag value =
    if k.isSwitch then if value.isSome then .wrong .unwantedValue else .switch k else .option k value := by
  rw [ofFlag, k.ofFlag?_flag]

theorem ends_ofFlag (h : ConfigKey.ofFlag? name = none) (value : Option String) : (ofFlag name value).Ends := by
  simp only [ofFlag, h]
  split_ifs <;> constructor

/-- A word that begins with two hyphens, and goes on, has the name of a flag up to the first equals sign. -/
theorem ofText_of_hyphens {cs : List Char} (h : w.toList = '-' :: '-' :: cs) (hne : cs ≠ []) : ofText w =
    match cs.span (· ≠ '=') with
    | (name, '=' :: value) => ofFlag (String.ofList name) (some (String.ofList value))
    | (name, _) => ofFlag (String.ofList name) none := by
  obtain ⟨c, cs, rfl⟩ := List.exists_cons_of_ne_nil hne
  rw [ofText, h]
  rfl

theorem ofText_flag (k : ConfigKey) : ofText ("--" ++ k.flag) = if k.isSwitch then .switch k else .option k none := by
  have hword : ("--" ++ k.flag).toList = '-' :: '-' :: k.flag.toList := by simp
  have hspan : (k.flag.toList ++ []).span (fun c => c ≠ '=') = (k.flag.toList, []) :=
    span_append_of_stop (fun c hc => decide_eq_true (k.ne_of_mem_flag hc)) (by simp)
  rw [List.append_nil] at hspan
  rw [ofText_of_hyphens hword k.flag_ne_nil, hspan]
  show ofFlag (String.ofList k.flag.toList) none = _
  rw [String.ofList_toList, ofFlag_flag]
  rfl

theorem ofText_switch (hk : k.isSwitch = true) : ofText ("--" ++ k.flag) = .switch k := by rw [ofText_flag, if_pos hk]

theorem ofText_option (hk : k.isSwitch = false) : ofText ("--" ++ k.flag) = .option k none := by
  rw [ofText_flag, if_neg (by simp [hk])]

theorem ofText_joined (hk : k.isSwitch = false) (text : String) :
    ofText ("--" ++ k.flag ++ "=" ++ text) = .option k (some text) := by
  have hword : ("--" ++ k.flag ++ "=" ++ text).toList = '-' :: '-' :: (k.flag.toList ++ '=' :: text.toList) := by simp
  have hspan : (k.flag.toList ++ '=' :: text.toList).span (fun c => c ≠ '=') = (k.flag.toList, '=' :: text.toList) :=
    span_append_of_stop (fun c hc => decide_eq_true (k.ne_of_mem_flag hc)) (by simp)
  rw [ofText_of_hyphens hword (by simp), hspan]
  show ofFlag (String.ofList k.flag.toList) (some (String.ofList text.toList)) = _
  rw [String.ofList_toList, String.ofList_toList, ofFlag_flag, if_neg (by simp [hk])]

theorem ofText_of_isValueWord (h : IsValueWord w) : ofText w = .plain w := by
  rcases h with h | rfl
  · unfold ofText
    split <;> simp_all
  · rfl

theorem spells_ofFlag (name : String) : Spells ("--" ++ name) (ofFlag name none) := by
  cases hname : ConfigKey.ofFlag? name with
  | none => exact .ends (ends_ofFlag hname _)
  | some k =>
    rw [← ConfigKey.flag_of_ofFlag? hname, ofFlag_flag]
    cases hk : k.isSwitch with
    | false => exact .flag k hk
    | true => exact .switch k hk

theorem spells_ofFlag_joined (name text : String) : Spells ("--" ++ name ++ "=" ++ text) (ofFlag name (some text)) := by
  cases hname : ConfigKey.ofFlag? name with
  | none => exact .ends (ends_ofFlag hname _)
  | some k =>
    rw [← ConfigKey.flag_of_ofFlag? hname, ofFlag_flag]
    cases hk : k.isSwitch with
    | false => exact .joined k hk text
    | true => exact .ends (.wrong _)

/-- A word of one hyphen and more does not belong to a command line. -/
theorem ends_ofText_of_hyphen {c : Char} {cs : List Char} (h : w.toList = '-' :: c :: cs) (hc : c ≠ '-') :
    (ofText w).Ends := by
  rw [ofText, h]
  split
  · simp_all
  · simp_all
  · exact .help
  · exact .version
  · exact .wrong _
  · simp_all

theorem spells_ofText (w : String) : Spells w (ofText w) := by
  by_cases hvalue : IsValueWord w
  · rw [ofText_of_isValueWord hvalue]
    exact .plain hvalue
  obtain ⟨hhead, hne⟩ := not_or.1 hvalue
  obtain ⟨cs, hcs⟩ := List.head?_eq_some_iff.1 (not_not.1 hhead)
  cases cs with
  | nil => exact absurd (String.toList_inj.1 hcs) hne
  | cons c cs =>
    by_cases hc : c = '-'
    · subst hc
      by_cases hend : cs = []
      · subst hend
        obtain rfl : w = "--" := String.toList_inj.1 hcs
        exact .endOfFlags
      · have hparts := List.takeWhile_append_dropWhile (p := fun c => decide (c ≠ '=')) (l := cs)
        have hhead := List.head?_dropWhile_not (fun c => decide (c ≠ '=')) cs
        rw [ofText_of_hyphens hcs hend, List.span_eq_takeWhile_dropWhile]
        generalize cs.takeWhile (fun c => decide (c ≠ '=')) = name at hparts ⊢
        cases hrest : cs.dropWhile fun c => decide (c ≠ '=') with
        | nil =>
          obtain rfl : w = "--" ++ String.ofList name := by
            apply String.toList_inj.1
            rw [hcs, ← hparts, hrest]
            simp
          exact spells_ofFlag _
        | cons c value =>
          rw [hrest] at hhead
          obtain rfl : c = '=' := by simpa using hhead
          obtain rfl : w = "--" ++ String.ofList name ++ "=" ++ String.ofList value := by
            apply String.toList_inj.1
            rw [hcs, ← hparts, hrest]
            simp
          exact spells_ofFlag_joined _ _
    · exact .ends (ends_ofText_of_hyphen hcs hc)

theorem plain_of_ofText (h : ofText w = .plain text) : text = w ∧ IsValueWord w := by
  have hspells := spells_ofText w
  rw [h] at hspells
  cases hspells with
  | plain hw => exact ⟨rfl, hw⟩
  | ends hword => cases hword

end Word

/-! ## Rows of flags -/

/-- The flags that the words of a command line give, in their order, each with its text unless it is a switch. A text
follows behind an equals sign, or is the next word, if that may be one. -/
inductive Gives : List String → List (ConfigKey × Option String) → Prop
  | nothing : Gives [] []
  | endOfFlags : Gives ["--"] []
  | switch (k : ConfigKey) (hk : k.isSwitch = true) {words : List String} {given : List (ConfigKey × Option String)}
    (h : Gives words given) : Gives (("--" ++ k.flag) :: words) ((k, none) :: given)
  | joined (k : ConfigKey) (hk : k.isSwitch = false) (text : String) {words : List String}
    {given : List (ConfigKey × Option String)} (h : Gives words given) :
    Gives (("--" ++ k.flag ++ "=" ++ text) :: words) ((k, some text) :: given)
  | apart (k : ConfigKey) (hk : k.isSwitch = false) {text : String} (htext : IsValueWord text) {words : List String}
    {given : List (ConfigKey × Option String)} (h : Gives words given) :
    Gives (("--" ++ k.flag) :: text :: words) ((k, some text) :: given)

/-- What the first word says about the flags that are given. -/
theorem Gives.of_cons {w : String} {words : List String} {given : List (ConfigKey × Option String)}
    (h : Gives (w :: words) given) : match Word.ofText w with
    | .switch k => ∃ more, given = (k, none) :: more ∧ Gives words more
    | .option k (some text) => ∃ more, given = (k, some text) :: more ∧ Gives words more
    | .option k none => ∃ text rest more, words = text :: rest ∧ given = (k, some text) :: more ∧ Gives rest more
    | .endOfFlags => words = [] ∧ given = []
    | _ => False := by
  cases h with
  | endOfFlags => exact ⟨rfl, rfl⟩
  | switch k hk h =>
    rw [Word.ofText_switch hk]
    exact ⟨_, rfl, h⟩
  | joined k hk text h =>
    rw [Word.ofText_joined hk]
    exact ⟨_, rfl, h⟩
  | apart k hk htext h =>
    rw [Word.ofText_option hk]
    exact ⟨_, _, _, rfl, rfl, h⟩

/-- A command line is read in one way only. -/
theorem Gives.unique {words : List String} {given given' : List (ConfigKey × Option String)} (h : Gives words given)
    (h' : Gives words given') : given = given' := by
  induction h generalizing given' with
  | nothing =>
    cases h'
    rfl
  | endOfFlags => exact h'.of_cons.2.symm
  | switch k hk _ ih =>
    have hfirst := h'.of_cons
    rw [Word.ofText_switch hk] at hfirst
    obtain ⟨more, rfl, hmore⟩ := hfirst
    rw [ih hmore]
  | joined k hk text _ ih =>
    have hfirst := h'.of_cons
    rw [Word.ofText_joined hk] at hfirst
    obtain ⟨more, rfl, hmore⟩ := hfirst
    rw [ih hmore]
  | apart k hk _ _ ih =>
    have hfirst := h'.of_cons
    rw [Word.ofText_option hk] at hfirst
    obtain ⟨text, rest, more, hwords, rfl, hmore⟩ := hfirst
    cases hwords
    rw [ih hmore]

/-- Only a switch is given without a text. -/
theorem Gives.isSwitch_iff {words : List String} {given : List (ConfigKey × Option String)} (h : Gives words given) :
    ∀ g ∈ given, g.1.isSwitch = true ↔ g.2 = none := by
  induction h with
  | nothing => exact fun _ hg => absurd hg List.not_mem_nil
  | endOfFlags => exact fun _ hg => absurd hg List.not_mem_nil
  | switch k hk _ ih => exact List.forall_mem_cons.2 ⟨by simp [hk], ih⟩
  | joined k hk text _ ih => exact List.forall_mem_cons.2 ⟨by simp [hk], ih⟩
  | apart k hk _ _ ih => exact List.forall_mem_cons.2 ⟨by simp [hk], ih⟩

/-- The value of a flag that is given. -/
def givenValue? (k : ConfigKey) : Option String → Option ConfigValue
  | none => some (.bool true)
  | some text => k.flagValue? text

/-- Sets the flags that are given. -/
def enter (c : CommandLine) (given : List (ConfigKey × Option String)) : Except CommandLineError CommandLine :=
  given.foldlM (fun c g => c.set g.1 (givenValue? g.1 g.2)) c

variable {c c' : CommandLine} {k : ConfigKey} {words : List String} {text : String}
  {given : List (ConfigKey × Option String)}

theorem enter_cons_eq_ok_iff {value : Option String} : c.enter ((k, value) :: given) = .ok c' ↔
    ∃ c₁, c.set k (givenValue? k value) = .ok c₁ ∧ c₁.enter given = .ok c' := by
  rw [enter, List.foldlM_cons, bind_eq_ok_iff]
  rfl

/-- A flag whose value has been read may as well be set at once. -/
theorem read_settled_iff : c.read (some (k, some text)) words = .ok c' ↔
    ∃ c₁, c.set k (k.flagValue? text) = .ok c₁ ∧ c₁.read none words = .ok c' := by
  cases words with
  | nil => simp [CommandLine.read, settle]
  | cons w ws =>
    rw [CommandLine.read]
    simp only [CommandLine.read]
    cases Word.ofText w with
    | option k' value => cases value <;> simp [bind_eq_ok_iff, settle]
    | switch k' => simp [bind_eq_ok_iff, settle]
    | endOfFlags => by_cases hws : ws = [] <;> simp [hws, settle]
    | help => simp [bind_eq_ok_iff]
    | version => simp [bind_eq_ok_iff]
    | plain s => simp
    | wrong e => simp

/-- A flag that waits for its value takes the next word. -/
theorem read_waiting_iff : c.read (some (k, none)) words = .ok c' ↔
    ∃ text rest, words = text :: rest ∧ IsValueWord text ∧ c.read (some (k, some text)) rest = .ok c' := by
  constructor
  · intro h
    cases words with
    | nil => cases h
    | cons w ws =>
      rw [CommandLine.read] at h
      cases hw : Word.ofText w with
      | plain text =>
        obtain ⟨rfl, hvalue⟩ := Word.plain_of_ofText hw
        simp only [hw] at h
        exact ⟨text, ws, rfl, hvalue, h⟩
      | option k' value => cases value <;> simp [hw, bind_eq_ok_iff, settle] at h
      | switch k' => simp [hw, bind_eq_ok_iff, settle] at h
      | endOfFlags => by_cases hws : ws = [] <;> simp [hw, hws, settle] at h
      | help => simp [hw, bind_eq_ok_iff] at h
      | version => simp [hw, bind_eq_ok_iff] at h
      | wrong e => simp [hw] at h
  · rintro ⟨text, rest, rfl, hvalue, h⟩
    rw [CommandLine.read, Word.ofText_of_isValueWord hvalue]
    exact h

theorem read_of_gives (hgives : Gives words given) : ∀ {c : CommandLine}, c.enter given = .ok c' →
    c.read none words = .ok c' := by
  induction hgives with
  | nothing => exact fun h => h
  | endOfFlags => exact fun h => h
  | switch k hk _ ih =>
    intro c h
    obtain ⟨c₁, hset, hrest⟩ := enter_cons_eq_ok_iff.1 h
    rw [CommandLine.read, Word.ofText_switch hk]
    exact bind_eq_ok_iff.2 ⟨c, rfl, bind_eq_ok_iff.2 ⟨c₁, hset, ih hrest⟩⟩
  | joined k hk text _ ih =>
    intro c h
    obtain ⟨c₁, hset, hrest⟩ := enter_cons_eq_ok_iff.1 h
    rw [CommandLine.read, Word.ofText_joined hk]
    exact bind_eq_ok_iff.2 ⟨c, rfl, bind_eq_ok_iff.2 ⟨c₁, hset, ih hrest⟩⟩
  | apart k hk htext _ ih =>
    intro c h
    obtain ⟨c₁, hset, hrest⟩ := enter_cons_eq_ok_iff.1 h
    rw [CommandLine.read, Word.ofText_option hk]
    refine bind_eq_ok_iff.2 ⟨c, rfl, read_waiting_iff.2 ⟨_, _, rfl, htext, ?_⟩⟩
    exact read_settled_iff.2 ⟨c₁, hset, ih hrest⟩

theorem gives_of_read (h : c.read none words = .ok c') : ∃ given, Gives words given ∧ c.enter given = .ok c' := by
  -- A flag may take two words, so that the induction is on their number.
  induction hn : words.length using Nat.strongRecOn generalizing words c with
  | ind n ih =>
    cases words with
    | nil => exact ⟨[], .nothing, h⟩
    | cons w ws =>
      have hws : ws.length < n := by
        rw [← hn, List.length_cons]
        omega
      have hspells := Word.spells_ofText w
      rw [CommandLine.read] at h
      generalize Word.ofText w = word at h hspells
      cases hspells with
      | switch k hk =>
        obtain ⟨_, hsettled, h⟩ := bind_eq_ok_iff.1 h
        obtain ⟨c₁, hset, hrest⟩ := bind_eq_ok_iff.1 h
        cases hsettled
        obtain ⟨given, hgives, henter⟩ := ih _ hws hrest rfl
        exact ⟨_, .switch k hk hgives, enter_cons_eq_ok_iff.2 ⟨c₁, hset, henter⟩⟩
      | joined k hk text =>
        obtain ⟨_, hsettled, h⟩ := bind_eq_ok_iff.1 h
        obtain ⟨c₁, hset, hrest⟩ := bind_eq_ok_iff.1 h
        cases hsettled
        obtain ⟨given, hgives, henter⟩ := ih _ hws hrest rfl
        exact ⟨_, .joined k hk text hgives, enter_cons_eq_ok_iff.2 ⟨c₁, hset, henter⟩⟩
      | flag k hk =>
        obtain ⟨_, hsettled, h⟩ := bind_eq_ok_iff.1 h
        cases hsettled
        obtain ⟨text, rest, rfl, htext, h⟩ := read_waiting_iff.1 h
        obtain ⟨c₁, hset, hrest⟩ := read_settled_iff.1 h
        have hlength : rest.length < n := by
          rw [List.length_cons] at hws
          omega
        obtain ⟨given, hgives, henter⟩ := ih _ hlength hrest rfl
        exact ⟨_, .apart k hk htext hgives, enter_cons_eq_ok_iff.2 ⟨c₁, hset, henter⟩⟩
      | endOfFlags =>
        by_cases hend : ws = []
        · subst hend
          exact ⟨[], .endOfFlags, h⟩
        · simp [hend] at h
      | plain hw => cases h
      | ends hword =>
        cases hword with
        | help => simp [bind_eq_ok_iff] at h
        | version => simp [bind_eq_ok_iff] at h
        | wrong e => cases h

/-- **A command line is read as the row of flags that it gives**, each set once and to a value that it takes. -/
theorem read_eq_ok_iff : c.read none words = .ok c' ↔ ∃ given, Gives words given ∧ c.enter given = .ok c' :=
  ⟨gives_of_read, fun ⟨_, hgives, h⟩ => read_of_gives hgives h⟩

/-! ## What is set -/

theorem set_eq_ok_iff {value : Option ConfigValue} :
    c.set k value = .ok c' ↔ c.get? k = none ∧ ∃ v, value = some v ∧ c' = ⟨(k, v) :: c.flags⟩ := by
  unfold set
  cases hget : c.get? k with
  | some v => simp
  | none => cases value <;> simp [eq_comm]

theorem get?_of_set {value : Option ConfigValue} (h : c.set k value = .ok c') (j : ConfigKey) :
    c'.get? j = if j = k then value else c.get? j := by
  obtain ⟨-, v, rfl, rfl⟩ := set_eq_ok_iff.1 h
  simp only [get?, List.lookup_cons]
  by_cases hj : j = k
  · simp [hj]
  · rw [if_neg hj, beq_false_of_ne hj]

/-- Every flag is given once, and with a value that it takes. -/
structure Sound (given : List (ConfigKey × Option String)) : Prop where
  once : (given.map Prod.fst).Nodup
  taken : ∀ g ∈ given, (givenValue? g.1 g.2).isSome = true

theorem enter_eq_ok (h : c.enter given = .ok c') : Sound given ∧ (∀ g ∈ given, c.get? g.1 = none) ∧
    ∀ j, c'.get? j = ((given.lookup j).bind (givenValue? j)).or (c.get? j) := by
  induction given generalizing c with
  | nil =>
    cases h
    exact ⟨⟨List.nodup_nil, fun _ hg => absurd hg List.not_mem_nil⟩, fun _ hg => absurd hg List.not_mem_nil,
      fun _ => rfl⟩
  | cons g given ih =>
    obtain ⟨k, value⟩ := g
    obtain ⟨c₁, hset, hrest⟩ := enter_cons_eq_ok_iff.1 h
    obtain ⟨hsound, hfresh, hget⟩ := ih hrest
    obtain ⟨hnone, v, hvalue, -⟩ := set_eq_ok_iff.1 hset
    have hafter := get?_of_set hset
    have hother : ∀ g ∈ given, g.1 ≠ k ∧ c.get? g.1 = none := by
      intro g hg
      have hg' := hfresh g hg
      rw [hafter] at hg'
      by_cases hgk : g.1 = k
      · rw [if_pos hgk, hvalue] at hg'
        cases hg'
      · rw [if_neg hgk] at hg'
        exact ⟨hgk, hg'⟩
    refine ⟨⟨?_, ?_⟩, ?_, fun j => ?_⟩
    · rw [List.map_cons, List.nodup_cons]
      refine ⟨fun hmem => ?_, hsound.once⟩
      obtain ⟨g, hg, hgk⟩ := List.mem_map.1 hmem
      exact (hother g hg).1 hgk
    · rw [List.forall_mem_cons]
      exact ⟨by simp [hvalue], hsound.taken⟩
    · rw [List.forall_mem_cons]
      exact ⟨hnone, fun g hg => (hother g hg).2⟩
    · rw [hget, hafter, List.lookup_cons]
      by_cases hj : j = k
      · subst hj
        have hnotin : given.lookup j = none := by
          rw [List.lookup_eq_none_iff]
          intro g hg
          simpa using fun hjg => (hother g hg).1 hjg.symm
        simp [hnotin, hvalue]
      · rw [if_neg hj, beq_false_of_ne hj]

theorem exists_enter (hsound : Sound given) (hfresh : ∀ g ∈ given, c.get? g.1 = none) :
    ∃ c', c.enter given = .ok c' := by
  induction given generalizing c with
  | nil => exact ⟨c, rfl⟩
  | cons g given ih =>
    obtain ⟨k, value⟩ := g
    obtain ⟨honce, htaken⟩ := hsound
    rw [List.map_cons, List.nodup_cons] at honce
    rw [List.forall_mem_cons] at htaken hfresh
    obtain ⟨v, hv⟩ := Option.isSome_iff_exists.1 htaken.1
    have hset : c.set k (givenValue? k value) = .ok ⟨(k, v) :: c.flags⟩ := set_eq_ok_iff.2 ⟨hfresh.1, v, hv, rfl⟩
    obtain ⟨c', hc'⟩ := ih ⟨honce.2, htaken.2⟩ fun g hg => by
      have hgk : g.1 ≠ k := fun h => honce.1 (h ▸ List.mem_map.2 ⟨g, hg, rfl⟩)
      rw [get?_of_set hset, if_neg hgk]
      exact hfresh.2 g hg
    exact ⟨c', enter_cons_eq_ok_iff.2 ⟨_, hset, hc'⟩⟩

/-! ## Variables -/

variable {env : Environment}

/-- The text that the variable of a flag has. -/
def standInText? (env : Environment) (k : ConfigKey) : Option String :=
  k.standIn?.bind fun name => List.lookup name env

/-- The value that a flag has from its variable. -/
def standIn? (env : Environment) (k : ConfigKey) : Option ConfigValue := (standInText? env k).bind k.flagValue?

theorem setFromVariable_eq (env : Environment) (c : CommandLine) (k : ConfigKey) : setFromVariable env c k =
    match standInText? env k with
    | some text => if (c.get? k).isSome then .ok c else c.set k (k.flagValue? text)
    | none => .ok c := rfl

theorem get?_of_setFromVariable (h : setFromVariable env c k = .ok c') (j : ConfigKey) :
    c'.get? j = if j = k then (c.get? k).or (standIn? env k) else c.get? j := by
  rw [setFromVariable_eq] at h
  rw [standIn?]
  cases htext : standInText? env k with
  | none =>
    rw [htext] at h
    cases h
    by_cases hj : j = k <;> simp [hj]
  | some text =>
    rw [htext] at h
    cases hget : c.get? k with
    | some v =>
      simp only [hget, Option.isSome_some, if_true] at h
      cases h
      by_cases hj : j = k <;> simp [hj, hget]
    | none =>
      simp only [hget, Option.isSome_none, Bool.false_eq_true, if_false] at h
      exact get?_of_set h j

theorem exists_setFromVariable (h : c.get? k = none → ∀ text, standInText? env k = some text →
    (k.flagValue? text).isSome = true) : ∃ c', setFromVariable env c k = .ok c' := by
  rw [setFromVariable_eq]
  cases htext : standInText? env k with
  | none => exact ⟨c, rfl⟩
  | some text =>
    cases hget : c.get? k with
    | some v => exact ⟨c, rfl⟩
    | none =>
      obtain ⟨v, hv⟩ := Option.isSome_iff_exists.1 (h hget text htext)
      exact ⟨_, set_eq_ok_iff.2 ⟨hget, v, hv, rfl⟩⟩

theorem taken_of_setFromVariable (h : setFromVariable env c k = .ok c') (hget : c.get? k = none) {text : String}
    (htext : standInText? env k = some text) : (k.flagValue? text).isSome = true := by
  rw [setFromVariable_eq, htext] at h
  simp only [hget, Option.isSome_none, Bool.false_eq_true, if_false] at h
  obtain ⟨-, v, hv, -⟩ := set_eq_ok_iff.1 h
  rw [hv, Option.isSome_some]

/-- The variables of some flags have been looked up one after another. -/
theorem get?_of_foldlM {keys : List ConfigKey} (h : keys.foldlM (setFromVariable env) c = .ok c') (j : ConfigKey) :
    c'.get? j = if j ∈ keys then (c.get? j).or (standIn? env j) else c.get? j := by
  induction keys generalizing c with
  | nil =>
    cases h
    rw [if_neg List.not_mem_nil]
  | cons k keys ih =>
    rw [List.foldlM_cons] at h
    obtain ⟨c₁, hfirst, hrest⟩ := bind_eq_ok_iff.1 h
    rw [ih hrest, get?_of_setFromVariable hfirst]
    by_cases hj : j = k
    · subst hj
      -- A key that is looked up again has its value by then, or its variable is not set.
      by_cases hagain : j ∈ keys <;> cases c.get? j <;> simp [hagain]
    · simp [hj]

theorem exists_foldlM_iff {keys : List ConfigKey} : (∃ c', keys.foldlM (setFromVariable env) c = .ok c') ↔
    ∀ k ∈ keys, c.get? k = none → ∀ text, standInText? env k = some text → (k.flagValue? text).isSome = true := by
  induction keys generalizing c with
  | nil => exact ⟨fun _ k hk => absurd hk List.not_mem_nil, fun _ => ⟨c, rfl⟩⟩
  | cons k keys ih =>
    simp only [List.foldlM_cons, bind_eq_ok_iff]
    constructor
    · rintro ⟨c', c₁, hfirst, hrest⟩ j hj hnone text htext
      by_cases hjk : j = k
      · subst hjk
        exact taken_of_setFromVariable hfirst hnone htext
      · have hlater := ih.1 ⟨c', hrest⟩ j (List.mem_of_ne_of_mem hjk hj)
        rw [get?_of_setFromVariable hfirst, if_neg hjk] at hlater
        exact hlater hnone text htext
    · intro h
      obtain ⟨c₁, hfirst⟩ := exists_setFromVariable (h k List.mem_cons_self)
      obtain ⟨c', hrest⟩ := ih.2 fun j hj hnone text htext => by
        refine h j (List.mem_cons_of_mem _ hj) ?_ text htext
        rw [get?_of_setFromVariable hfirst] at hnone
        split_ifs at hnone with hjk
        · exact hjk ▸ (Option.or_eq_none_iff.1 hnone).1
        · exact hnone
      exact ⟨c', c₁, hfirst, hrest⟩

/-- **A command line says of each key what its flag says, or, if the flag is not given, what its variable says.** -/
theorem get?_of_parse (h : parse words env = .ok c) : ∃ given, Gives words given ∧ Sound given ∧
    ∀ k, c.get? k = ((given.lookup k).bind (givenValue? k)).or (standIn? env k) := by
  obtain ⟨c₁, hread, hfold⟩ := bind_eq_ok_iff.1 h
  obtain ⟨given, hgives, henter⟩ := read_eq_ok_iff.1 hread
  obtain ⟨hsound, -, hget⟩ := enter_eq_ok henter
  refine ⟨given, hgives, hsound, fun k => ?_⟩
  rw [get?_of_foldlM hfold, if_pos k.mem_all, hget]
  simp [get?]

/-- The command lines that are taken: rows of flags, each of which is given once and with a value that it takes, and
where the variable of a flag that is not given has a value that the flag takes. -/
theorem exists_parse_iff : (∃ c, parse words env = .ok c) ↔ ∃ given, Gives words given ∧ Sound given ∧
    ∀ k, given.lookup k = none → ∀ text, standInText? env k = some text → (k.flagValue? text).isSome = true := by
  simp only [parse, bind_eq_ok_iff, read_eq_ok_iff]
  constructor
  · rintro ⟨c, c₁, ⟨given, hgives, henter⟩, hfold⟩
    obtain ⟨hsound, -, hget⟩ := enter_eq_ok henter
    refine ⟨given, hgives, hsound, fun k hnone => exists_foldlM_iff.1 ⟨c, hfold⟩ k k.mem_all ?_⟩
    rw [hget, hnone]
    rfl
  · rintro ⟨given, hgives, hsound, hvariables⟩
    obtain ⟨c₁, henter⟩ := exists_enter hsound fun g _ => (rfl : get? ⟨[]⟩ g.1 = none)
    obtain ⟨-, -, hget⟩ := enter_eq_ok henter
    have hnotGiven : ∀ k, c₁.get? k = none → given.lookup k = none := by
      intro k hnone
      rw [hget, Option.or_eq_none_iff] at hnone
      by_contra hsome
      obtain ⟨value, hvalue⟩ := Option.ne_none_iff_exists'.1 hsome
      obtain ⟨front, rest, hgiven, -⟩ := List.lookup_eq_some_iff.1 hvalue
      have htaken := hsound.taken (k, value) (by simp [hgiven])
      rw [hvalue, Option.bind_some] at hnone
      rw [hnone.1] at htaken
      cases htaken
    obtain ⟨c, hfold⟩ := exists_foldlM_iff.2 fun k _ hnone => hvariables k (hnotGiven k hnone)
    exact ⟨c, c₁, ⟨given, hgives, henter⟩, hfold⟩

end CommandLine

end DirectChat
