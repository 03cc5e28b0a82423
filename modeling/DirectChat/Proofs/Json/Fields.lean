import DirectChat.Proofs.Json.Record
import Mathlib.Data.List.Nodup
/-!
# Records by their fields

What a value says about a record, field by field: the values it gives for a field (`Json.given`) and what they say
(`Gives`). Where each field of a record shows one part of it (`Record.Shows`), the reader of the record goes by
exactly that: what was read says each part (`Record.gives_of_ofJson`), and what says every part is read
(`Record.exists_of_ofJson`).
-/

namespace DirectChat

namespace Json

/-- The values given for a field of a record with the given keys: in an object those under its key, in an array the item
at its place. -/
def given (keys : List String) (key : String) : Json → List Json
  | .obj members => (members.filter fun m => m.1 == some key).map Prod.snd
  | .arr items => (items[keys.idxOf key]?).toList
  | _ => []

/-- A value that a record can be read from: an object with keys of characters, or an array of not too many items. -/
def HasFields (keys : List String) : Json → Prop
  | .obj members => ∀ m ∈ members, m.1 ≠ none
  | .arr items => items.length ≤ keys.length
  | _ => False

/-- A string of characters. -/
def IsText (v : Json) (s : String) : Prop := v = .str (some s)

/-- An integer literal of 64 bits. -/
def IsInteger (v : Json) (i : Int) : Prop := v = .num (.int i) ∧ isInt64 i = true

/-- A value or `null`. -/
def IsOptional {β : Type} (Is : Json → β → Prop) (v : Json) : Option β → Prop
  | none => v = .null
  | some b => Is v b

/-- What keeps a value from being read as a record with the given keys, some of which are of fields that are no options,
and some of fields that hold integers. -/
inductive Faulty (keys plain integers : List String) (v : Json) : Prop
  /-- A field is given twice. -/
  | repeated {key : String} : key ∈ keys → 2 ≤ (v.given keys key).length → Faulty keys plain integers v
  /-- A field that is no option is given as `null`. -/
  | null {key : String} : key ∈ plain → .null ∈ v.given keys key → Faulty keys plain integers v
  /-- What is given for an integer is another thing. -/
  | other {key : String} {w : Json} : key ∈ integers → w ∈ v.given keys key → w ≠ .null → (∀ i, ¬ w.IsInteger i) →
      Faulty keys plain integers v
  /-- There are more items than fields. -/
  | tooMany {items : List Json} : v = .arr items → keys.length < items.length → Faulty keys plain integers v

theorem not_faulty_null {keys plain integers : List String} : ¬ Faulty keys plain integers .null := by
  rintro (⟨_, hlength⟩ | ⟨_, hnull⟩ | ⟨_, hw, -, -⟩ | ⟨h, _⟩)
  · exact Nat.not_succ_le_zero 1 hlength
  · cases hnull
  · cases hw
  · cases h

theorem asText_eq_ok_iff {v : Json} {s : String} : v.asText = .ok s ↔ v.IsText s := by
  unfold asText IsText
  split <;> simp_all

theorem asInt64_eq_ok_iff {v : Json} {i : Int} : v.asInt64 = .ok i ↔ v.IsInteger i := by
  constructor
  · intro h
    unfold asInt64 at h
    split at h
    · split at h <;> cases h
      exact ⟨rfl, ‹_›⟩
    · cases h
  · rintro ⟨rfl, hi⟩
    exact asInt64_int hi

theorem orNull_eq_ok_iff {β : Type} {read : Json → Except Fault β} {Is : Json → β → Prop}
    (hread : ∀ v b, read v = .ok b ↔ Is v b) (hnull : ∀ b, ¬ Is .null b) {v : Json} {x : Option β} :
    orNull read v = .ok x ↔ IsOptional Is v x := by
  by_cases hv : v = .null
  · subst hv
    cases x with
    | none => exact ⟨fun _ => rfl, fun _ => rfl⟩
    | some b => exact ⟨fun h => (by cases h), fun h => absurd h (hnull b)⟩
  · have horNull : orNull read v = (read v).map some := by
      unfold orNull
      split
      · exact absurd rfl hv
      · rfl
    rw [horNull]
    cases x with
    | none =>
      refine ⟨fun h => ?_, fun h => absurd h hv⟩
      obtain ⟨b, -, hb⟩ := exists_of_map_eq_ok h
      cases hb
    | some b =>
      refine ⟨fun h => ?_, fun h => ?_⟩
      · obtain ⟨b', hb', heq⟩ := exists_of_map_eq_ok h
        cases heq
        exact (hread v b).1 hb'
      · rw [(hread v b).2 h]
        rfl

theorem orNull_asText_eq_ok_iff {v : Json} {x : Option String} : orNull asText v = .ok x ↔ IsOptional IsText v x :=
  orNull_eq_ok_iff (fun _ _ => asText_eq_ok_iff) (fun _ h => by cases h)

theorem orNull_asInt64_eq_ok_iff {v : Json} {x : Option Int} : orNull asInt64 v = .ok x ↔ IsOptional IsInteger v x :=
  orNull_eq_ok_iff (fun _ _ => asInt64_eq_ok_iff) (fun _ h => by cases h.1)

/-- What a reader reads is one thing. -/
theorem unique_of_read {β : Type} {read : Json → Except Fault β} {Is : Json → β → Prop}
    (hread : ∀ v b, read v = .ok b ↔ Is v b) (v : Json) (b b' : β) (h : Is v b) (h' : Is v b') : b = b' := by
  rw [← hread] at h h'
  exact Except.ok.inj (h.symm.trans h')

theorem given_cons (keys : List String) (key k : String) (v : Json) (ms : List (JsonText × Json)) :
    given keys key (.obj ((some k, v) :: ms)) =
      if k = key then v :: given keys key (.obj ms) else given keys key (.obj ms) := by
  by_cases h : k = key <;> simp [given, h]

theorem given_head (keys : List String) (key : String) (v : Json) (vs : List Json) :
    given (key :: keys) key (.arr (v :: vs)) = [v] := by
  simp [given]

theorem given_tail (keys : List String) {k key : String} (h : k ≠ key) (v : Json) (vs : List Json) :
    given (k :: keys) key (.arr (v :: vs)) = given keys key (.arr vs) := by
  simp [given, List.idxOf_cons_ne _ h]

end Json

/-- What the values given for a field say: none, and it has its default; one, and that says it. A field that is given
twice says nothing. -/
def Gives {β : Type} (Is : Json → β → Prop) (default : β) : List Json → β → Prop
  | [], b => b = default
  | [v], b => Is v b
  | _, _ => False

section
variable {β : Type} {Is : Json → β → Prop} {default b b' : β} {vs : List Json}

theorem Gives.length_le (h : Gives Is default vs b) : vs.length ≤ 1 := by
  rcases vs with _ | ⟨v, _ | ⟨w, ws⟩⟩
  · exact Nat.zero_le 1
  · exact Nat.le_refl 1
  · exact absurd h id

theorem Gives.of_mem (h : Gives Is default vs b) {v : Json} (hv : v ∈ vs) : Is v b := by
  rcases vs with _ | ⟨w, _ | ⟨w', ws⟩⟩
  · cases hv
  · rw [List.mem_singleton.1 hv]
    exact h
  · exact absurd h id

theorem Gives.unique (hIs : ∀ v b b', Is v b → Is v b' → b = b') (h : Gives Is default vs b)
    (h' : Gives Is default vs b') : b = b' := by
  rcases vs with _ | ⟨v, _ | ⟨w, ws⟩⟩
  · exact Eq.trans h (Eq.symm h')
  · exact hIs v b b' h h'
  · exact absurd h id

end

namespace Record

variable {α β : Type}

theorem length_keys (r : Record α) : r.keys.length = r.fields.length := List.length_map _

/-- A field can be set to a value. -/
def Takes (f : Field α) (v : Json) : Prop := ∀ a, ∃ b, f.set v a = .ok b

/-- The field of a key sets one part of the record, to what the value says, and no other field touches it. -/
structure Shows (r : Record α) (key : String) (get : α → β) (Is : Json → β → Prop) : Prop where
  sets : ∀ f ∈ r.fields, f.key = key → ∀ v a b, f.set v a = .ok b → Is v (get b)
  keeps : ∀ f ∈ r.fields, f.key ≠ key → ∀ v a b, f.set v a = .ok b → get b = get a
  takes : ∀ f ∈ r.fields, f.key = key → ∀ v x, Is v x → Takes f v

section
variable {r : Record α} {f : Field α} {key : String} {get : α → β} {Is : Json → β → Prop} {a b : α} {v : Json}
  {members : List (JsonText × Json)} {m : JsonText × Json} {items : List Json} {seen seen' : List String}

/-- A field that reads a value and puts it in its place. -/
theorem shows_of_read (hr : r.keys.Nodup) (n : Nat) (hn : r.fields[n]? = some f) {read : Json → Except Fault β}
    {put : β → α → α}
    (hset : ∀ v a, f.set v a = (read v).map fun x => put x a) (hget : ∀ x a, get (put x a) = x)
    (hread : ∀ v x, read v = .ok x ↔ Is v x)
    (hkeeps : ∀ g ∈ r.fields, g.key ≠ f.key → ∀ v a b, g.set v a = .ok b → get b = get a) : r.Shows f.key get Is where
  sets g hg hkey v a b h := by
    obtain rfl := List.inj_on_of_nodup_map hr hg (List.mem_of_getElem? hn) hkey
    rw [hset] at h
    obtain ⟨x, hx, rfl⟩ := exists_of_map_eq_ok h
    rw [hget]
    exact (hread v x).1 hx
  keeps := hkeeps
  takes g hg hkey v x hx a := by
    obtain rfl := List.inj_on_of_nodup_map hr hg (List.mem_of_getElem? hn) hkey
    exact ⟨put x a, by rw [hset, (hread v x).2 hx]; rfl⟩

/-- A field that was set is not given again. -/
theorem given_of_seen (hkey : key ∈ r.keys) (h : r.Shows key get Is) (hseen : key ∈ seen)
    (hset : r.setMembers members seen a = .ok (b, seen')) :
    Json.given r.keys key (.obj members) = [] ∧ get b = get a := by
  induction members generalizing seen a with
  | nil =>
    cases hset
    exact ⟨rfl, rfl⟩
  | cons m ms ih =>
    obtain ⟨k, v⟩ := m
    obtain ⟨k, rfl, ⟨hk, hset⟩ | ⟨f, hf, rfl, hnew, a', ha', hset⟩⟩ := setMembers_cons hset
    · have hne : k ≠ key := fun hk' => hk (hk' ▸ hkey)
      rw [Json.given_cons, if_neg hne]
      exact ih hseen hset
    · have hne : f.key ≠ key := fun hk => hnew (hk ▸ hseen)
      rw [Json.given_cons, if_neg hne, ← h.keeps f hf hne _ _ _ ha']
      exact ih (List.mem_cons_of_mem _ hseen) hset

theorem gives_of_setMembers (hkey : key ∈ r.keys) (h : r.Shows key get Is) (hseen : key ∉ seen)
    (hset : r.setMembers members seen a = .ok (b, seen')) :
    Gives Is (get a) (Json.given r.keys key (.obj members)) (get b) := by
  induction members generalizing seen a with
  | nil =>
    cases hset
    rfl
  | cons m ms ih =>
    obtain ⟨k, v⟩ := m
    obtain ⟨k, rfl, ⟨hk, hset⟩ | ⟨f, hf, rfl, -, a', ha', hset⟩⟩ := setMembers_cons hset
    · have hne : k ≠ key := fun hk' => hk (hk' ▸ hkey)
      rw [Json.given_cons, if_neg hne]
      exact ih hseen hset
    · by_cases hf' : f.key = key
      · obtain ⟨hnone, hget⟩ := given_of_seen hkey h (hf' ▸ List.mem_cons_self) hset
        rw [Json.given_cons, if_pos hf', hnone, hget]
        exact h.sets f hf hf' _ _ _ ha'
      · rw [Json.given_cons, if_neg hf', ← h.keeps f hf hf' _ _ _ ha']
        exact ih (by simp [hseen, Ne.symm hf']) hset

theorem gives_of_setItems {fields : List (Field α)} (hsub : ∀ f ∈ fields, f ∈ r.fields)
    (hnodup : (fields.map (·.key)).Nodup) (hkey : key ∈ fields.map (·.key)) (h : r.Shows key get Is)
    (hset : setItems fields items a = .ok b) :
    Gives Is (get a) (Json.given (fields.map (·.key)) key (.arr items)) (get b) := by
  induction fields generalizing items a with
  | nil => cases hkey
  | cons f fs ih =>
    obtain ⟨hf, hsub⟩ := List.forall_mem_cons.1 hsub
    obtain ⟨hfirst, hnodup⟩ := List.nodup_cons.1 hnodup
    cases items with
    | nil =>
      rw [setItems] at hset
      split at hset <;> cases hset
      rfl
    | cons v vs =>
      obtain ⟨a', ha', hset⟩ := setItems_cons hset
      by_cases hf' : f.key = key
      · have hkeep : ∀ g ∈ fs, Keeps (fun c => get c = get a') g := fun g hg w c d hc hd =>
          (h.keeps g (hsub g hg) (fun hk => hfirst (List.mem_map.2 ⟨g, hg, hk.trans hf'.symm⟩)) w c d hd).trans hc
        have hget : get b = get a' := holds_of_setItems hkeep rfl hset
        subst hf'
        rw [List.map_cons, Json.given_head, hget]
        exact h.sets f hf rfl _ _ _ ha'
      · have hkey' : key ∈ fs.map (·.key) := (List.mem_cons.1 hkey).resolve_left fun hk => hf' hk.symm
        have hrest := ih hsub hnodup hkey' hset
        rw [h.keeps f hf hf' _ _ _ ha'] at hrest
        rwa [List.map_cons, Json.given_tail _ hf']

/-- **What was read says each part of the record**, in both ways in which a record is written. -/
theorem gives_of_ofJson (hr : r.keys.Nodup) (hkey : key ∈ r.keys) (h : r.Shows key get Is)
    (hread : r.ofJson v = .ok a) : Gives Is (get r.blank) (v.given r.keys key) (get a) := by
  unfold ofJson at hread
  split at hread
  · unfold ofMembers at hread
    split at hread
    · cases hread
    · rename_i b seen hset
      split at hread <;> cases hread
      exact gives_of_setMembers hkey h List.not_mem_nil hset
  · exact gives_of_setItems (fun _ => id) hr hkey h hread
  · cases hread

theorem keys_of_setMembers (hset : r.setMembers members seen a = .ok (b, seen')) : ∀ m ∈ members, m.1 ≠ none := by
  induction members generalizing seen a with
  | nil => exact fun _ hm => absurd hm List.not_mem_nil
  | cons m ms ih =>
    obtain ⟨k, hk, hset⟩ := setMembers_cons hset
    refine List.forall_mem_cons.2 ⟨by rw [hk]; exact nofun, ?_⟩
    rcases hset with ⟨-, hset⟩ | ⟨_, _, _, _, _, _, hset⟩
    · exact ih hset
    · exact ih hset

theorem length_of_setItems {fields : List (Field α)} (hset : setItems fields items a = .ok b) :
    items.length ≤ fields.length := by
  induction fields generalizing items a with
  | nil =>
    cases items with
    | nil => exact Nat.le_refl 0
    | cons v vs => cases hset
  | cons g gs ih =>
    cases items with
    | nil => exact Nat.zero_le _
    | cons v vs =>
      obtain ⟨_, -, hset⟩ := setItems_cons hset
      exact Nat.succ_le_succ (ih hset)

theorem hasFields_of_ofJson (hread : r.ofJson v = .ok a) : v.HasFields r.keys := by
  unfold ofJson at hread
  split at hread
  · unfold ofMembers at hread
    split at hread
    · cases hread
    · rename_i hset
      exact keys_of_setMembers hset
  · rw [Json.HasFields, length_keys]
    exact length_of_setItems hread
  · cases hread

/-! ## What says every part is read -/

theorem exists_of_setMembers (hkeys : ∀ m ∈ members, m.1 ≠ none)
    (htakes : ∀ f ∈ r.fields, ∀ v ∈ Json.given r.keys f.key (.obj members), Takes f v)
    (honce : ∀ f ∈ r.fields, (Json.given r.keys f.key (.obj members)).length ≤ if f.key ∈ seen then 0 else 1) (a : α) :
    ∃ b seen', r.setMembers members seen a = .ok (b, seen') := by
  induction members generalizing seen a with
  | nil => exact ⟨a, seen, rfl⟩
  | cons m ms ih =>
    obtain ⟨k, v⟩ := m
    obtain ⟨hk, hrest⟩ := List.forall_mem_cons.1 hkeys
    obtain ⟨k, rfl⟩ := Option.ne_none_iff_exists'.1 hk
    simp only [Json.given_cons] at htakes honce
    rw [setMembers]
    cases hfind : r.fields.find? (·.key == k) with
    | none =>
      have hne : ∀ f ∈ r.fields, k ≠ f.key := fun f hf hkey => by
        simpa [hkey] using List.find?_eq_none.1 hfind f hf
      refine ih hrest (fun f hf => ?_) (fun f hf => ?_) a
      · have h := htakes f hf
        rwa [if_neg (hne f hf)] at h
      · have h := honce f hf
        rwa [if_neg (hne f hf)] at h
    | some g =>
      have hg := List.mem_of_find?_eq_some hfind
      obtain rfl : g.key = k := by simpa using List.find?_some hfind
      have hfirst := honce g hg
      rw [if_pos rfl, List.length_cons] at hfirst
      have hnew : g.key ∉ seen := fun hseen => by
        rw [if_pos hseen] at hfirst
        omega
      have htake := htakes g hg v (by rw [if_pos rfl]; exact List.mem_cons_self)
      obtain ⟨b, hb⟩ := htake a
      simp only [hb, List.contains_iff_mem, hnew, if_false]
      refine ih hrest (fun f hf w hw => htakes f hf w ?_) (fun f hf => ?_) b
      · split
        · exact List.mem_cons_of_mem _ hw
        · exact hw
      · have h := honce f hf
        by_cases hkey : g.key = f.key
        · rw [if_pos hkey, List.length_cons] at h
          rw [if_pos (hkey ▸ List.mem_cons_self)]
          split at h <;> omega
        · rw [if_neg hkey] at h
          simpa [Ne.symm hkey] using h

theorem exists_of_setItems {fields : List (Field α)} (hnodup : (fields.map (·.key)).Nodup)
    (hdefault : ∀ f ∈ fields, f.absence = .defaulted) (hlength : items.length ≤ fields.length)
    (htakes : ∀ f ∈ fields, ∀ v ∈ Json.given (fields.map (·.key)) f.key (.arr items), Takes f v) (a : α) :
    ∃ b, setItems fields items a = .ok b := by
  induction fields generalizing items a with
  | nil =>
    obtain rfl := List.length_eq_zero_iff.1 (Nat.le_zero.1 hlength)
    exact ⟨a, rfl⟩
  | cons g gs ih =>
    obtain ⟨hg, hnodup⟩ := List.nodup_cons.1 hnodup
    cases items with
    | nil =>
      have hall : (g :: gs).all (·.absence == .defaulted) = true :=
        List.all_eq_true.2 fun f hf => by rw [hdefault f hf]; rfl
      rw [setItems, if_pos hall]
      exact ⟨a, rfl⟩
    | cons v vs =>
      have hv : v ∈ Json.given ((g :: gs).map (·.key)) g.key (.arr (v :: vs)) := by
        rw [List.map_cons, Json.given_head]
        exact List.mem_singleton_self v
      obtain ⟨b, hb⟩ := htakes g List.mem_cons_self v hv a
      simp only [setItems, hb]
      refine ih hnodup (fun f hf => hdefault f (List.mem_cons_of_mem _ hf)) (Nat.le_of_succ_le_succ hlength)
        (fun f hf w hw => htakes f (List.mem_cons_of_mem _ hf) w ?_) b
      have hne : g.key ≠ f.key := fun hkey => hg (List.mem_map.2 ⟨f, hf, hkey.symm⟩)
      rwa [List.map_cons, Json.given_tail _ hne]

/-- A value gives a field at most once, and only what the field takes. -/
def Suits (r : Record α) (f : Field α) (v : Json) : Prop :=
  (v.given r.keys f.key).length ≤ 1 ∧ ∀ w ∈ v.given r.keys f.key, Takes f w

theorem Shows.suits (h : r.Shows f.key get Is) (hf : f ∈ r.fields) {default x : β}
    (hx : Gives Is default (v.given r.keys f.key) x) : r.Suits f v :=
  ⟨hx.length_le, fun _ hw => h.takes f hf rfl _ x (hx.of_mem hw)⟩

/-- **What has fields that all suit is read as the record**, when no field has to be there. -/
theorem exists_of_ofJson (hr : r.keys.Nodup) (hdefault : ∀ f ∈ r.fields, f.absence = .defaulted)
    (hv : v.HasFields r.keys) (hsuits : ∀ f ∈ r.fields, r.Suits f v) : ∃ a, r.ofJson v = .ok a := by
  have htakes : ∀ f ∈ r.fields, ∀ w ∈ v.given r.keys f.key, Takes f w := fun f hf => (hsuits f hf).2
  cases v with
  | obj members =>
    have honce' : ∀ f ∈ r.fields, (Json.given r.keys f.key (.obj members)).length ≤ if f.key ∈ [] then 0 else 1 := by
      simpa using fun f hf => (hsuits f hf).1
    obtain ⟨b, seen, hset⟩ := exists_of_setMembers hv htakes honce' r.blank
    have hall : (r.fields.all fun f => seen.contains f.key || f.absence != .required) = true :=
      List.all_eq_true.2 fun f hf => by rw [hdefault f hf, Bool.or_eq_true]; exact .inr rfl
    refine ⟨b, ?_⟩
    rw [ofJson, ofMembers, hset]
    exact if_pos hall
  | arr items =>
    rw [Json.HasFields, length_keys] at hv
    exact exists_of_setItems hr hdefault hv htakes r.blank
  | _ => exact absurd hv id

end

end Record

end DirectChat
