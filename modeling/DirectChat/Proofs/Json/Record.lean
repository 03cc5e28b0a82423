import DirectChat.Json.Record
/-!
# Records that are read

One step of the reading of a record is taken apart once for all (`Record.setMembers_cons`, `Record.setItems_cons`).
What every field of a record keeps, reading the record keeps (`Record.holds_of_read`); so a record that
was read has integers of 64 bits where it asks for them (`Json.isInt64_of_asInt64`).
-/

namespace DirectChat

theorem exists_of_map_eq_ok {ε α β : Type} {x : Except ε α} {g : α → β} {b : β} (h : x.map g = .ok b) :
    ∃ a, x = .ok a ∧ g a = b := by
  cases x with
  | error e => cases h
  | ok a => exact ⟨a, rfl, Except.ok.inj h⟩

namespace Json

theorem isInt64_of_asInt64 {v : Json} {i : Int} (h : v.asInt64 = .ok i) : isInt64 i = true := by
  unfold asInt64 at h
  split at h
  · split at h
    · rename_i hrange
      cases h
      exact hrange
    · cases h
  · cases h

theorem asInt64_int {i : Int} (h : isInt64 i = true) : (int i).asInt64 = .ok i := by
  rw [int, asInt64, if_pos h]

theorem eq_ok_of_orNull {α : Type} {read : Json → Except Fault α} {v : Json} {a : α}
    (h : orNull read v = .ok (some a)) : read v = .ok a := by
  unfold orNull at h
  split at h
  · cases h
  · cases hr : read v with
    | error e => rw [hr] at h; cases h
    | ok b =>
      rw [hr] at h
      cases h
      rfl

end Json

namespace Record

variable {α : Type} {P : α → Prop}

/-- The keys of a record, in the order of its fields. -/
def keys (r : Record α) : List String := r.fields.map (·.key)

/-- What happens to the first member: its key is no field's, or one of a field that was not set before. -/
theorem setMembers_cons {r : Record α} {m : JsonText × Json} {members : List (JsonText × Json)} {seen seen' : List String}
    {a b : α} (h : r.setMembers (m :: members) seen a = .ok (b, seen')) :
    ∃ k, m.1 = some k ∧
      ((k ∉ r.keys ∧ r.setMembers members seen a = .ok (b, seen')) ∨
        ∃ f ∈ r.fields, f.key = k ∧ k ∉ seen ∧
          ∃ a', f.set m.2 a = .ok a' ∧ r.setMembers members (k :: seen) a' = .ok (b, seen')) := by
  obtain ⟨k, v⟩ := m
  cases k with
  | none => cases h
  | some k =>
    refine ⟨k, rfl, ?_⟩
    rw [setMembers] at h
    split at h
    · rename_i hnone
      refine .inl ⟨fun hk => ?_, h⟩
      obtain ⟨f, hf, rfl⟩ := List.mem_map.1 hk
      exact absurd (List.find?_eq_none.1 hnone f hf) (by simp)
    · rename_i f hf
      have hkey : f.key = k := by simpa using List.find?_some hf
      split at h
      · cases h
      · rename_i hseen
        split at h
        · cases h
        · rename_i a' ha'
          exact .inr ⟨f, List.mem_of_find?_eq_some hf, hkey, by simpa using hseen, a', ha', h⟩

theorem setItems_cons {f : Field α} {fs : List (Field α)} {v : Json} {vs : List Json} {a b : α}
    (h : setItems (f :: fs) (v :: vs) a = .ok b) : ∃ a', f.set v a = .ok a' ∧ setItems fs vs a' = .ok b := by
  rw [setItems] at h
  split at h
  · cases h
  · rename_i a' ha'
    exact ⟨a', ha', h⟩

/-- A field that keeps a property of the record it is set in. -/
def Keeps (P : α → Prop) (f : Field α) : Prop := ∀ v a b, P a → f.set v a = .ok b → P b

theorem holds_of_setMembers {r : Record α} (hr : ∀ f ∈ r.fields, Keeps P f) {members : List (JsonText × Json)}
    {seen keys : List String} {a b : α} (ha : P a) (h : r.setMembers members seen a = .ok (b, keys)) : P b := by
  induction members generalizing seen a with
  | nil =>
    cases h
    exact ha
  | cons m ms ih =>
    obtain ⟨_, -, ⟨-, h⟩ | ⟨f, hf, -, -, a', ha', h⟩⟩ := setMembers_cons h
    · exact ih ha h
    · exact ih (hr f hf m.2 a a' ha ha') h

theorem holds_of_setItems {fields : List (Field α)} (hf : ∀ f ∈ fields, Keeps P f) {items : List Json} {a b : α}
    (ha : P a) (h : setItems fields items a = .ok b) : P b := by
  induction fields generalizing items a with
  | nil =>
    cases items with
    | nil =>
      cases h
      exact ha
    | cons v vs => cases h
  | cons f fs ih =>
    cases items with
    | nil =>
      rw [setItems] at h
      split at h
      · cases h
        exact ha
      · cases h
    | cons v vs =>
      obtain ⟨a', ha', h⟩ := setItems_cons h
      refine ih (fun g hg => hf g (List.mem_cons_of_mem _ hg)) ?_ h
      exact hf f (List.mem_cons_self ..) v a a' ha ha'

theorem holds_of_ofJson {r : Record α} (hblank : P r.blank) (hr : ∀ f ∈ r.fields, Keeps P f) {v : Json} {a : α}
    (h : r.ofJson v = .ok a) : P a := by
  unfold ofJson at h
  split at h
  · unfold ofMembers at h
    split at h
    · cases h
    · rename_i b keys hset
      split at h
      · cases h
        exact holds_of_setMembers hr hblank hset
      · cases h
  · exact holds_of_setItems hr hblank h
  · cases h

/-- What the blank record has and every field keeps, a record that was read has. -/
theorem ofJson_of_read {r : Record α} {s : String} {a : α} (h : r.read? s = some a) :
    ∃ v, Json.parse? s = some v ∧ r.ofJson v = .ok a := by
  obtain ⟨v, hparse, hv⟩ := Option.bind_eq_some_iff.1 h
  cases hj : r.ofJson v with
  | error e => rw [hj] at hv; cases hv
  | ok b =>
    rw [hj] at hv
    cases hv
    exact ⟨v, hparse, hj⟩

theorem holds_of_read {r : Record α} (hblank : P r.blank) (hr : ∀ f ∈ r.fields, Keeps P f) {s : String} {a : α}
    (h : r.read? s = some a) : P a := by
  obtain ⟨v, -, hv⟩ := ofJson_of_read h
  exact holds_of_ofJson hblank hr hv

end Record

end DirectChat
