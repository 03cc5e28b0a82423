/-!
# Finite maps

A table is the list of its entries, with each key once; the entry put in last comes first. Looking
up what an operation left behind is one lemma for each operation (`get?_insert`, `get?_erase`), so
that the list itself need not be opened again.
-/

namespace DirectChat

/-- A finite map from `κ` to `α`. -/
structure Table (κ α : Type) where
  entries : List (κ × α)
  nodup : (entries.map Prod.fst).Nodup

namespace Table

variable {κ α : Type}

/-- The table without entries. -/
def empty : Table κ α := ⟨[], by simp⟩

instance : Inhabited (Table κ α) := ⟨empty⟩

/-- How many keys have an entry. -/
def size (t : Table κ α) : Nat := t.entries.length

/-- The keys that have an entry. -/
def keys (t : Table κ α) : List κ := t.entries.map Prod.fst

/-- The values of all entries. -/
def values (t : Table κ α) : List α := t.entries.map Prod.snd

/-- Changes every value. -/
def mapValues (t : Table κ α) (f : κ → α → α) : Table κ α where
  entries := t.entries.map fun e => (e.1, f e.1 e.2)
  nodup := by
    have h : (t.entries.map fun e => (e.1, f e.1 e.2)).map Prod.fst = t.entries.map Prod.fst := by
      simp [List.map_map, Function.comp_def]
    rw [h]
    exact t.nodup

variable [DecidableEq κ]

/-- The value at a key. -/
def get? (t : Table κ α) (k : κ) : Option α :=
  (t.entries.find? fun e => e.1 = k).map Prod.snd

/-- Whether a key has an entry. -/
def contains (t : Table κ α) (k : κ) : Bool := (t.get? k).isSome

/-- The table without the entry at a key. -/
def erase (t : Table κ α) (k : κ) : Table κ α where
  entries := t.entries.filter fun e => e.1 ≠ k
  nodup := (List.filter_sublist.map Prod.fst).nodup t.nodup

/-- The table with the given value at a key. -/
def insert (t : Table κ α) (k : κ) (a : α) : Table κ α where
  entries := (k, a) :: (t.erase k).entries
  nodup := by
    rw [List.map_cons, List.nodup_cons]
    refine ⟨?_, (t.erase k).nodup⟩
    simp [erase]

/-- Changes the value at a key, if there is one. -/
def modify (t : Table κ α) (k : κ) (f : α → α) : Table κ α :=
  t.mapValues fun k' a => if k' = k then f a else a

/-! ## What the operations leave behind -/

@[simp] theorem get?_empty (k : κ) : (empty : Table κ α).get? k = none := rfl

theorem find?_filter_ne (l : List (κ × α)) {k k' : κ} (h : k' ≠ k) :
    (l.filter fun e => e.1 ≠ k).find? (fun e => e.1 = k') = l.find? fun e => e.1 = k' := by
  induction l with
  | nil => rfl
  | cons e l ih =>
    by_cases hk : e.1 = k
    · have hk' : e.1 ≠ k' := fun he => h (he ▸ hk)
      rw [List.filter_cons_of_neg (by simp [hk]), ih, List.find?_cons_of_neg (by simp [hk'])]
    · rw [List.filter_cons_of_pos (by simp [hk])]
      by_cases hk' : e.1 = k'
      · rw [List.find?_cons_of_pos (by simp [hk']), List.find?_cons_of_pos (by simp [hk'])]
      · rw [List.find?_cons_of_neg (by simp [hk']), List.find?_cons_of_neg (by simp [hk']), ih]

theorem get?_erase (t : Table κ α) (k k' : κ) :
    (t.erase k).get? k' = if k' = k then none else t.get? k' := by
  by_cases h : k' = k
  · subst h
    simp [get?, erase]
  · rw [if_neg h]
    exact congrArg _ (find?_filter_ne t.entries h)

@[simp] theorem get?_erase_self (t : Table κ α) (k : κ) : (t.erase k).get? k = none := by
  simp [get?_erase]

theorem get?_insert (t : Table κ α) (k : κ) (a : α) (k' : κ) :
    (t.insert k a).get? k' = if k' = k then some a else t.get? k' := by
  by_cases h : k' = k
  · subst h
    simp [get?, insert]
  · rw [if_neg h]
    have hne : k ≠ k' := fun e => h e.symm
    show (List.find? (fun e => decide (e.1 = k')) ((k, a) :: (t.erase k).entries)).map Prod.snd = _
    rw [List.find?_cons_of_neg (by simp [hne])]
    exact congrArg _ (find?_filter_ne t.entries h)

@[simp] theorem get?_insert_self (t : Table κ α) (k : κ) (a : α) :
    (t.insert k a).get? k = some a := by
  simp [get?_insert]

theorem get?_mapValues (t : Table κ α) (f : κ → α → α) (k : κ) :
    (t.mapValues f).get? k = (t.get? k).map (f k) := by
  obtain ⟨l, hl⟩ := t
  simp only [get?, mapValues]
  clear hl
  induction l with
  | nil => rfl
  | cons e l ih =>
    by_cases hk : e.1 = k
    · simp [hk]
    · simpa [hk] using ih

theorem get?_modify (t : Table κ α) (k : κ) (f : α → α) (k' : κ) :
    (t.modify k f).get? k' = if k' = k then (t.get? k').map f else t.get? k' := by
  rw [modify, get?_mapValues]
  by_cases h : k' = k
  · simp [h]
  · simp [h]

theorem mem_keys_iff (t : Table κ α) (k : κ) : k ∈ t.keys ↔ (t.get? k).isSome := by
  simp only [keys, get?, Option.isSome_map, List.mem_map]
  rw [List.find?_isSome]
  constructor
  · rintro ⟨e, he, rfl⟩
    exact ⟨e, he, by simp⟩
  · rintro ⟨e, he, hk⟩
    exact ⟨e, he, by simpa using hk⟩

end Table

end DirectChat
