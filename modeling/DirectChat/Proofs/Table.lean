import DirectChat.Table
import Mathlib.Data.List.Dedup
/-!
# What a finite map holds

A look-up finds exactly the entries of the list (`get?_eq_some_iff`). As every key stands there once,
two tables with the same look-ups hold the same entries in some order (`perm_of_get?_eq`), and the
keys of a table are, in some order, any list without repetition of what can be looked up
(`keys_perm`).
-/

namespace DirectChat

namespace Table

variable {κ α : Type}

theorem nodup_entries (t : Table κ α) : t.entries.Nodup := t.nodup.of_map _

theorem length_keys (t : Table κ α) : t.keys.length = t.size := List.length_map _

theorem eq_of_entries {t u : Table κ α} (h : t.entries = u.entries) : t = u := by
  cases t
  cases u
  congr

variable [DecidableEq κ]

theorem erase_insert (t : Table κ α) (k : κ) (a : α) : (t.insert k a).erase k = t.erase k := by
  refine eq_of_entries ?_
  simp only [insert, erase]
  rw [List.filter_cons_of_neg (by simp), List.filter_filter]
  simp only [Bool.and_self]

/-- What is put in last under a key counts. -/
theorem insert_insert (t : Table κ α) (k : κ) (a b : α) : (t.insert k a).insert k b = t.insert k b := by
  refine eq_of_entries ?_
  show (k, b) :: ((t.insert k a).erase k).entries = (k, b) :: (t.erase k).entries
  rw [erase_insert]

theorem get?_eq_some_iff (t : Table κ α) {k : κ} {a : α} : t.get? k = some a ↔ (k, a) ∈ t.entries := by
  obtain ⟨l, hl⟩ := t
  simp only [get?]
  induction l with
  | nil => simp
  | cons e l ih =>
    obtain ⟨k', a'⟩ := e
    simp only [List.map_cons, List.nodup_cons, List.mem_map, not_exists, not_and] at hl
    by_cases hk : k' = k
    · subst hk
      have hne : (k', a) ∉ l := fun h => hl.1 _ h rfl
      simp [hne, eq_comm]
    · rw [List.find?_cons_of_neg (by simpa using hk), ih hl.2]
      simp [Ne.symm hk]

theorem get?_of_mem (t : Table κ α) {e : κ × α} (h : e ∈ t.entries) : t.get? e.1 = some e.2 :=
  t.get?_eq_some_iff.2 h

/-- Tables with the same look-ups hold the same entries. -/
theorem perm_of_get?_eq {t u : Table κ α} (h : ∀ k, t.get? k = u.get? k) : t.entries.Perm u.entries := by
  refine (List.perm_ext_iff_of_nodup t.nodup_entries u.nodup_entries).2 fun e => ?_
  rw [← t.get?_eq_some_iff, ← u.get?_eq_some_iff, h]

theorem entries_perm_insert (t : Table κ α) {k : κ} {a : α} (h : t.get? k = some a) :
    t.entries.Perm ((k, a) :: (t.erase k).entries) :=
  perm_of_get?_eq (u := t.insert k a) fun k' => by
    rw [get?_insert]
    by_cases hk : k' = k <;> simp [hk, h]

theorem entries_perm_erase (t : Table κ α) {k : κ} (h : t.get? k = none) : t.entries.Perm (t.erase k).entries :=
  perm_of_get?_eq fun k' => by
    rw [get?_erase]
    by_cases hk : k' = k <;> simp [hk, h]

theorem keys_perm (t : Table κ α) {l : List κ} (hl : l.Nodup) (h : ∀ k, k ∈ l ↔ (t.get? k).isSome) :
    t.keys.Perm l :=
  (List.perm_ext_iff_of_nodup t.nodup hl).2 fun k => (t.mem_keys_iff k).trans (h k).symm

/-- The keys of the entries with a property are, in some order, any list without repetition that names
them. -/
theorem keys_filter_perm (t : Table κ α) {l : List κ} (hl : l.Nodup) {p : κ × α → Bool}
    (h : ∀ k, k ∈ l ↔ ∃ a, t.get? k = some a ∧ p (k, a) = true) :
    l.Perm ((t.entries.filter p).map Prod.fst) := by
  refine (List.perm_ext_iff_of_nodup hl ((List.filter_sublist.map Prod.fst).nodup t.nodup)).2 fun k => ?_
  rw [h]
  constructor
  · rintro ⟨a, ha, hp⟩
    exact List.mem_map.2 ⟨(k, a), List.mem_filter.2 ⟨t.get?_eq_some_iff.1 ha, hp⟩, rfl⟩
  · intro hk
    obtain ⟨⟨k', a⟩, he, rfl⟩ := List.mem_map.1 hk
    obtain ⟨hin, hp⟩ := List.mem_filter.1 he
    exact ⟨a, t.get?_eq_some_iff.2 hin, hp⟩

theorem size_eq_zero_of_get? {t : Table κ α} (h : ∀ k, t.get? k = none) : t.size = 0 := by
  have hp := t.keys_perm (l := []) (by simp) (by simp [h])
  rw [← t.length_keys, hp.length_eq, List.length_nil]

end Table

end DirectChat
