import DirectChat.Proofs.Store.Seen
/-!
# History windows

A window on the history of a room is read from the newest message on and turned round. Messages are told apart by
their numbers, and so the room has one order, whatever the clock did (`pairwise_log`). Every window is an end of it
(`recentMessages_eq_lastOf`), and a smaller window is an end of a larger one (`lastOf_suffix_lastOf`).
-/

namespace DirectChat

namespace Store

section Limits

variable {α : Type} {limit k m : Nat}

theorem lastOf_suffix (limit : Nat) (l : List α) : lastOf limit l <:+ l := by
  unfold lastOf
  split
  · exact List.drop_suffix _ l
  · exact List.suffix_rfl

theorem length_lastOf (h : limit < 2 ^ 63) (l : List α) : (lastOf limit l).length = min limit l.length := by
  rw [lastOf_eq_drop h, List.length_drop]
  omega

theorem lastOf_of_le (h : 2 ^ 63 ≤ limit) (l : List α) : lastOf limit l = l := if_neg (Nat.not_lt.2 h)

/-- Two ends of a list are one inside the other. -/
theorem lastOf_suffix_lastOf (hk : k ≤ m) (hm : m < 2 ^ 63) (l : List α) : lastOf k l <:+ lastOf m l := by
  refine List.suffix_of_suffix_length_le (lastOf_suffix k l) (lastOf_suffix m l) ?_
  rw [length_lastOf (Nat.lt_of_le_of_lt hk hm), length_lastOf hm]
  omega

end Limits

variable {s : Store}

theorem nodup_ids_log (hkey : s.numbers.Nodup) (room : RoomId) : ((s.log room).map (·.id)).Nodup :=
  ((s.log_perm room).map _).nodup_iff.2 (hkey.sublist (List.filter_sublist.map _))

/-- However the clock went, a log has each message behind all that are older. -/
theorem pairwise_log (hkey : s.numbers.Nodup) (room : RoomId) : (s.log room).Pairwise StoredMessage.Older := by
  have hsorted : (s.log room).Pairwise fun m n => m.before n = true :=
    List.pairwise_mergeSort StoredMessage.before_trans StoredMessage.before_total _
  refine hsorted.imp₂ (fun m n hmn hne => ?_) (List.pairwise_map.1 (nodup_ids_log hkey room))
  rw [StoredMessage.before_iff] at hmn
  simp only [StoredMessage.Older]
  omega

/-- A window shows the end of the log, whatever the clock did. -/
theorem recentMessages_eq_lastOf (hready : s.require [.messages] = .ok ()) (hkey : s.numbers.Nodup) (room : RoomId)
    (limit : Nat) : s.recentMessages room limit = .ok ((lastOf limit (s.log room)).map StoredMessage.load) :=
  recentMessages_of_sorted hready (s.log_perm room) (pairwise_log hkey room) limit

/-- **History windows nest.** In a table of messages with any moments, in any order, in which no two have one number, the
messages of a room have one order by moment and number. A window of a limit that is a number of 64 bits with a sign can
always be read. It is the end of the room's messages in that order, as long as the limit says or all of them; it shows no
message twice and none of another room; and every smaller window is the end of it, as long as its own limit says. From
`2 ^ 63` on a limit shows everything. -/
theorem history_windows_nest (hready : s.require [.messages] = .ok ()) (hkey : s.numbers.Nodup) (room : RoomId) :
    ∃ log : List StoredMessage, log.Perm (s.messages.filter (·.room = room)) ∧ log.Pairwise StoredMessage.Older ∧
      (∀ m < 2 ^ 63, ∃ window, s.recentMessages room m = .ok window ∧
        window <:+ log.map StoredMessage.load ∧ window.length = min m log.length ∧
        (window.map (·.id)).Nodup ∧ (∀ message ∈ window, message.room = room) ∧
        ∀ k ≤ m, ∃ inner, s.recentMessages room k = .ok inner ∧
          inner <:+ window ∧ inner.length = min k log.length) ∧
      ∀ limit, 2 ^ 63 ≤ limit → s.recentMessages room limit = .ok (log.map StoredMessage.load) := by
  have hread := recentMessages_eq_lastOf hready hkey room
  refine ⟨s.log room, s.log_perm room, pairwise_log hkey room, fun m hm => ?_, fun limit hlimit => ?_⟩
  · refine ⟨_, hread m, (lastOf_suffix m _).map _, ?_, ?_, fun message => room_of_mem_recentMessages (hread m),
      fun k hk => ⟨_, hread k, (lastOf_suffix_lastOf hk hm _).map _, ?_⟩⟩
    · rw [List.length_map, length_lastOf hm]
    · rw [List.map_map]
      exact (nodup_ids_log hkey room).sublist ((lastOf_suffix m _).sublist.map _)
    · rw [List.length_map, length_lastOf (Nat.lt_of_le_of_lt hk hm)]
  · rw [hread, lastOf_of_le hlimit]

/-- Two messages are of one moment, the clock then goes back, and one message is of another room. -/
theorem history_windows_nest_clock_back :
    let s : Store := { Store.empty with
      messages := [⟨1, "r", 1, "ann", some "a", none, false, none, 9⟩, ⟨2, "r", 2, "bob", some "b", none, true, none, 9⟩,
        ⟨3, "q", 1, "ann", none, some "n.ogg", false, none, 9⟩, ⟨4, "r", 2, "bob", some "c", none, false, none, -7⟩] }
    s.require [.messages] = .ok () ∧ s.numbers.Nodup ∧
      (s.newestFirst "r").map (·.id) = [2, 1, 4] ∧
      ∃ log : List StoredMessage, log.Perm (s.messages.filter (·.room = "r")) ∧ log.Pairwise StoredMessage.Older ∧
        (∀ m < 2 ^ 63, ∃ window, s.recentMessages "r" m = .ok window ∧
          window <:+ log.map StoredMessage.load ∧ window.length = min m log.length ∧
          (window.map (·.id)).Nodup ∧ (∀ message ∈ window, message.room = "r") ∧
          ∀ k ≤ m, ∃ inner, s.recentMessages "r" k = .ok inner ∧
            inner <:+ window ∧ inner.length = min k log.length) ∧
        ∀ limit, 2 ^ 63 ≤ limit → s.recentMessages "r" limit = .ok (log.map StoredMessage.load) := by
  intro s
  have hready : s.require [.messages] = .ok () := rfl
  have hkey : s.numbers.Nodup := by decide
  have hlog : [s.messages[3], s.messages[0], s.messages[1]].Perm (s.rows "r") := by decide
  have hnewest : (s.newestFirst "r").map (·.id) = [2, 1, 4] := by
    rw [newestFirst_of_sorted hlog (by simp [s, StoredMessage.Older])]
    rfl
  exact ⟨hready, hkey, hnewest, history_windows_nest hready hkey "r"⟩

end Store

end DirectChat
