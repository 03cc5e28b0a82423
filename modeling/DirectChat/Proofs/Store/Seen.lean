import DirectChat.Proofs.Store.Log
import Mathlib.Algebra.GroupWithZero.Nat
/-!
# What is seen stays seen

A receipt covers what others have written to a room up to a moment (`Receipt.Covers`), and makes of it what is
seen. The messages of the store change in three ways only, with a receipt or without one (`Store.LogBecomes`).
In each of them a message stays where it is and as it is, and once it is seen it stays so (`LogBecomes.keeps`);
and those that are seen afterwards are those that were seen before and those that the receipt counts, each
message once (`LogBecomes.seenIds`).
-/

namespace DirectChat

/-- What a viewer has seen of a room: all that others have written up to a moment. The count is that of the
messages which nobody had seen until then. -/
structure Receipt where
  room : RoomId
  viewer : UserId
  upTo : Int
  count : Nat
deriving DecidableEq, Repr

/-- Whether a receipt speaks of a message. -/
structure Receipt.Covers (c : Receipt) (m : StoredMessage) : Prop where
  room : m.room = c.room
  others : m.author ≠ c.viewer
  inTime : m.createdAt ≤ c.upTo

/-- Whether a receipt makes a message seen that was not. -/
def Receipt.isNews (c : Receipt) : StoredMessage → Bool := Store.isNewlySeen c.room c.viewer c.upTo

/-- A message after a receipt. -/
def StoredMessage.markedBy (c : Receipt) (m : StoredMessage) : StoredMessage :=
  if c.isNews m then { m with hasSeen := true } else m

/-- The same message later on, which is seen if it was seen before. -/
structure StoredMessage.Later (m m' : StoredMessage) : Prop where
  same : m'.unseen = m.unseen
  stays : m.hasSeen = true → m'.hasSeen = true

variable {c : Receipt} {m m' m'' : StoredMessage}

theorem Receipt.isNews_iff : c.isNews m = true ↔ c.Covers m ∧ m.hasSeen = false := by
  simp only [isNews, Store.isNewlySeen, Bool.and_eq_true, beq_iff_eq, bne_iff_ne, decide_eq_true_iff,
    Bool.not_eq_true']
  constructor
  · rintro ⟨⟨⟨hroom, hothers⟩, htime⟩, hunseen⟩
    exact ⟨⟨hroom, hothers, htime⟩, hunseen⟩
  · rintro ⟨⟨hroom, hothers, htime⟩, hunseen⟩
    exact ⟨⟨⟨hroom, hothers⟩, htime⟩, hunseen⟩

theorem Receipt.covers_congr (h : m'.unseen = m.unseen) : c.Covers m' ↔ c.Covers m := by
  have hroom : m'.unseen.room = m.unseen.room := by rw [h]
  have hauthor : m'.unseen.author = m.unseen.author := by rw [h]
  have htime : m'.unseen.createdAt = m.unseen.createdAt := by rw [h]
  constructor
  · rintro ⟨h₁, h₂, h₃⟩
    exact ⟨hroom.symm.trans h₁, hauthor ▸ h₂, htime ▸ h₃⟩
  · rintro ⟨h₁, h₂, h₃⟩
    exact ⟨hroom.trans h₁, hauthor.symm ▸ h₂, htime.symm ▸ h₃⟩

namespace StoredMessage

theorem unseen_markedBy (c : Receipt) (m : StoredMessage) : (m.markedBy c).unseen = m.unseen := by
  unfold markedBy
  split <;> rfl

theorem id_markedBy (c : Receipt) (m : StoredMessage) : (m.markedBy c).id = m.id := by
  unfold markedBy
  split <;> rfl

theorem hasSeen_markedBy (c : Receipt) (m : StoredMessage) :
    (m.markedBy c).hasSeen = true ↔ m.hasSeen = true ∨ c.Covers m := by
  unfold markedBy
  cases hseen : m.hasSeen with
  | true => simp [Receipt.isNews_iff, hseen]
  | false => by_cases hcovers : c.Covers m <;> simp [Receipt.isNews_iff, hseen, hcovers]

theorem Later.refl (m : StoredMessage) : m.Later m := ⟨rfl, fun hseen => hseen⟩

theorem Later.trans (h : m.Later m') (h' : m'.Later m'') : m.Later m'' :=
  ⟨h'.same.trans h.same, fun hseen => h'.stays (h.stays hseen)⟩

theorem later_markedBy (c : Receipt) (m : StoredMessage) : m.Later (m.markedBy c) :=
  ⟨m.unseen_markedBy c, fun hseen => (m.hasSeen_markedBy c).2 (.inl hseen)⟩

end StoredMessage

theorem StoredMessage.Later.id_eq (h : m.Later m') : m'.id = m.id := by
  have hid : m'.unseen.id = m.unseen.id := by rw [h.same]
  exact hid

namespace Store

variable {s s' s'' : Store} {c? : Option Receipt}

/-- The messages of a store are there later on as well, each in its place. -/
def KeepsMessages (s s' : Store) : Prop :=
  ∀ (i : Nat) (m : StoredMessage), s.messages[i]? = some m → ∃ m', s'.messages[i]? = some m' ∧ m.Later m'

theorem KeepsMessages.refl (s : Store) : s.KeepsMessages s := fun _ m hm => ⟨m, hm, .refl m⟩

theorem KeepsMessages.trans (h : s.KeepsMessages s') (h' : s'.KeepsMessages s'') : s.KeepsMessages s'' := by
  intro i m hm
  obtain ⟨m', hm', hlater⟩ := h i m hm
  obtain ⟨m'', hm'', hlater'⟩ := h' i m' hm'
  exact ⟨m'', hm'', hlater.trans hlater'⟩

/-- The numbers of the messages. -/
def numbers (s : Store) : List Int := s.messages.map (·.id)

/-- The numbers of the messages that are seen. -/
def seenNumbers (s : Store) : List Int := (s.messages.filter (·.hasSeen)).map (·.id)

/-- The numbers of the messages that a receipt makes seen. -/
def newsOf (s : Store) (c : Receipt) : List Int := (s.messages.filter c.isNews).map (·.id)

/-- Every message has a number of its own, and none has one that is still to be given out. -/
structure Numbered (s : Store) : Prop where
  nodup : s.numbers.Nodup
  upTo : ∀ m ∈ s.messages, m.id ≤ s.lastMessage

theorem KeepsMessages.numbers_subset (h : s.KeepsMessages s') : s.numbers ⊆ s'.numbers := by
  intro id hid
  obtain ⟨m, hm, rfl⟩ := List.mem_map.1 hid
  obtain ⟨i, hi⟩ := List.mem_iff_getElem?.1 hm
  obtain ⟨m', hm', hlater⟩ := h i m hi
  exact List.mem_map.2 ⟨m', List.mem_of_getElem? hm', hlater.id_eq⟩

theorem numbered_empty : Store.empty.Numbered := ⟨.nil, fun _ h => (List.not_mem_nil h).elim⟩

/-! ## One change -/

/-- The ways in which the messages can change, with the receipt for them. -/
inductive LogBecomes (s : Store) : Option Receipt → Store → Prop
  | same {s' : Store} (hmessages : s'.messages = s.messages) (hlast : s.lastMessage ≤ s'.lastMessage) :
    LogBecomes s none s'
  | wrote {s' : Store} (row : StoredMessage) (hmessages : s'.messages = s.messages ++ [row])
      (hid : row.id = s.lastMessage + 1) (hunseen : row.hasSeen = false) (hlast : s'.lastMessage = s.lastMessage + 1) :
    LogBecomes s none s'
  | marked {s' : Store} (c : Receipt) (hmessages : s'.messages = s.messages.map (·.markedBy c))
      (hcount : c.count = (s.newsOf c).length) (hlast : s'.lastMessage = s.lastMessage) : LogBecomes s (some c) s'

theorem logBecomes_of_saveMessage {m : NewMessage} {now : Int} {saved : Message}
    (h : s.saveMessage m now = .ok (saved, s')) : s.LogBecomes none s' := by
  obtain ⟨-, rfl⟩ := saveMessage_eq_ok h
  exact .wrote (s.rowOf m now) rfl rfl rfl rfl

theorem logBecomes_of_markSeen {room : RoomId} {viewer : UserId} {upTo : Int} {count : Nat}
    (h : s.markSeen room viewer upTo = .ok (count, s')) : s.LogBecomes (some ⟨room, viewer, upTo, count⟩) s' := by
  unfold markSeen at h
  cases eq_ok_of_require h
  refine .marked _ rfl ?_ rfl
  rw [newsOf, List.length_map, ← List.countP_eq_length_filter]
  rfl

theorem LogBecomes.keeps (h : s.LogBecomes c? s') : s.KeepsMessages s' := by
  intro i m hm
  cases h with
  | same hmessages => exact ⟨m, hmessages ▸ hm, .refl m⟩
  | wrote row hmessages =>
    refine ⟨m, ?_, .refl m⟩
    rw [hmessages, List.getElem?_append_left (List.getElem?_eq_some_iff.1 hm).1, hm]
  | marked c hmessages =>
    refine ⟨m.markedBy c, ?_, m.later_markedBy c⟩
    rw [hmessages, List.getElem?_map, hm, Option.map_some]

theorem LogBecomes.numbered (h : s.LogBecomes c? s') (hs : s.Numbered) : s'.Numbered := by
  cases h with
  | same hmessages hlast =>
    refine ⟨by rw [numbers, hmessages]; exact hs.nodup, fun m hm => ?_⟩
    have hle := hs.upTo m (hmessages ▸ hm)
    omega
  | wrote row hmessages hid hunseen hlast =>
    refine ⟨?_, fun m hm => ?_⟩
    · rw [numbers, hmessages, List.map_append, List.nodup_append]
      refine ⟨hs.nodup, List.pairwise_singleton .., fun id hin id' hid' heq => ?_⟩
      obtain ⟨m, hm, rfl⟩ := List.mem_map.1 hin
      have hle := hs.upTo m hm
      have hnew : id' = row.id := List.mem_singleton.1 hid'
      omega
    · rw [hmessages, List.mem_append, List.mem_singleton] at hm
      rcases hm with hm | rfl
      · have hle := hs.upTo m hm
        omega
      · omega
  | marked c hmessages hcount hlast =>
    refine ⟨?_, fun m hm => ?_⟩
    · rw [numbers, hmessages, List.map_map]
      simpa only [Function.comp_def, StoredMessage.id_markedBy, numbers] using hs.nodup
    · rw [hmessages] at hm
      obtain ⟨n, hn, rfl⟩ := List.mem_map.1 hm
      rw [n.id_markedBy, hlast]
      exact hs.upTo n hn

/-- The seen messages after a receipt are those before it and those that are new to it. -/
theorem seenNumbers_marked (l : List StoredMessage) (c : Receipt) :
    (((l.map (·.markedBy c)).filter (·.hasSeen)).map (·.id)).Perm
      ((l.filter (·.hasSeen)).map (·.id) ++ (l.filter c.isNews).map (·.id)) := by
  induction l with
  | nil => exact .nil
  | cons m l ih =>
    by_cases hnew : c.isNews m = true
    · have hunseen : m.hasSeen = false := (Receipt.isNews_iff.1 hnew).2
      have hmarked : (m.markedBy c).hasSeen = true := (m.hasSeen_markedBy c).2 (.inr (Receipt.isNews_iff.1 hnew).1)
      simp only [List.map_cons, List.filter_cons, hnew, hunseen, hmarked, if_true, Bool.false_eq_true, if_false,
        m.id_markedBy]
      exact (ih.cons m.id).trans List.perm_middle.symm
    · have hmarked : m.markedBy c = m := if_neg hnew
      by_cases hseen : m.hasSeen = true
      · simp only [List.map_cons, List.filter_cons, hmarked, hseen, hnew, if_true]
        exact ih.cons m.id
      · simp only [List.map_cons, List.filter_cons, hmarked, hseen, hnew]
        exact ih

theorem LogBecomes.seenNumbers (h : s.LogBecomes c? s') :
    s'.seenNumbers.Perm (s.seenNumbers ++ c?.toList.flatMap s.newsOf) := by
  cases h with
  | same hmessages => simp [Store.seenNumbers, hmessages]
  | wrote row hmessages hid hunseen => simp [Store.seenNumbers, hmessages, hunseen]
  | marked c hmessages =>
    rw [Option.toList_some, List.flatMap_singleton, Store.seenNumbers, hmessages]
    exact seenNumbers_marked s.messages c

theorem LogBecomes.count (h : s.LogBecomes c? s') :
    (c?.toList.map (·.count)).sum = (c?.toList.flatMap s.newsOf).length := by
  cases h with
  | same | wrote => rfl
  | marked c _ hcount => simp [hcount]

end Store

end DirectChat
