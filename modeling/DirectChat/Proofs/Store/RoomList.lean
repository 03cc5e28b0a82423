import DirectChat.Proofs.Store.Built
import DirectChat.Proofs.Store.History
import Mathlib.Data.List.Forall2
/-!
# The room list

A user's room list is a join: the user's places, the rooms, the other places in them and the users who have those.
Where rooms are for two, it has one row for each place of the user (`Paired.listed_rows`), so that no room is listed
twice and none is left out.

A row shows three columns of a message, and each is looked up on its own (`Looks`). Messages of one moment are told
apart by their numbers, so that there is one order from the newest on, which the history is read backwards from, and
three looks find the same message (`Numbered.looks_iff`).
-/

namespace DirectChat

/-! ## The newest message of a room -/

namespace Store

variable {s : Store} {user : UserId} {q room : RoomId}

/-- What a look for one column of a room's newest message may answer: the rows come in some order in which none follows
a newer one, and the column of the first is taken. -/
def Looks {α : Type} (s : Store) (room : RoomId) (column : StoredMessage → Option α) (answer : Option α) : Prop :=
  ∃ found : List StoredMessage, found.Perm (s.rows room) ∧ found.Pairwise (fun m n => n.before m = true) ∧
    answer = found.head?.bind column

theorem lastOf_one {α : Type} (l : List α) : lastOf 1 l = l.getLast?.toList := by
  rw [lastOf_eq_drop (by decide)]
  by_cases hl : l = []
  · simp [hl]
  · rw [List.drop_length_sub_one hl, List.getLast?_eq_some_getLast hl, Option.toList_some]

/-- Of messages that are told apart by their numbers there is one order from the newest on. -/
theorem Numbered.eq_log_reverse (h : s.Numbered) {found : List StoredMessage} (hperm : found.Perm (s.rows room))
    (hsorted : found.Pairwise fun m n => n.before m = true) : found = (s.log room).reverse :=
  StoredMessage.eq_reverse_of_sorted (pairwise_log h.nodup room) hsorted (hperm.trans (s.log_perm room).symm)

/-- However it orders rows of one moment, a look answers with the end of the log. -/
theorem Numbered.looks_iff {α : Type} (h : s.Numbered) {column : StoredMessage → Option α} {answer : Option α} :
    s.Looks room column answer ↔ answer = (s.log room).getLast?.bind column := by
  rw [← List.head?_reverse]
  constructor
  · rintro ⟨found, hperm, hsorted, hanswer⟩
    rw [hanswer, h.eq_log_reverse hperm hsorted]
  · intro hanswer
    exact ⟨_, (List.reverse_perm _).trans (s.log_perm room),
      List.pairwise_reverse.2 ((pairwise_log h.nodup room).imp StoredMessage.Older.before), hanswer⟩

theorem log_eq_nil_iff : s.log room = [] ↔ ∀ m ∈ s.messages, m.room ≠ room := by
  have hrows : s.log room = [] ↔ s.rows room = [] := by
    rw [← List.length_eq_zero_iff, (s.log_perm room).length_eq, List.length_eq_zero_iff]
  rw [hrows, rows, List.filter_eq_nil_iff]
  simp only [decide_eq_true_eq, ne_eq]

/-! ## One row for each place -/

/-- What is found of a direct room for a user in it: a row beside each other user, with the time when the room was
made. -/
def beside (s : Store) (user : UserId) (room : Room) : List (RoomSummary × Int) :=
  (((s.usersIn room.id).filter (· ≠ user)).filterMap s.findUser).map fun other => (s.summary room other, room.createdAt)

/-- The rows of a user's room list before they are put in order. -/
def listed (s : Store) (user : UserId) : List (RoomSummary × Int) :=
  ((s.roomsWith user).filterMap s.findDirect).flatMap (s.beside user)

/-- The room list of a user. -/
def roomList (s : Store) (user : UserId) : List RoomSummary := ((s.listed user).mergeSort listedBefore).map Prod.fst

theorem Ready.userRooms (h : s.Ready) (user : UserId) : s.userRooms user = .ok (s.roomList user) := by
  rw [Store.userRooms, h.require]
  rfl

/-- The row for a room that a user is in with one other. -/
inductive IsRow (s : Store) (user : UserId) (q : RoomId) : RoomSummary × Int → Prop
  | beside (r : Room) (other : User) (hr : r ∈ s.rooms) (hid : r.id = q) (hne : other.id ≠ user)
    (hboth : (s.usersIn q).Perm [user, other.id]) : IsRow s user q (s.summary r other, r.createdAt)

namespace Paired

theorem findDirect_eq (h : s.Paired) {r : Room} (hr : r ∈ s.rooms) : s.findDirect r.id = some r := by
  have hfound : (s.findDirect r.id).isSome = true := List.find?_isSome.2 ⟨r, hr, by simp [h.direct r hr]⟩
  obtain ⟨r', hr'⟩ := Option.isSome_iff_exists.1 hfound
  have hsame : r' = r := List.inj_on_of_nodup_map h.ids (List.mem_of_find?_eq_some hr') hr (findDirect_id hr')
  rw [hr', hsame]

/-- Whoever has a place in a room is there with one other user. -/
theorem exists_other (h : s.Paired) (hq : s.hasPlace q user = true) :
    ∃ other : User, s.findUser other.id = some other ∧ other.id ≠ user ∧ (s.usersIn q).Perm [user, other.id] := by
  have hknown : ∀ v, s.IsUser v → ∃ other : User, other.id = v ∧ s.findUser other.id = some other := by
    intro v hv
    obtain ⟨other, hother⟩ := Option.isSome_iff_exists.1 hv
    have hid : other.id = v := by simpa using List.find?_some hother
    exact ⟨other, hid, hid ▸ hother⟩
  obtain ⟨r, hr, rfl⟩ := h.room_of_hasPlace hq
  obtain ⟨a, b, hne, ha, hb, hperm⟩ := h.usersIn_perm hr
  have huser : user = a ∨ user = b := by simpa using hperm.mem_iff.1 (mem_usersIn.2 hq)
  rcases huser with rfl | rfl
  · obtain ⟨other, rfl, hother⟩ := hknown b hb
    exact ⟨other, hother, hne.symm, hperm⟩
  · obtain ⟨other, rfl, hother⟩ := hknown a ha
    exact ⟨other, hother, hne, hperm.trans (.swap _ _ _)⟩

/-- A room list has one row for each place of the user, in the order of the places until it is sorted. -/
theorem listed_rows (h : s.Paired) (user : UserId) :
    List.Forall₂ (s.IsRow user) (s.roomsWith user) (s.listed user) := by
  have hrows : ∀ rooms : List RoomId, (∀ q ∈ rooms, s.hasPlace q user = true) →
      List.Forall₂ (s.IsRow user) rooms ((rooms.filterMap s.findDirect).flatMap (s.beside user)) := by
    intro rooms hplaces
    -- Each place leads to one room, and each room to one other user, so that a place adds one row.
    induction rooms with
    | nil => exact .nil
    | cons q rooms ih =>
      have hq := hplaces q List.mem_cons_self
      obtain ⟨r, hr, rfl⟩ := h.room_of_hasPlace hq
      obtain ⟨other, hother, hne, hboth⟩ := h.exists_other hq
      have hothers : (s.usersIn r.id).filter (· ≠ user) = [other.id] := by
        have hfiltered := hboth.filter (· ≠ user)
        rw [List.filter_cons_of_neg (by simp), List.filter_cons_of_pos (by simpa using hne), List.filter_nil]
          at hfiltered
        exact List.perm_singleton.1 hfiltered
      have hbeside : s.beside user r = [(s.summary r other, r.createdAt)] := by
        rw [Store.beside, hothers, List.filterMap_cons_some hother, List.filterMap_nil, List.map_singleton]
      rw [List.filterMap_cons_some (h.findDirect_eq hr), List.flatMap_cons, hbeside, List.singleton_append]
      exact .cons (.beside r other hr rfl hne hboth) (ih fun q hq => hplaces q (List.mem_cons_of_mem _ hq))
  exact hrows _ fun q => mem_roomsWith.1

theorem room_listed (h : s.Paired) (user : UserId) : (s.listed user).map (·.1.room) = s.roomsWith user := by
  have hrooms : List.Forall₂ (· = ·) (s.roomsWith user) ((s.listed user).map (·.1.room)) := by
    rw [List.forall₂_map_right_iff]
    refine (h.listed_rows user).imp fun q x hx => ?_
    cases hx with
    | beside r other hr hid => exact hid.symm
  rw [List.forall₂_eq_eq_eq] at hrooms
  exact hrooms.symm

theorem isRow_of_mem (h : s.Paired) {x : RoomSummary × Int} (hx : x ∈ s.listed user) : s.IsRow user x.1.room x := by
  have hrows := h.listed_rows user
  rw [← h.room_listed, List.forall₂_map_left_iff, List.forall₂_same] at hrows
  exact hrows x hx

/-- All places are in rooms, and a room has two, of different users. -/
theorem nodup_participants (h : s.Paired) : s.participants.Nodup := by
  refine List.nodup_iff_count_le_one.2 fun p => ?_
  by_cases hp : p ∈ s.participants
  · obtain ⟨r, hr, hid⟩ := h.housed p hp
    obtain ⟨a, b, hne, -, -, hplaces⟩ := h.pair r hr
    have hnodup : (s.participants.filter (·.room = r.id)).Nodup := by simp [hplaces, hne]
    have hcount : s.participants.count p = (s.participants.filter (·.room = r.id)).count p :=
      (List.count_filter (by simpa using hid.symm)).symm
    rw [hcount]
    exact List.nodup_iff_count_le_one.1 hnodup p
  · rw [List.count_eq_zero_of_not_mem hp]
    exact Nat.zero_le 1

theorem nodup_roomsWith (h : s.Paired) (user : UserId) : (s.roomsWith user).Nodup := by
  refine List.Nodup.map_on (fun p hp p' hp' hroom => ?_) (h.nodup_participants.filter _)
  have huser : p.user = user := by simpa using (List.mem_filter.1 hp).2
  have huser' : p'.user = user := by simpa using (List.mem_filter.1 hp').2
  cases p
  cases p'
  simp_all

end Paired

/-! ## The order of the list -/

theorem listedBefore_iff {a b : RoomSummary × Int} : listedBefore a b = true ↔
    (a.1.lastAt = none → b.1.lastAt = none) ∧
    (∀ t t', a.1.lastAt = some t → b.1.lastAt = some t' → t' ≤ t) ∧
    (a.1.lastAt = b.1.lastAt → b.2 ≤ a.2) := by
  unfold listedBefore
  cases a.1.lastAt <;> cases b.1.lastAt <;> simp
  omega

theorem listedBefore_trans (a b c : RoomSummary × Int) (h : listedBefore a b = true) (h' : listedBefore b c = true) :
    listedBefore a c = true := by
  unfold listedBefore at h h' ⊢
  cases ha : a.1.lastAt <;> cases hb : b.1.lastAt <;> cases hc : c.1.lastAt <;> simp_all <;> omega

theorem listedBefore_total (a b : RoomSummary × Int) : (listedBefore a b || listedBefore b a) = true := by
  unfold listedBefore
  cases a.1.lastAt <;> cases b.1.lastAt <;> simp <;> omega

/-- What is shown of the last message of a room: three columns that are looked up one by one, and that are those of the
message which the history of the room ends with, or nothing if the room has none. -/
structure Previews (s : Store) (x : RoomSummary) : Prop where
  text : ∀ answer, s.Looks x.room (·.content) answer ↔ answer = x.lastMessage
  voice : ∀ answer, s.Looks x.room (·.voice) answer ↔ answer = x.lastVoice
  time : ∀ answer, s.Looks x.room (fun m => some m.createdAt) answer ↔ answer = x.lastAt
  recent : ∃ messages : List Message, s.recentMessages x.room 1 = .ok messages ∧
    x.lastMessage = messages.getLast?.bind (·.content) ∧ x.lastVoice = messages.getLast?.bind (·.voice) ∧
      x.lastAt = messages.getLast?.map (·.createdAt)
  absent : (x.lastMessage = none ∧ x.lastVoice = none ∧ x.lastAt = none) ↔ ∀ m ∈ s.messages, m.room ≠ x.room

theorem WellKept.previews (h : s.WellKept) {x : RoomSummary × Int} (hx : x ∈ s.listed user) : s.Previews x.1 := by
  obtain ⟨r, other, -, hid, -, -⟩ := h.paired.isRow_of_mem hx
  refine ⟨fun answer => h.numbered.looks_iff, fun answer => h.numbered.looks_iff, fun answer => ?_, ?_, ?_⟩
  · rw [h.numbered.looks_iff]
    show (answer = (s.log r.id).getLast?.bind _) ↔ answer = (s.log r.id).getLast?.map _
    rw [Option.map_eq_bind]
    rfl
  · refine ⟨_, by rw [recentMessages_eq_lastOf (h.paired.ready.require _) h.numbered.nodup, lastOf_one], ?_⟩
    cases hlast : (s.log r.id).getLast? <;> simp [summary, hlast, StoredMessage.load]
  · rw [← log_eq_nil_iff]
    cases hlast : (s.log r.id).getLast? with
    | none => simp [summary, List.getLast?_eq_none_iff.1 hlast]
    | some m =>
      have hne : s.log r.id ≠ [] := fun hnil => by simp [hnil] at hlast
      simp [summary, hlast, hne]

/-- A row may stand above another: one with a message above one without, the later message above the earlier, and of
rows that agree in this, the later room above the earlier. -/
structure Outranks (s : Store) (x y : RoomSummary) : Prop where
  busy : x.lastAt = none → y.lastAt = none
  latest : ∀ t t', x.lastAt = some t → y.lastAt = some t' → t' ≤ t
  newest : x.lastAt = y.lastAt → ∀ r ∈ s.rooms, ∀ r' ∈ s.rooms, r.id = x.room → r'.id = y.room →
    r'.createdAt ≤ r.createdAt

theorem roomList_perm (s : Store) (user : UserId) : (s.roomList user).Perm ((s.listed user).map Prod.fst) :=
  (List.mergeSort_perm ..).map _

namespace Paired

/-- The time that a row is sorted by is that of its room. -/
theorem createdAt_of_mem (h : s.Paired) {x : RoomSummary × Int} (hx : x ∈ s.listed user) {r : Room} (hr : r ∈ s.rooms)
    (hid : r.id = x.1.room) : x.2 = r.createdAt := by
  obtain ⟨r', other, hr', hid', -, -⟩ := h.isRow_of_mem hx
  have hsame : r' = r := List.inj_on_of_nodup_map h.ids hr' hr (hid'.trans hid.symm)
  rw [hsame]

theorem pairwise_roomList (h : s.Paired) (user : UserId) : (s.roomList user).Pairwise s.Outranks := by
  rw [roomList, List.pairwise_map]
  refine (List.pairwise_mergeSort listedBefore_trans listedBefore_total _).imp_of_mem fun {x y} hx hy hxy => ?_
  obtain ⟨hbusy, hlatest, hnewest⟩ := listedBefore_iff.1 hxy
  refine ⟨hbusy, hlatest, fun hsame r hr r' hr' hid hid' => ?_⟩
  rw [← h.createdAt_of_mem (List.mem_mergeSort.1 hx) hr hid, ← h.createdAt_of_mem (List.mem_mergeSort.1 hy) hr' hid']
  exact hnewest hsame

theorem rooms_perm (h : s.Paired) (user : UserId) : ((s.roomList user).map (·.room)).Perm (s.roomsWith user) := by
  rw [← h.room_listed]
  have hperm := (s.roomList_perm user).map (·.room)
  rwa [List.map_map] at hperm

end Paired

/-- **A room list shows every room of the user once, each with one message, in order.** Whatever the program has done to
its tables, with messages of any moments and for rooms that do not exist, a user's list can be read. It has the direct
rooms in which the user has a place, each once, and no others. What it shows of the last message of a room is that of one
message, the one with which the history of the room ends, and is missing if and only if the room has none. The rooms
stand in the order of their last messages, the latest first, those without messages last, and where that leaves the order
open, the latest room first. -/
theorem room_list_exact (operations : List Operation) (user : UserId) :
    ∃ rooms, (built operations).userRooms user = .ok rooms ∧
      (rooms.map (·.room)).Nodup ∧
      (∀ q, q ∈ rooms.map (·.room) ↔
        ∃ r ∈ (built operations).rooms, r.id = q ∧ r.kind = "direct" ∧ (built operations).hasPlace q user = true) ∧
      (∀ x ∈ rooms, (built operations).Previews x) ∧
      rooms.Pairwise (built operations).Outranks := by
  have hkept := wellKept_built operations
  generalize built operations = s at hkept ⊢
  have h := hkept.paired
  refine ⟨s.roomList user, h.ready.userRooms user, ?_, fun q => ?_, fun x hx => ?_, h.pairwise_roomList user⟩
  · exact (h.rooms_perm user).nodup_iff.2 (h.nodup_roomsWith user)
  · rw [(h.rooms_perm user).mem_iff, mem_roomsWith]
    constructor
    · intro hq
      obtain ⟨r, hr, hid⟩ := h.room_of_hasPlace hq
      exact ⟨r, hr, hid, h.direct r hr, hq⟩
    · rintro ⟨r, -, -, -, hq⟩
      exact hq
  · obtain ⟨row, hrow, rfl⟩ := List.mem_map.1 ((s.roomList_perm user).mem_iff.1 hx)
    exact hkept.previews hrow

/-- Two rooms have messages of the same moment, which the clock then goes behind, and two have none. -/
example : ((built [.call (.createUser "ann" "" 0), .call (.createUser "bob" "" 0), .call (.createUser "cid" "" 0),
      .call (.createUser "dee" "" 0), .call (.createUser "eve" "" 0), .call (.directRoom 1 2 "b" 1),
      .call (.directRoom 1 3 "c" 2), .call (.directRoom 4 1 "d" 3), .call (.directRoom 1 5 "e" 4),
      .saveMessage ⟨"b", 2, "bob", some "hi", none, none⟩ 9, .saveMessage ⟨"c", 1, "ann", none, some "n.ogg", none⟩ 9,
      .saveMessage ⟨"b", 2, "bob", some "late", none, none⟩ 7, .saveMessage ⟨"x", 1, "ann", some "lost", none, none⟩ 10]
    ).roomList 1).map (fun x => (x.room, x.lastMessage, x.lastVoice, x.lastAt)) =
      [("c", none, some "n.ogg", some 9), ("b", some "hi", none, some 9), ("e", none, none, none),
        ("d", none, none, none)] := by cbv

end Store

end DirectChat
