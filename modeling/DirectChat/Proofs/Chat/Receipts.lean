import DirectChat.Proofs.Chat.Causes
import DirectChat.Proofs.Store.Seen
import Mathlib.Algebra.Group.Int.Defs
/-!
# Receipts are exact

A receipt is given when a frame asks for messages to be marked as seen (`Router.AsksFor`), and when the store is asked
directly (`Traffic.receipt?`). Whatever happens, the messages of the store change in one of three ways, and which of
them it is depends on the receipt (`logBecomes_perform`). So a message is seen when a receipt that covers it was
given while it was there (`hasSeen_iff`), and each message that is seen was counted in just one receipt
(`seenNumbers_carryOut`, `sum_receipts`). The count is told to the room when the frame is finished (`tells_receipt`).
-/

namespace DirectChat

/-- What can happen next, when the store may also be asked directly to mark messages as seen. -/
inductive Deed
  | move (mv : Move)
  | mark (room : RoomId) (viewer : UserId) (upTo : Int)

/-- The receipt that the store gives when it marks messages. -/
def Store.receipt? (s : Store) (room : RoomId) (viewer : UserId) (upTo : Int) : Option Receipt :=
  match s.markSeen room viewer upTo with
  | .ok (count, _) => some ⟨room, viewer, upTo, count⟩
  | .error _ => none

theorem Store.receipt?_eq_some_iff {s : Store} {room : RoomId} {viewer : UserId} {upTo : Int} {c : Receipt} :
    s.receipt? room viewer upTo = some c ↔ room = c.room ∧ viewer = c.viewer ∧ upTo = c.upTo ∧
      ∃ store, s.markSeen room viewer upTo = .ok (c.count, store) := by
  unfold receipt?
  cases s.markSeen room viewer upTo with
  | ok marked =>
    cases c
    simp [Prod.ext_iff]
  | error e => simp

namespace Router

/-- What a frame asks to be marked: the messages of the room that the router is in, else of the one that the frame
names, up to the moment that it names, if that is not zero. -/
def asks? (r : Router) (f : ClientFrame) : Option (RoomId × UserId × Int) :=
  if f.event = "seen" then
    (r.seenRoom f.room).bind fun room => (f.timestamp.filter (· ≠ 0)).map fun ts => (room, r.user, seenMillis ts)
  else none

variable {r : Router} {f : ClientFrame} {room : RoomId} {viewer : UserId} {upTo : Int}

/-- A frame asks for what a receipt is given for. -/
structure AsksFor (r : Router) (f : ClientFrame) (c : Receipt) : Prop where
  event : f.event = "seen"
  /-- The room that the router is in, or while it is in none, the one that the frame names. -/
  room : r.room = some c.room ∨ r.room = none ∧ f.room = some c.room ∧ c.room ≠ ""
  viewer : c.viewer = r.user
  /-- What lies below `10 ^ 12` counts in seconds, and its milliseconds stay within 64 bits. -/
  upTo : ∃ ts, f.timestamp = some ts ∧ ts ≠ 0 ∧
    c.upTo = if ts < 10 ^ 12 then max (-2 ^ 63) (min (2 ^ 63 - 1) (ts * 1000)) else ts

theorem asksFor_iff {c : Receipt} : r.AsksFor f c ↔ r.asks? f = some (c.room, c.viewer, c.upTo) := by
  have hmillis : ∀ ts, seenMillis ts = if ts < 10 ^ 12 then max (-2 ^ 63) (min (2 ^ 63 - 1) (ts * 1000)) else ts :=
    fun _ => rfl
  have hasks : r.asks? f = some (c.room, c.viewer, c.upTo) ↔ f.event = "seen" ∧ r.seenRoom f.room = some c.room ∧
      ∃ ts, f.timestamp = some ts ∧ ts ≠ 0 ∧ r.user = c.viewer ∧ seenMillis ts = c.upTo := by
    unfold asks?
    split <;> simp_all [Option.bind_eq_some_iff, Option.filter_eq_some_iff, and_assoc]
  rw [hasks, seenRoom_eq_some_iff]
  constructor
  · rintro ⟨hevent, hroom, hviewer, ts, hts, hne, hupTo⟩
    exact ⟨hevent, hroom, ts, hts, hne, hviewer.symm, by rw [hupTo, hmillis]⟩
  · rintro ⟨hevent, hroom, ts, hts, hne, hviewer, hupTo⟩
    exact ⟨hevent, hroom, hviewer.symm, ts, hts, hne, by rw [← hupTo, hmillis]⟩

/-- A frame that asks for messages to be marked is taken up by marking them. -/
theorem takeUp_of_asks (sv : Server) (h : r.asks? f = some (room, viewer, upTo)) :
    ∃ ts, f.timestamp = some ts ∧
      r.takeUp f sv =
        match sv.store.markSeen room viewer upTo with
        | .ok (count, store) => ⟨r, { sv with store }, some (.seen room ts count)⟩
        | .error e => ⟨r, sv, some (.unseen room ts e)⟩ := by
  unfold asks? at h
  split at h
  · rename_i hevent
    obtain ⟨asked, hroom, htime⟩ := Option.bind_eq_some_iff.1 h
    obtain ⟨ts, hts, hq⟩ := Option.map_eq_some_iff.1 htime
    cases hq
    refine ⟨ts, (Option.filter_eq_some_iff.1 hts).1, ?_⟩
    cases hmark : sv.store.markSeen room r.user (seenMillis ts) <;>
      simp only [takeUp, hevent, takeUpSeen, hroom, hts, hmark]
  · cases h

theorem logBecomes_takeUp (r : Router) (f : ClientFrame) (sv : Server) :
    sv.store.LogBecomes ((r.asks? f).bind fun q => sv.store.receipt? q.1 q.2.1 q.2.2) (r.takeUp f sv).server.store := by
  cases hasks : r.asks? f with
  | some q =>
    obtain ⟨room, viewer, upTo⟩ := q
    obtain ⟨ts, -, htake⟩ := takeUp_of_asks sv hasks
    rw [htake, Option.bind_some, Store.receipt?]
    dsimp only
    cases hmark : sv.store.markSeen room viewer upTo with
    | ok marked => exact Store.logBecomes_of_markSeen hmark
    | error e => exact .same rfl (Nat.le_refl _)
  | none =>
    have hsame : sv.store.LogBecomes none sv.store := .same rfl (Nat.le_refl _)
    by_cases hevent : f.event = "seen"
    · have htake : r.takeUp f sv = ⟨r, sv, none⟩ := by
        simp only [asks?, if_pos hevent] at hasks
        simp only [takeUp, hevent, takeUpSeen]
        cases hroom : r.seenRoom f.room with
        | none => rfl
        | some room =>
          rw [hroom, Option.bind_some, Option.map_eq_none_iff] at hasks
          simp only [hasks]
      rw [htake]
      exact hsame
    · have htakes := r.takesUp f sv
      generalize r.takeUp f sv = u at htakes
      cases htakes with
      | enters room => exact (r.enter_store room sv).symm ▸ hsame
      | leaves => exact (r.leave_store sv).symm ▸ hsame
      | saves room text voice m store hroom hsave => exact Store.logBecomes_of_saveMessage hsave
      | marks room ts count store hseen => exact absurd hseen hevent
      | _ => exact hsame

end Router

namespace Traffic

/-- The moves that a deed makes of a crowd's traffic. -/
def movesOf (t : Traffic) : Deed → List Move
  | .move mv => [mv]
  | .mark room viewer upTo =>
    match t.crowd.server.store.markSeen room viewer upTo with
    | .ok (_, store) => [.act (.store store)]
    | .error _ => []

/-- Carries a deed out. -/
def perform (t : Traffic) (d : Deed) : Traffic := t.run (t.movesOf d)

/-- Carries out a sequence of deeds. -/
def carryOut (t : Traffic) (deeds : List Deed) : Traffic := deeds.foldl perform t

/-- The receipt that is given for a deed. A frame is taken up by an idle router only. -/
def receipt? (t : Traffic) : Deed → Option Receipt
  | .mark room viewer upTo => t.crowd.server.store.receipt? room viewer upTo
  | .move (.takeUp s raw) =>
    match t.tasks.get? s, t.crowd.routers.get? s, ClientFrame.decode raw with
    | none, some r, some f => (r.asks? f).bind fun q => t.crowd.server.store.receipt? q.1 q.2.1 q.2.2
    | _, _, _ => none
  | .move (.act _) | .move (.finish _) => none

/-- The receipts that are given in the course of a sequence of deeds. -/
def receipts (t : Traffic) (deeds : List Deed) : List Receipt :=
  Run.output perform (fun t d => (t.receipt? d).toList) t deeds

/-- Those of them that are given while there is a message with the number. -/
def receiptsSince (id : Int) (t : Traffic) (deeds : List Deed) : List Receipt :=
  Run.output perform (fun t d => if id ∈ t.crowd.server.store.numbers then (t.receipt? d).toList else []) t deeds

/-- The numbers of the messages that the receipts make seen, receipt by receipt. -/
def news (t : Traffic) (deeds : List Deed) : List Int :=
  Run.output perform (fun t d => (t.receipt? d).toList.flatMap t.crowd.server.store.newsOf) t deeds

/-- What is done to the store from outside leaves its messages alone. -/
def SparesMessages (t : Traffic) (d : Deed) : Prop :=
  ∀ store, d = .move (.act (.store store)) →
    store.messages = t.crowd.server.store.messages ∧ t.crowd.server.store.lastMessage ≤ store.lastMessage

instance (t : Traffic) : (d : Deed) → Decidable (t.SparesMessages d)
  | .mark .. => isTrue fun _ h => nomatch h
  | .move mv =>
    have := mv.decideStore fun store =>
      store.messages = t.crowd.server.store.messages ∧ t.crowd.server.store.lastMessage ≤ store.lastMessage
    decidable_of_iff (∀ store, mv = .act (.store store) →
        store.messages = t.crowd.server.store.messages ∧ t.crowd.server.store.lastMessage ≤ store.lastMessage)
      ⟨fun h store hd => h store (Deed.move.inj hd), fun h store hmv => h store (congrArg Deed.move hmv)⟩

variable {t : Traffic} {d : Deed} {deeds : List Deed}

/-! ## One deed -/

theorem logBecomes_move {mv : Move} (hspares : t.SparesMessages (.move mv)) :
    t.crowd.server.store.LogBecomes (t.receipt? (.move mv)) (t.step mv).crowd.server.store := by
  have hsame : t.crowd.server.store.LogBecomes none t.crowd.server.store := .same rfl (Nat.le_refl _)
  cases mv with
  | act a =>
    have hcase := t.step_cases (.act a)
    generalize t.step (.act a) = t' at hcase
    cases hcase with
    | act _ hparts =>
      rcases store_act (c := t.crowd) hparts with hstore | hreplaced
      · exact hstore.symm ▸ hsame
      · obtain ⟨hmessages, hlast⟩ := hspares _ (congrArg (Deed.move ∘ Move.act) hreplaced)
        exact .same hmessages hlast
    | idle => exact hsame
  | takeUp s raw =>
    simp only [receipt?]
    split
    · rename_i r f hidle hrouter hframe
      rw [step_takeUp hidle hrouter hframe]
      exact r.logBecomes_takeUp f t.crowd.server
    · rename_i hnot
      rw [step_takeUp_of_not fun r f hidle hrouter hframe => hnot r f hidle hrouter hframe]
      exact hsame
  | finish s =>
    have hcase := t.step_cases (.finish s)
    generalize t.step (.finish s) = t' at hcase
    cases hcase with
    | finish _ task r => exact (r.finish_store task.rest t.crowd.server).symm ▸ hsame
    | idle => exact hsame

/-- A deed changes the messages in one of three ways, according to its receipt. -/
theorem logBecomes_perform (hspares : t.SparesMessages d) :
    t.crowd.server.store.LogBecomes (t.receipt? d) (t.perform d).crowd.server.store := by
  cases d with
  | move mv => exact logBecomes_move hspares
  | mark room viewer upTo =>
    rw [perform, movesOf, receipt?, Store.receipt?]
    cases hmark : t.crowd.server.store.markSeen room viewer upTo with
    | ok marked =>
      obtain ⟨count, store⟩ := marked
      show t.crowd.server.store.LogBecomes _ (t.step (.act (.store store))).crowd.server.store
      rw [t.step_of_no_actor id rfl]
      exact Store.logBecomes_of_markSeen hmark
    | error e => exact .same rfl (Nat.le_refl _)

/-! ## Any number of deeds -/

theorem carryOut_eq_run (t : Traffic) (deeds : List Deed) :
    t.carryOut deeds = t.run (Run.output perform movesOf t deeds) := by
  induction deeds generalizing t with
  | nil => rfl
  | cons d deeds ih => exact (ih (t.perform d)).trans (t.run_append _ _).symm

theorem carryOut_append (t : Traffic) (deeds more : List Deed) :
    t.carryOut (deeds ++ more) = (t.carryOut deeds).carryOut more := List.foldl_append ..

theorem keeps_carryOut (hspares : Run.Along perform SparesMessages t deeds) :
    t.crowd.server.store.KeepsMessages (t.carryOut deeds).crowd.server.store := by
  induction deeds generalizing t with
  | nil => exact .refl _
  | cons d deeds ih => exact (logBecomes_perform hspares.1).keeps.trans (ih hspares.2)

theorem numbered_carryOut (hspares : Run.Along perform SparesMessages t deeds) (h : t.crowd.server.store.Numbered) :
    (t.carryOut deeds).crowd.server.store.Numbered := by
  induction deeds generalizing t with
  | nil => exact h
  | cons d deeds ih => exact ih hspares.2 ((logBecomes_perform hspares.1).numbered h)

/-- Receipt by receipt, the messages that each makes seen are added to those that are. -/
theorem seenNumbers_carryOut (hspares : Run.Along perform SparesMessages t deeds) :
    (t.carryOut deeds).crowd.server.store.seenNumbers.Perm (t.crowd.server.store.seenNumbers ++ t.news deeds) := by
  induction deeds generalizing t with
  | nil => simp [carryOut, news, Run.output]
  | cons d deeds ih =>
    have hstep := (logBecomes_perform hspares.1).seenNumbers
    refine (ih hspares.2).trans ((hstep.append_right _).trans ?_)
    rw [List.append_assoc]
    exact .refl _

/-- The counts of the receipts are the numbers of the messages that they make seen. -/
theorem sum_receipts (hspares : Run.Along perform SparesMessages t deeds) :
    ((t.receipts deeds).map (·.count)).sum = (t.news deeds).length := by
  induction deeds generalizing t with
  | nil => rfl
  | cons d deeds ih =>
    have hcount := (logBecomes_perform hspares.1).count
    simp only [receipts, news, Run.output, List.map_append, List.sum_append, List.length_append] at ih ⊢
    rw [ih hspares.2, hcount]

theorem known_of_receiptsSince {id : Int} {c : Receipt} (hspares : Run.Along perform SparesMessages t deeds)
    (hc : c ∈ t.receiptsSince id deeds) : id ∈ (t.carryOut deeds).crowd.server.store.numbers := by
  obtain ⟨before, d, after, rfl, hin⟩ := Run.mem_output.1 hc
  rw [carryOut_append]
  split at hin
  · rename_i hknown
    exact (keeps_carryOut (Run.along_append.1 hspares).2).numbers_subset hknown
  · cases hin

theorem receiptsSince_snoc (id : Int) (t : Traffic) (deeds : List Deed) (d : Deed) :
    t.receiptsSince id (deeds ++ [d]) = t.receiptsSince id deeds ++
      if id ∈ (t.carryOut deeds).crowd.server.store.numbers then ((t.carryOut deeds).receipt? d).toList else [] := by
  rw [receiptsSince, Run.output_append, Run.output, Run.output, List.append_nil]
  rfl

/-- A message is seen when a receipt that covers it was given while it was there. -/
theorem hasSeen_iff (hspares : Run.Along perform SparesMessages t deeds) (hstart : t.crowd.server.store.messages = [])
    {m : StoredMessage} (hm : m ∈ (t.carryOut deeds).crowd.server.store.messages) :
    m.hasSeen = true ↔ ∃ c ∈ t.receiptsSince m.id deeds, c.Covers m := by
  induction deeds using List.reverseRecOn generalizing m with
  | nil =>
    rw [carryOut, List.foldl_nil, hstart] at hm
    cases hm
  | append_singleton deeds d ih =>
    obtain ⟨hbefore, hlast⟩ := Run.along_snoc.1 hspares
    have hnumbered : (t.carryOut deeds).crowd.server.store.Numbered := by
      refine numbered_carryOut hbefore ⟨?_, ?_⟩
      · rw [Store.numbers, hstart]
        exact .nil
      · rw [hstart]
        exact fun _ h => (List.not_mem_nil h).elim
    have hknown : ∀ c ∈ t.receiptsSince m.id deeds, m.id ∈ (t.carryOut deeds).crowd.server.store.numbers :=
      fun c => known_of_receiptsSince hbefore
    have hbecomes : (t.carryOut deeds).crowd.server.store.LogBecomes ((t.carryOut deeds).receipt? d)
        ((t.carryOut deeds).perform d).crowd.server.store := logBecomes_perform hlast
    have hnext : t.carryOut (deeds ++ [d]) = (t.carryOut deeds).perform d := t.carryOut_append deeds [d]
    rw [hnext] at hm
    rw [receiptsSince_snoc]
    generalize (t.carryOut deeds).receipt? d = c? at hbecomes
    generalize ((t.carryOut deeds).perform d).crowd.server.store = store at hbecomes hm
    cases hbecomes with
    | same hmessages =>
      rw [hmessages] at hm
      simpa using ih hbefore hm
    | wrote row hmessages hid hunseen =>
      rw [hmessages, List.mem_append, List.mem_singleton] at hm
      rcases hm with hm | rfl
      · simpa using ih hbefore hm
      · -- A number is new when it is given out, so that no receipt can have been given for it before.
        have hunknown : m.id ∉ (t.carryOut deeds).crowd.server.store.numbers := by
          intro hin
          obtain ⟨old, hold, heq⟩ := List.mem_map.1 hin
          have hle := hnumbered.upTo old hold
          omega
        rw [hunseen, if_neg hunknown, List.append_nil]
        constructor
        · intro hseen
          cases hseen
        · rintro ⟨c, hc, -⟩
          exact (hunknown (hknown c hc)).elim
    | marked c hmessages =>
      rw [hmessages] at hm
      obtain ⟨old, hold, rfl⟩ := List.mem_map.1 hm
      have hin : old.id ∈ (t.carryOut deeds).crowd.server.store.numbers := List.mem_map_of_mem hold
      have hcovers : ∀ c' : Receipt, c'.Covers (old.markedBy c) ↔ c'.Covers old := fun c' =>
        Receipt.covers_congr (old.unseen_markedBy c)
      rw [old.hasSeen_markedBy, ih hbefore hold, old.id_markedBy, if_pos hin, Option.toList_some]
      simp only [List.mem_append, List.mem_singleton, hcovers, or_and_right, exists_or, exists_eq_left]

/-! ## What a receipt tells -/

/-- A receipt is given for a frame when an idle router takes it up, the frame asks for it, and the store marks as many
messages. -/
theorem receipt?_takeUp_iff {s : SessionId} {raw : String} {c : Receipt} :
    t.receipt? (.move (.takeUp s raw)) = some c ↔ t.tasks.get? s = none ∧ ∃ r f store,
      t.crowd.routers.get? s = some r ∧ ClientFrame.decode raw = some f ∧ r.AsksFor f c ∧
        t.crowd.server.store.markSeen c.room c.viewer c.upTo = .ok (c.count, store) := by
  simp only [receipt?, Router.asksFor_iff]
  constructor
  · intro h
    split at h
    · rename_i r f hidle hrouter hframe
      obtain ⟨⟨room, viewer, upTo⟩, hasks, hreceipt⟩ := Option.bind_eq_some_iff.1 h
      obtain ⟨rfl, rfl, rfl, store, hmark⟩ := Store.receipt?_eq_some_iff.1 hreceipt
      exact ⟨hidle, r, f, store, hrouter, hframe, hasks, hmark⟩
    · cases h
  · rintro ⟨hidle, r, f, store, hrouter, hframe, hasks, hmark⟩
    simp only [hidle, hrouter, hframe, hasks, Option.bind_some]
    exact Store.receipt?_eq_some_iff.2 ⟨rfl, rfl, rfl, store, hmark⟩

/-- A frame for which a receipt is given is in the midst of being handled afterwards, and its count is to be told. -/
theorem taken_of_receipt {s : SessionId} {raw : String} {c : Receipt}
    (h : t.receipt? (.move (.takeUp s raw)) = some c) :
    ∃ r f ts, t.crowd.routers.get? s = some r ∧ ClientFrame.decode raw = some f ∧ r.AsksFor f c ∧
      f.timestamp = some ts ∧ (t.step (.takeUp s raw)).tasks.get? s = some ⟨f, .seen c.room ts c.count⟩ ∧
      (t.step (.takeUp s raw)).crowd.routers.get? s = some r := by
  obtain ⟨hidle, r, f, store, hrouter, hframe, hasks, hmark⟩ := receipt?_takeUp_iff.1 h
  obtain ⟨ts, hts, htake⟩ := Router.takeUp_of_asks t.crowd.server (Router.asksFor_iff.1 hasks)
  rw [hmark] at htake
  refine ⟨r, f, ts, hrouter, hframe, hasks, hts, ?_⟩
  rw [step_takeUp hidle hrouter hframe, htake, takenUp]
  exact ⟨Table.get?_insert_self .., Table.get?_insert_self ..⟩

/-- Finishing a receipt tells its count to every session that listens to the room. -/
theorem hears_receipt (hc : t.crowd.Coupled) {s : SessionId} {f : ClientFrame} {room : RoomId} {ts : Int} {count : Nat}
    {viewer o : Router} (htask : t.tasks.get? s = some ⟨f, .seen room ts count⟩)
    (hrouter : t.crowd.routers.get? s = some viewer) (hin : t.crowd.Listens o room) :
    .event (.messagesSeen room viewer.user viewer.username ts count) ∈ t.sent (.finish s) o.handle := by
  let told : Frame := .event (.messagesSeen room viewer.user viewer.username ts count)
  let answered : Mailroom :=
    (t.crowd.server.mail.send viewer.handle (.event (.seenSuccessful room viewer.username ts))).1
  have hmember : 0 < (t.crowd.server.registry.roomHandles room none).count o.handle := by
    refine List.count_pos_iff.2 (List.mem_map.2 ⟨(o.session, ⟨o.user, o.username, o.handle, some room⟩), ?_, rfl⟩)
    have hshown := (hc.shows.entry o.session).symm.trans hin.joined
    refine hc.shows.mem_entriesOf.2 ⟨List.mem_filter.2 ⟨?_, rfl⟩, hshown⟩
    rw [hc.shows.mem_members, hshown]
    rfl
  have hanswered := t.crowd.server.mail.waiting_send viewer.handle (.event (.seenSuccessful room viewer.username ts))
    o.handle
  have hlive : answered.isLive o.handle = true := (Mailroom.isLive_send ..).trans hin.live
  have htold := answered.waiting_sendAll (t.crowd.server.registry.roomHandles room none) told o.handle
  rw [hanswered, if_pos hlive, List.append_assoc] at htold
  rw [sent, step_finish htask hrouter]
  show told ∈ t.crowd.server.mail.since
    (answered.sendAll (t.crowd.server.registry.roomHandles room none) told).1 o.handle
  rw [Mailroom.since_of_append htold]
  exact List.mem_append_right _ (List.mem_replicate.2 ⟨Nat.ne_of_gt hmember, rfl⟩)

theorem store_of_mem_movesOf {room : RoomId} {viewer : UserId} {upTo : Int} {mv : Move}
    (h : mv ∈ t.movesOf (.mark room viewer upTo)) : ∃ store, mv = .act (.store store) := by
  rw [movesOf] at h
  cases hmark : t.crowd.server.store.markSeen room viewer upTo with
  | ok marked =>
    rw [hmark] at h
    exact ⟨marked.2, List.mem_singleton.1 h⟩
  | error e =>
    rw [hmark] at h
    cases h

/-- The count of a receipt for a frame is what is told when the frame is finished. -/
theorem tells_receipt {settings : ChatSettings} {now : Int} {before between : List Deed} {s : SessionId} {raw : String}
    {c : Receipt} (hgiven : ((start settings now).carryOut before).receipt? (.move (.takeUp s raw)) = some c)
    (hfirst : .move (.finish s) ∉ between) :
    ∃ r f ts, ((start settings now).carryOut before).crowd.routers.get? s = some r ∧
      ClientFrame.decode raw = some f ∧ r.AsksFor f c ∧ f.timestamp = some ts ∧
      ∀ o, ((start settings now).carryOut (before ++ .move (.takeUp s raw) :: between)).crowd.Listens o c.room →
        .event (.messagesSeen c.room c.viewer r.username ts c.count) ∈
          ((start settings now).carryOut (before ++ .move (.takeUp s raw) :: between)).sent (.finish s) o.handle := by
  obtain ⟨r, f, ts, hrouter, hframe, hasks, hts, htask, hrouter'⟩ := taken_of_receipt hgiven
  refine ⟨r, f, ts, hrouter, hframe, hasks, hts, fun o hin => ?_⟩
  have hsplit : (start settings now).carryOut (before ++ .move (.takeUp s raw) :: between) =
      (((start settings now).carryOut before).step (.takeUp s raw)).carryOut between := carryOut_append ..
  have hcoupled := coupled_of_start settings now
    (Run.output perform movesOf (start settings now) (before ++ .move (.takeUp s raw) :: between))
  rw [← carryOut_eq_run, hsplit] at hcoupled
  rw [hsplit] at hin ⊢
  have hnever : .finish s ∉ Run.output perform movesOf
      (((start settings now).carryOut before).step (.takeUp s raw)) between := by
    intro hin
    obtain ⟨early, d, late, rfl, hmv⟩ := Run.mem_output.1 hin
    cases d with
    | move mv =>
      cases List.mem_singleton.1 hmv
      exact hfirst (List.mem_append_right _ List.mem_cons_self)
    | mark room viewer upTo =>
      obtain ⟨store, heq⟩ := store_of_mem_movesOf hmv
      cases heq
  obtain ⟨htaskLate, hrouterLate⟩ := busy_run htask hrouter' hnever
  rw [← carryOut_eq_run] at htaskLate hrouterLate
  rw [hasks.viewer]
  exact hears_receipt hcoupled htaskLate hrouterLate hin

/-- **Receipts are exact.** Take any run of frames, of receipts asked of the store directly, and of whatever
else leaves the messages of the store alone. Messages have numbers of their own. One is seen when a receipt was given
for its room by somebody else than its author, up to its moment or a later one, while it was in the store.
It stays in its place as it is, and once it is seen it stays so. The messages that the receipts make seen, receipt by
receipt, are just those that are seen in the end, and the count of each receipt is how many it makes seen, so
that the counts add up to the number of messages that are seen. For a frame a receipt is given when it asks for one
(`Router.AsksFor`) and the store marks the messages, and its count is what those in the room are told when the frame is
finished. -/
theorem receipts_exact {settings : ChatSettings} {now : Int} {deeds : List Deed}
    (hspares : Run.Along perform SparesMessages (start settings now) deeds) :
    let t := start settings now
    let store := (t.carryOut deeds).crowd.server.store
    store.numbers.Nodup ∧
    (∀ m ∈ store.messages, m.hasSeen = true ↔ ∃ c ∈ t.receiptsSince m.id deeds, c.Covers m) ∧
    (∀ before after, deeds = before ++ after → (t.carryOut before).crowd.server.store.KeepsMessages store) ∧
    (t.news deeds).Perm store.seenNumbers ∧
    ((t.receipts deeds).map (·.count)).sum = store.messages.countP (·.hasSeen) ∧
    (∀ before d after c, deeds = before ++ d :: after → (t.carryOut before).receipt? d = some c →
      c.count = ((t.carryOut before).crowd.server.store.newsOf c).length) ∧
    (∀ before s raw c, (t.carryOut before).receipt? (.move (.takeUp s raw)) = some c ↔
      (t.carryOut before).tasks.get? s = none ∧ ∃ r f store, (t.carryOut before).crowd.routers.get? s = some r ∧
        ClientFrame.decode raw = some f ∧ r.AsksFor f c ∧
        (t.carryOut before).crowd.server.store.markSeen c.room c.viewer c.upTo = .ok (c.count, store)) ∧
    ∀ before s raw between after c,
      deeds = before ++ .move (.takeUp s raw) :: (between ++ .move (.finish s) :: after) →
      .move (.finish s) ∉ between → (t.carryOut before).receipt? (.move (.takeUp s raw)) = some c →
      ∃ r f ts, (t.carryOut before).crowd.routers.get? s = some r ∧ ClientFrame.decode raw = some f ∧
        r.AsksFor f c ∧ f.timestamp = some ts ∧
        ∀ o, (t.carryOut (before ++ .move (.takeUp s raw) :: between)).crowd.Listens o c.room →
          .event (.messagesSeen c.room c.viewer r.username ts c.count) ∈
            (t.carryOut (before ++ .move (.takeUp s raw) :: between)).sent (.finish s) o.handle := by
  intro t store
  have hnews : store.seenNumbers.Perm (t.news deeds) := seenNumbers_carryOut hspares
  have hlength := hnews.length_eq
  rw [Store.seenNumbers, List.length_map, ← List.countP_eq_length_filter] at hlength
  refine ⟨(numbered_carryOut hspares Store.numbered_empty).nodup, fun m hm => hasSeen_iff hspares rfl hm, ?_,
    hnews.symm, (sum_receipts hspares).trans hlength.symm, ?_, fun _ _ _ _ => receipt?_takeUp_iff, ?_⟩
  · rintro before after rfl
    have hsplit : t.carryOut (before ++ after) = (t.carryOut before).carryOut after := t.carryOut_append before after
    show Store.KeepsMessages _ (t.carryOut (before ++ after)).crowd.server.store
    rw [hsplit]
    exact keeps_carryOut (Run.along_append.1 hspares).2
  · rintro before d after c rfl hgiven
    have hspare : (t.carryOut before).SparesMessages d := hspares.at
    have hcount := (logBecomes_perform hspare).count
    rw [hgiven] at hcount
    simpa using hcount
  · intro before s raw between after c _ hfirst hgiven
    exact tells_receipt hgiven hfirst

/-- One message is seen through a frame that counts in seconds and is finished after the next message is saved; another
through the store, which is also asked by their author and for too early a moment; the last through a frame that counts
in milliseconds and names the room, as its viewer is in none. -/
theorem receipts_exact_two_messages :
    let join := "\x7b\"event\":\"join\",\"room\":\"r\"\x7d"
    let chat := "\x7b\"event\":\"chat\",\"text\":\"hi\"\x7d"
    let seen := "\x7b\"event\":\"seen\",\"timestamp\":5\x7d"
    let seenFromOutside := "\x7b\"event\":\"seen\",\"room\":\"r\",\"timestamp\":1000000000000\x7d"
    let deeds : List Deed := [.move (.act (.connect 1 10 7 "ann" none)), .move (.act (.connect 2 20 8 "bob" none)),
      .move (.act (.connect 3 30 9 "cat" none)), .move (.act (.clock 5000)), .move (.takeUp 1 join),
      .move (.takeUp 2 join), .move (.finish 1), .move (.takeUp 1 chat), .move (.finish 2), .move (.finish 1),
      .move (.takeUp 2 seen), .move (.act (.clock 5001)), .move (.takeUp 1 chat), .move (.finish 2), .mark "r" 8 5000,
      .mark "r" 7 (2 ^ 63 - 1), .mark "r" 8 5001, .move (.finish 1), .move (.takeUp 1 chat),
      .move (.takeUp 3 seenFromOutside)]
    Run.Along perform SparesMessages (start .default 0) deeds ∧
      (start .default 0).receipts deeds =
        [⟨"r", 8, 5000, 1⟩, ⟨"r", 8, 5000, 0⟩, ⟨"r", 7, 2 ^ 63 - 1, 0⟩, ⟨"r", 8, 5001, 1⟩,
          ⟨"r", 9, 1000000000000, 1⟩] ∧
      ((start .default 0).news deeds).Perm ((start .default 0).carryOut deeds).crowd.server.store.seenNumbers ∧
      (((start .default 0).receipts deeds).map (·.count)).sum =
        ((start .default 0).carryOut deeds).crowd.server.store.messages.countP (·.hasSeen) := by
  intro join chat seen seenFromOutside deeds
  have hspares : Run.Along perform SparesMessages (start .default 0) deeds := by decide +kernel +zetaReduce
  obtain ⟨-, -, -, hnews, hsum, -⟩ := receipts_exact hspares
  refine ⟨hspares, ?_, hnews, hsum⟩
  decide +kernel +zetaReduce

end Traffic

end DirectChat
