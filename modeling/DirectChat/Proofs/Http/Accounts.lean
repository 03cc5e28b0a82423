import DirectChat.Http.Site
import DirectChat.Proofs.Auth.Password
import DirectChat.Proofs.Auth.Token
import DirectChat.Proofs.Run
import DirectChat.Proofs.Store.Log
/-!
# Accounts belong to those who opened them

Names are compared without the blanks around them, both when an account is opened and when its owner comes back, so two
accounts never share a name. A password is kept as a hash with a salt of its own, from which nobody but a bearer of that
password gets tokens; the tokens name the account, and new ones are given for old ones to the same account only.

What a request does is said once (`Site.registers`, `Site.login_eq`, `Site.refresh_eq`). From it follows, for every
sequence of requests that begins without users, that the users are those whose registration succeeded, each with a hash
of the password that was given then (`Site.Owned`, `Site.owned_after`), and with that the theorem. A sequence is one of
questions; requests that the limiter lets pass are answered as the questions they ask (`Site.Carries.answered`).
-/

namespace DirectChat

namespace Site

/-- What is asked about accounts. -/
inductive AccountCall
  | register (c : Credentials)
  | login (c : Credentials)
  | refresh (token : String)

namespace AccountCall

/-- The endpoint at which it is asked. -/
def route : AccountCall → Route
  | .register _ => .register
  | .login _ => .login
  | .refresh _ => .refresh

/-- The password that is given along, if there is one. -/
def password? : AccountCall → Option String
  | .register c | .login c => some c.password
  | .refresh _ => none

/-- The request asks this. -/
def IsAskedBy (req : Request) : AccountCall → Prop
  | .register c | .login c => jsonBody Credentials.record req = .ok c
  | .refresh token => jsonBody refreshRecord req = .ok token

end AccountCall

variable {s : Site} {now : Int}

/-- Answers what is asked about accounts. -/
def answer (s : Site) : AccountCall → Response × Site
  | .register c => s.register c
  | .login c => (s.login c, s)
  | .refresh token => (s.refresh token, s)

theorem register_limiter (s : Site) (limiter : Limiter) (c : Credentials) :
    ({ s with limiter } : Site).register c = ((s.register c).1, { (s.register c).2 with limiter }) := by
  have hsalt : nextSalt { s with limiter } = s.nextSalt := rfl
  simp only [register, hsalt]
  split_ifs
  · rfl
  · rcases s.server.store.createUser (trimmed c.username) (hashPassword s.nextSalt c.password) s.server.now with
      e | ⟨user, store⟩
    · cases e <;> rfl
    · rfl

theorem answer_limiter (s : Site) (limiter : Limiter) (call : AccountCall) :
    ({ s with limiter } : Site).answer call = ((s.answer call).1, { (s.answer call).2 with limiter }) := by
  cases call with
  | register c => exact s.register_limiter limiter c
  | login c => rfl
  | refresh token => rfl

theorem passGate_eq_ok {route : Route} {req : Request} {s' : Site} (h : s.passGate route req = .ok s') :
    s' = { s with limiter := s'.limiter } := by
  unfold passGate at h
  split at h
  · split at h
    · cases h
    · split at h
      · cases h
        rfl
      · cases h
  · cases h
    rfl

/-- A request that asks about accounts, and passes the limiter, is answered whatever the limiter counts. -/
theorem handle_of_asked {req : Request} {call : AccountCall} (hmethod : req.method = "POST")
    (hpath : Route.ofPath? req.path = some call.route) (hasked : call.IsAskedBy req) {s' : Site}
    (hpass : s.passGate call.route req = .ok s') :
    s.handle req = ((s.answer call).1, { (s.answer call).2 with limiter := s'.limiter }) := by
  have hserve : s'.serve call.route req = s'.answer call := by
    cases call <;> simp only [AccountCall.IsAskedBy] at hasked <;>
      simp only [AccountCall.route, serve, withBody, hasked, answer]
  have hallowed : call.route.methods.contains req.method = true := by
    rw [hmethod]
    cases call <;> rfl
  have hoptions : req.method ≠ "OPTIONS" := by simp [hmethod]
  have hhead : req.method ≠ "HEAD" := by simp [hmethod]
  simp only [handle, hpath, hpass, hserve, hallowed, if_neg hoptions, if_neg hhead, if_true]
  rw [passGate_eq_ok hpass, answer_limiter]

/-! ## What a request does -/

/-- The site with an account more. -/
def withAccount (s : Site) (c : Credentials) : Site :=
  let user : User := ⟨s.server.store.lastUser + 1, trimmed c.username, hashPassword s.nextSalt c.password, s.server.now⟩
  let store := { s.server.store with
    users := s.server.store.users ++ [user], lastUser := s.server.store.lastUser + 1 }
  { s with salts := s.salts + 1, server := { s.server with store } }

/-- The ways in which a registration goes. -/
inductive Registers (s : Site) (c : Credentials) : Response × Site → Prop
  | blank (h : trimmed c.username = "" ∨ c.password = "") :
    Registers s c (.text 400 "Username and password are required", s)
  | taken (h : ¬ (trimmed c.username = "" ∨ c.password = "")) (user : User)
    (htaken : s.server.store.findName (trimmed c.username) = some user) :
    Registers s c (.text 400 "Username already exists", { s with salts := s.salts + 1 })
  | opened (h : ¬ (trimmed c.username = "" ∨ c.password = ""))
    (hfree : s.server.store.findName (trimmed c.username) = none) :
    Registers s c (.json 201 (UserInfo.toJson ⟨s.server.store.lastUser + 1, trimmed c.username, s.server.now⟩),
      s.withAccount c)

theorem registers (h : s.server.store.Ready) (c : Credentials) : s.Registers c (s.register c) := by
  simp only [register]
  split_ifs with hblank
  · exact .blank hblank
  · simp only [Store.createUser, h.require, bind, Except.bind, pure, Except.pure]
    cases hname : s.server.store.findName (trimmed c.username) with
    | some user => exact .taken hblank user hname
    | none => exact .opened hblank hname

theorem login_eq (h : s.server.store.Ready) (c : Credentials) :
    s.login c = match s.server.store.findName (trimmed c.username) with
      | none => .empty 401
      | some user => if verifyPassword c.password user.passwordHash then
          .json 200 (.record ((TokenPair.issue s.secret s.server.now ⟨user.id, user.username⟩).members ++
            [("user", user.info.toJson)]))
        else .empty 401 := by
  simp only [login, Store.credentials, h.require, bind, Except.bind, pure, Except.pure]
  cases s.server.store.findName (trimmed c.username) <;> rfl

theorem refresh_eq (h : s.server.store.Ready) (token : String) :
    s.refresh token = match Token.resolveRefresh s.secret s.server.now token with
      | .error _ => .empty 401
      | .ok who => match s.server.store.findUser who.user with
        | none => .empty 401
        | some user => .json 200 (TokenPair.issue s.secret s.server.now ⟨user.id, user.username⟩).toJson := by
  simp only [refresh, Store.userInfo, h.require, bind, Except.bind, pure, Except.pure]
  cases Token.resolveRefresh s.secret s.server.now token with
  | error e => rfl
  | ok who =>
    dsimp only
    cases s.server.store.findUser who.user <;> rfl

/-! ## Sequences of requests -/

/-- The site at a moment. -/
def atTime (s : Site) (now : Int) : Site := { s with server := { s.server with now } }

/-- Answers what is asked at a moment. -/
def answerAt (s : Site) (x : Int × AccountCall) : Response × Site := (s.atTime x.1).answer x.2

/-- The site after a request. -/
def ask (s : Site) (x : Int × AccountCall) : Site := (s.answerAt x).2

/-- The site after a sequence of requests, each at its moment. -/
def after (s : Site) (calls : List (Int × AccountCall)) : Site := calls.foldl ask s

theorem after_snoc (s : Site) (calls : List (Int × AccountCall)) (x : Int × AccountCall) :
    s.after (calls ++ [x]) = (s.after calls).ask x :=
  List.foldl_append ..

/-- The answers to a sequence of requests. -/
def answers (s : Site) (calls : List (Int × AccountCall)) : List Response :=
  Run.output ask (fun s x => [(s.answerAt x).1]) s calls

/-- Answers a request at a moment. -/
def handleAt (s : Site) (x : Int × Request) : Response × Site := (s.atTime x.1).handle x.2

/-- The requests ask this, each at its moment, and the limiter lets each of them pass. -/
inductive Carries : Site → List (Int × Request) → List (Int × AccountCall) → Prop
  | nil (s : Site) : Carries s [] []
  | cons {s s' : Site} {now : Int} {req : Request} {call : AccountCall} {reqs : List (Int × Request)}
    {calls : List (Int × AccountCall)} (hmethod : req.method = "POST")
    (hpath : Route.ofPath? req.path = some call.route) (hasked : call.IsAskedBy req)
    (hpass : (s.atTime now).passGate call.route req = .ok s') (hrest : Carries (s.handleAt (now, req)).2 reqs calls) :
    Carries s ((now, req) :: reqs) ((now, call) :: calls)

theorem answerAt_limiter (s : Site) (limiter : Limiter) (x : Int × AccountCall) :
    ({ s with limiter } : Site).answerAt x = ((s.answerAt x).1, { s.ask x with limiter }) :=
  answer_limiter (s.atTime x.1) limiter x.2

theorem answers_limiter (s : Site) (limiter : Limiter) (calls : List (Int × AccountCall)) :
    ({ s with limiter } : Site).answers calls = s.answers calls ∧
      ({ s with limiter } : Site).after calls = { s.after calls with limiter } := by
  induction calls generalizing s with
  | nil => exact ⟨rfl, rfl⟩
  | cons x calls ih =>
    obtain ⟨hanswers, hafter⟩ := ih (s.ask x)
    have hask : ({ s with limiter } : Site).ask x = { s.ask x with limiter } := by rw [ask, answerAt_limiter]
    simp only [answers, after, Run.output, List.foldl_cons, answerAt_limiter, hask] at hanswers hafter ⊢
    exact ⟨by rw [hanswers], hafter⟩

/-- A sequence of requests is answered as what they ask, and apart from the limiter the site is left as by that. -/
theorem Carries.answered {reqs : List (Int × Request)} {calls : List (Int × AccountCall)} (h : s.Carries reqs calls) :
    Run.output (fun s x => (s.handleAt x).2) (fun s x => [(s.handleAt x).1]) s reqs = s.answers calls ∧
      ∃ limiter, reqs.foldl (fun s x => (s.handleAt x).2) s = { s.after calls with limiter } := by
  induction h with
  | nil s => exact ⟨rfl, s.limiter, rfl⟩
  | @cons s s' now req call reqs calls hmethod hpath hasked hpass hrest ih =>
    have hhandle : s.handleAt (now, req) = ((s.answerAt (now, call)).1, { s.ask (now, call) with limiter := s'.limiter }) :=
      handle_of_asked hmethod hpath hasked hpass
    simp only [hhandle] at ih
    obtain ⟨hanswers, limiter, hafter⟩ := ih
    obtain ⟨hanswers', hafter'⟩ := answers_limiter (s.ask (now, call)) s'.limiter calls
    refine ⟨?_, limiter, ?_⟩
    · rw [Run.output, hhandle, hanswers, hanswers']
      rfl
    · rw [List.foldl_cons, hhandle, hafter, hafter']
      rfl

/-- A registration succeeds, for a name without the blanks around it. -/
def Enrolls (s : Site) (x : Int × AccountCall) (name password : String) (user : UserInfo) : Prop :=
  ∃ c, x.2 = .register c ∧ trimmed c.username = name ∧ c.password = password ∧ (s.answerAt x).1 = .json 201 user.toJson

/-- A registration among the requests has succeeded. -/
def Registered (s : Site) (calls : List (Int × AccountCall)) (name password : String) (user : UserInfo) : Prop :=
  Run.Sometime ask (fun s x => s.Enrolls x name password user) s calls

theorem registered_snoc {calls : List (Int × AccountCall)} {x : Int × AccountCall} {name password : String}
    {user : UserInfo} : s.Registered (calls ++ [x]) name password user ↔
      s.Registered calls name password user ∨ (s.after calls).Enrolls x name password user :=
  Run.sometime_snoc

theorem Registered.append {calls : List (Int × AccountCall)} {name password : String} {user : UserInfo}
    (h : s.Registered calls name password user) (more : List (Int × AccountCall)) :
    s.Registered (calls ++ more) name password user :=
  Run.sometime_append.2 (.inl h)

theorem toJson_userInfo_inj {u v : UserInfo} (h : u.toJson = v.toJson) : u = v := by
  obtain ⟨id, username, createdAt⟩ := u
  obtain ⟨id', username', createdAt'⟩ := v
  simpa [UserInfo.toJson, UserInfo.members, Json.record, Json.int, Json.text] using h

theorem json_inj {status : Nat} {v w : Json} (h : Response.json status v = .json status w) : v = w := by
  simpa [Response.json] using h

/-- What is kept of a password is a hash of it, with one of the next salts. -/
def IsHashOf (s : Site) (count : Nat) (hash password : String) : Prop :=
  ∃ k ≤ count, hash = hashPassword (littleEndian 16 (s.salts + k)) password

/-- The users are those who have registered, and what is kept of each is a hash of the password that was given then. -/
structure Owned (s₀ : Site) (calls : List (Int × AccountCall)) (s : Site) : Prop where
  ready : s.server.store.Ready
  secret : s.secret = s₀.secret
  salts : s₀.salts ≤ s.salts ∧ s.salts ≤ s₀.salts + calls.length
  numbers : s.server.store.lastUser ≤ calls.length ∧
    ∀ u ∈ s.server.store.users, ∃ n ≤ s.server.store.lastUser, u.id = Int.ofNat n
  ids : (s.server.store.users.map (·.id)).Nodup
  names : (s.server.store.users.map (·.username)).Nodup
  users : ∀ u ∈ s.server.store.users, ∃ password, s₀.Registered calls u.username password u.info ∧
    s₀.IsHashOf calls.length u.passwordHash password
  kept : ∀ name password user, s₀.Registered calls name password user → user.username = name ∧
    ∃ u ∈ s.server.store.users, u.info = user ∧ s₀.IsHashOf calls.length u.passwordHash password

theorem IsHashOf.mono {n m : Nat} (hnm : n ≤ m) {hash password : String} (h : s.IsHashOf n hash password) :
    s.IsHashOf m hash password := by
  obtain ⟨k, hk, hhash⟩ := h
  exact ⟨k, Nat.le_trans hk hnm, hhash⟩

namespace Owned

variable {s₀ : Site} {calls : List (Int × AccountCall)} {x : Int × AccountCall} {c : Credentials}

theorem start (h : s₀.server.store = .empty) : Owned s₀ [] s₀ where
  ready := by
    rw [h]
    exact ⟨rfl, rfl⟩
  secret := rfl
  salts := ⟨Nat.le_refl _, Nat.le_refl _⟩
  numbers := by simp [h, Store.empty]
  ids := by simp [h, Store.empty]
  names := by simp [h, Store.empty]
  users := by simp [h, Store.empty]
  kept name password user hregistered := hregistered.elim

/-- A request that opens no account. -/
theorem keep (h : Owned s₀ calls s) {s' : Site} (hstore : s'.server.store = s.server.store) (hsecret : s'.secret = s.secret)
    (hsalts : s.salts ≤ s'.salts ∧ s'.salts ≤ s.salts + 1)
    (hnew : ∀ name password user, s₀.Registered (calls ++ [x]) name password user →
      s₀.Registered calls name password user) : Owned s₀ (calls ++ [x]) s' where
  ready := hstore ▸ h.ready
  secret := hsecret.trans h.secret
  salts := by
    have hbefore := h.salts
    rw [List.length_append, List.length_singleton]
    omega
  numbers := by
    have hbefore := h.numbers
    rw [hstore, List.length_append, List.length_singleton]
    exact ⟨by omega, hbefore.2⟩
  ids := hstore ▸ h.ids
  names := hstore ▸ h.names
  users u hu := by
    obtain ⟨password, hregistered, hhash⟩ := h.users u (hstore ▸ hu)
    exact ⟨password, registered_snoc.2 (.inl hregistered), hhash.mono (by simp)⟩
  kept name password user hregistered := by
    obtain ⟨hname, u, hu, hinfo, hhash⟩ := h.kept name password user (hnew _ _ _ hregistered)
    exact ⟨hname, u, hstore ▸ hu, hinfo, hhash.mono (by simp)⟩

/-- The next hash is made with the next salt. -/
theorem isHashOf_next (h : Owned s₀ calls s) (password : String) :
    s₀.IsHashOf (calls.length + 1) (hashPassword s.nextSalt password) password := by
  have hsalts := h.salts
  have hsalt : s₀.salts + (s.salts - s₀.salts + 1) = s.salts + 1 := by omega
  refine ⟨s.salts - s₀.salts + 1, by omega, ?_⟩
  rw [hsalt]
  rfl

/-- A request that opens an account. -/
theorem enroll (h : Owned s₀ calls s) {now : Int} (hs : s = s₀.after calls)
    (hfree : s.server.store.findName (trimmed c.username) = none)
    (hanswer : (s.answerAt (now, .register c)).1 =
      .json 201 (UserInfo.toJson ⟨s.server.store.lastUser + 1, trimmed c.username, now⟩)) :
    Owned s₀ (calls ++ [(now, .register c)]) ((s.atTime now).withAccount c) where
  ready := ⟨h.ready.unlocked, h.ready.complete⟩
  secret := h.secret
  salts := by
    have hbefore := h.salts
    simp only [withAccount, atTime, List.length_append, List.length_singleton]
    omega
  numbers := by
    obtain ⟨hlast, hids⟩ := h.numbers
    simp only [withAccount, atTime, List.length_append, List.length_singleton, List.mem_append, List.mem_singleton]
    refine ⟨by omega, ?_⟩
    rintro u (hu | rfl)
    · obtain ⟨n, hn, hid⟩ := hids u hu
      exact ⟨n, by omega, hid⟩
    · exact ⟨s.server.store.lastUser + 1, Nat.le_refl _, rfl⟩
  ids := by
    obtain ⟨hlast, hids⟩ := h.numbers
    simp only [withAccount, atTime, List.map_append, List.map_cons, List.map_nil]
    rw [List.nodup_append]
    refine ⟨h.ids, by simp, ?_⟩
    simp only [List.mem_map, List.mem_singleton, forall_exists_index, and_imp, forall_apply_eq_imp_iff₂]
    rintro u hu _ rfl hsame
    obtain ⟨n, hn, hid⟩ := hids u hu
    have hnew : (n : Int) = s.server.store.lastUser + 1 := hid.symm.trans hsame
    omega
  names := by
    simp only [withAccount, atTime, List.map_append, List.map_cons, List.map_nil]
    rw [List.nodup_append]
    refine ⟨h.names, by simp, ?_⟩
    simpa [Store.findName] using hfree
  users u hu := by
    simp only [withAccount, atTime, List.mem_append, List.mem_singleton] at hu
    rcases hu with hu | rfl
    · obtain ⟨password, hregistered, hhash⟩ := h.users u hu
      exact ⟨password, registered_snoc.2 (.inl hregistered), hhash.mono (by simp)⟩
    · refine ⟨c.password, registered_snoc.2 (.inr ⟨c, rfl, rfl, rfl, hs ▸ hanswer⟩), ?_⟩
      rw [List.length_append]
      exact h.isHashOf_next c.password
  kept name password user hregistered := by
    simp only [withAccount, atTime, List.mem_append, List.mem_singleton]
    rcases registered_snoc.1 hregistered with hregistered | ⟨c', hsame, rfl, rfl, hanswer'⟩
    · obtain ⟨hname, u, hu, hinfo, hhash⟩ := h.kept name password user hregistered
      exact ⟨hname, u, .inl hu, hinfo, hhash.mono (by simp)⟩
    · cases hsame
      rw [← hs, hanswer] at hanswer'
      obtain rfl := toJson_userInfo_inj (json_inj hanswer')
      rw [List.length_append]
      exact ⟨rfl, _, .inr rfl, rfl, h.isHashOf_next c.password⟩

theorem atTime (h : Owned s₀ calls s) (now : Int) : Owned s₀ calls (s.atTime now) :=
  { h with }

theorem ask (h : Owned s₀ calls s) (hs : s = s₀.after calls) (x : Int × AccountCall) :
    Owned s₀ (calls ++ [x]) (s.ask x) := by
  obtain ⟨now, call⟩ := x
  -- Only a registration that succeeds is answered as one.
  have hnew : (∀ c, call = .register c → ∀ user : UserInfo, (s.answerAt (now, .register c)).1 ≠ .json 201 user.toJson) →
      ∀ name password user, s₀.Registered (calls ++ [(now, call)]) name password user →
        s₀.Registered calls name password user := by
    intro hfails name password user hregistered
    rcases registered_snoc.1 hregistered with hregistered | ⟨c, hsame, -, -, hanswer⟩
    · exact hregistered
    · cases hsame
      rw [← hs] at hanswer
      exact absurd hanswer (hfails c rfl user)
  cases call with
  | login c => exact h.keep rfl rfl ⟨Nat.le_refl _, Nat.le_succ _⟩ (hnew fun c hc => by cases hc)
  | refresh token => exact h.keep rfl rfl ⟨Nat.le_refl _, Nat.le_succ _⟩ (hnew fun c hc => by cases hc)
  | register c =>
    have hregisters := registers (s := s.atTime now) h.ready c
    have hresult : s.answerAt (now, .register c) = (s.atTime now).register c := rfl
    have hanswer : (s.answerAt (now, .register c)).1 = ((s.atTime now).register c).1 := by rw [hresult]
    rw [Site.ask, hresult]
    generalize (s.atTime now).register c = result at hregisters hanswer
    cases hregisters with
    | blank hblank =>
      refine h.keep rfl rfl ⟨Nat.le_refl _, Nat.le_succ _⟩ (hnew fun c' hc user => ?_)
      cases hc
      rw [hanswer]
      simp [Response.text, Response.json]
    | taken hblank user htaken =>
      refine h.keep rfl rfl ⟨Nat.le_succ _, Nat.le_refl _⟩ (hnew fun c' hc user => ?_)
      cases hc
      rw [hanswer]
      simp [Response.text, Response.json]
    | opened _ hfree => exact h.enroll hs hfree hanswer

end Owned

theorem owned_after {s₀ : Site} (h : s₀.server.store = .empty) (calls : List (Int × AccountCall)) :
    Owned s₀ calls (s₀.after calls) := by
  induction calls using List.reverseRecOn with
  | nil => exact .start h
  | append_singleton calls x ih =>
    rw [after_snoc]
    exact ih.ask rfl x

/-! ## Looking up an account -/

theorem find?_key {α κ : Type} [DecidableEq κ] {key : α → κ} {l : List α} (h : (l.map key).Nodup) {a : α} (ha : a ∈ l) :
    l.find? (fun b => key b = key a) = some a := by
  induction l with
  | nil => simp at ha
  | cons b l ih =>
    simp only [List.map_cons, List.nodup_cons, List.mem_map, not_exists, not_and] at h
    rcases List.mem_cons.1 ha with rfl | ha
    · simp
    · have hne : key b ≠ key a := fun hkey => h.1 a ha hkey.symm
      simp [hne, ih h.2 ha]

namespace Owned

variable {s₀ : Site} {calls : List (Int × AccountCall)} {name password : String} {user : UserInfo}

theorem findName_of_registered (h : Owned s₀ calls s) (hregistered : s₀.Registered calls name password user) :
    ∃ u, s.server.store.findName name = some u ∧ u.info = user ∧
      s₀.IsHashOf calls.length u.passwordHash password := by
  obtain ⟨rfl, u, hu, rfl, hhash⟩ := h.kept name password user hregistered
  exact ⟨u, find?_key h.names hu, rfl, hhash⟩

theorem findUser_of_registered (h : Owned s₀ calls s) (hregistered : s₀.Registered calls name password user) :
    ∃ u, s.server.store.findUser user.id = some u ∧ u.info = user := by
  obtain ⟨-, u, hu, rfl, -⟩ := h.kept name password user hregistered
  exact ⟨u, find?_key h.ids hu, rfl⟩

theorem registered_of_findName (h : Owned s₀ calls s) {u : User} (hfound : s.server.store.findName name = some u) :
    ∃ password, s₀.Registered calls name password u.info ∧ s₀.IsHashOf calls.length u.passwordHash password := by
  obtain rfl : u.username = name := by simpa using List.find?_some hfound
  exact h.users u (List.mem_of_find?_eq_some hfound)

theorem findName_eq_none_iff (h : Owned s₀ calls s) :
    s.server.store.findName name = none ↔ ∀ password user, ¬ s₀.Registered calls name password user := by
  constructor
  · intro hnone password user hregistered
    obtain ⟨u, hfound, -⟩ := h.findName_of_registered hregistered
    rw [hnone] at hfound
    cases hfound
  · intro hnobody
    cases hfound : s.server.store.findName name with
    | none => rfl
    | some u =>
      obtain ⟨password, hregistered, -⟩ := h.registered_of_findName hfound
      exact absurd hregistered (hnobody password u.info)

end Owned

/-! ## Tokens of an account -/

/-- Each of the two tokens is accepted as its kind, and as its kind only, and is its owner's. -/
structure IsFor (secret : List UInt8) (now : Int) (who : Identity) (tokens : TokenPair) : Prop where
  access : Token.resolve secret now tokens.access = .ok who
  refresh : Token.resolveRefresh secret now tokens.refresh = .ok who
  notRefresh : Token.resolveRefresh secret now tokens.access = .error .wrongKind
  notAccess : Token.resolve secret now tokens.refresh = .error .wrongKind

/-- The clock shows a moment since 1970, and the milliseconds until then have 64 bits. -/
def IsMoment (now : Int) : Prop := 0 ≤ now ∧ isInt64 now = true

instance (now : Int) : Decidable (IsMoment now) := inferInstanceAs (Decidable (_ ∧ _))

theorem canIssue {kind : TokenKind} {n : Nat} (hn : n < 2 ^ 63) (hnow : IsMoment now) (name : String) :
    Token.CanIssue now kind ⟨Int.ofNat n, name⟩ := by
  refine Token.canIssue_of_fits ?_ hnow.2 hnow.1 kind
  show isInt64 (Int.ofNat n) = true
  rw [isInt64_iff, Int.ofNat_eq_natCast]
  omega

theorem isFor_issue (secret : List UInt8) {who : Identity} (hcan : ∀ kind, Token.CanIssue now kind who) :
    IsFor secret now who (TokenPair.issue secret now who) := by
  have hlater : ∀ kind : TokenKind, ¬ Token.Expires (secondsOf now + kind.lifetime) now := by
    intro kind
    have hlifetime := (Token.lifetime_bounds kind).1
    simp only [Token.Expires, leeway]
    omega
  constructor <;>
    simp [TokenPair.issue, Token.resolve, Token.resolveRefresh, Token.resolveKind_issue _ (hcan _), hlater]

/-- A request among these was answered with the refresh token, which was then the given one's. -/
def IssuedTo (s : Site) (calls : List (Int × AccountCall)) (token : String) (who : Identity) : Prop :=
  Run.Sometime ask (fun t x => ∃ v, (t.answerAt x).1 = .json 200 v ∧ v.get? "refresh_token" = some (.text token) ∧
    Token.resolveRefresh s.secret x.1 token = .ok who) s calls

namespace Owned

variable {s₀ : Site} {calls : List (Int × AccountCall)}

/-- Who is answered with tokens has an account, and the tokens are those of the account. -/
theorem exists_user_of_tokens (h : Owned s₀ calls s) {x : Int × AccountCall} {v : Json}
    (hanswer : (s.answerAt x).1 = .json 200 v) : ∃ u ∈ s.server.store.users,
      v.get? "refresh_token" = some (.text (Token.issue s₀.secret x.1 .refresh ⟨u.id, u.username⟩)) := by
  obtain ⟨now, call⟩ := x
  rw [← h.secret]
  cases call with
  | register c =>
    have hregisters := registers (s := s.atTime now) h.ready c
    have hresult : ((s.atTime now).register c).1 = .json 200 v := hanswer
    generalize (s.atTime now).register c = result at hregisters hresult
    cases hregisters <;> simp [Response.text, Response.json] at hresult
  | login c =>
    have hresult : (s.atTime now).login c = .json 200 v := hanswer
    rw [login_eq (h.atTime now).ready] at hresult
    split at hresult
    · simp [Response.empty, Response.json] at hresult
    · rename_i u hfound
      split_ifs at hresult
      · obtain rfl := json_inj hresult
        exact ⟨u, List.mem_of_find?_eq_some hfound, rfl⟩
      · simp [Response.empty, Response.json] at hresult
  | refresh token =>
    have hresult : (s.atTime now).refresh token = .json 200 v := hanswer
    rw [refresh_eq (h.atTime now).ready] at hresult
    split at hresult
    · simp [Response.empty, Response.json] at hresult
    · split at hresult
      · simp [Response.empty, Response.json] at hresult
      · rename_i u hfound
        obtain rfl := json_inj hresult
        exact ⟨u, List.mem_of_find?_eq_some hfound, rfl⟩

/-- A registration succeeds for a name that is free, and gives out the next identifier. -/
theorem register (h : Owned s₀ calls s) (now : Int) (c : Credentials) :
    ((s.answerAt (now, .register c)).1.status = 201 ↔ trimmed c.username ≠ "" ∧ c.password ≠ "" ∧
      ∀ password user, ¬ s₀.Registered calls (trimmed c.username) password user) ∧
    ((s.answerAt (now, .register c)).1.status ≠ 201 →
      (s.answerAt (now, .register c)).2.server.store = s.server.store) ∧
    ((s.answerAt (now, .register c)).1.status = 201 → ∃ user : UserInfo,
      (s.answerAt (now, .register c)).1 = .json 201 user.toJson ∧ user.username = trimmed c.username ∧
      ∀ name password user', s₀.Registered calls name password user' → user'.id < user.id) := by
  have hregisters := registers (s := s.atTime now) h.ready c
  have hresult : s.answerAt (now, .register c) = (s.atTime now).register c := rfl
  rw [hresult, ← h.findName_eq_none_iff]
  generalize (s.atTime now).register c = result at hregisters
  cases hregisters with
  | blank hblank =>
    refine ⟨⟨fun hstatus => ?_, fun hfine => ?_⟩, fun _ => rfl, fun hstatus => ?_⟩
    · simp [Response.text] at hstatus
    · exact absurd hblank (not_or.2 ⟨hfine.1, hfine.2.1⟩)
    · simp [Response.text] at hstatus
  | taken hblank user htaken =>
    refine ⟨⟨fun hstatus => ?_, fun hfine => ?_⟩, fun _ => rfl, fun hstatus => ?_⟩
    · simp [Response.text] at hstatus
    · exact absurd (htaken.symm.trans hfine.2.2) (by simp)
    · simp [Response.text] at hstatus
  | opened hblank hfree =>
    obtain ⟨hname, hpassword⟩ := not_or.1 hblank
    refine ⟨⟨fun _ => ⟨hname, hpassword, hfree⟩, fun _ => rfl⟩, fun hstatus => absurd rfl hstatus,
      fun _ => ⟨_, rfl, rfl, fun name password user' hregistered => ?_⟩⟩
    obtain ⟨-, u, hu, rfl, -⟩ := h.kept name password user' hregistered
    obtain ⟨n, hn, hid⟩ := h.numbers.2 u hu
    have hlt : (n : Int) < s.server.store.lastUser + 1 := by omega
    show u.id < _
    rw [hid]
    exact hlt

theorem isFor_issue (h : Owned s₀ calls s) (hcount : calls.length < 2 ^ 63) {u : User} (hu : u ∈ s.server.store.users)
    (hnow : IsMoment now) :
    IsFor s₀.secret now ⟨u.id, u.username⟩ (TokenPair.issue s₀.secret now ⟨u.id, u.username⟩) := by
  obtain ⟨hlast, hids⟩ := h.numbers
  obtain ⟨n, hn, hid⟩ := hids u hu
  rw [hid]
  exact Site.isFor_issue s₀.secret fun kind => canIssue (by omega) hnow u.username

/-- A login succeeds with the password of a registration, and gives tokens of that account. -/
theorem login (h : Owned s₀ calls s) (hcount : calls.length < 2 ^ 63) (hnow : IsMoment now) {c : Credentials}
    (hhash : ∀ name user password hash, s₀.Registered calls name password user → s₀.IsHashOf calls.length hash password →
      verifyPassword c.password hash = true → c.password = password) :
    ((s.answerAt (now, .login c)).1.status = 200 ↔
      ∃ user, s₀.Registered calls (trimmed c.username) c.password user) ∧
    ∀ user, s₀.Registered calls (trimmed c.username) c.password user → ∃ tokens : TokenPair,
      (s.answerAt (now, .login c)).1 = .json 200 (.record (tokens.members ++ [("user", user.toJson)])) ∧
      IsFor s₀.secret now ⟨user.id, user.username⟩ tokens := by
  have hresult : (s.answerAt (now, .login c)).1 = (s.atTime now).login c := rfl
  have hfind : (s.atTime now).server.store.findName (trimmed c.username) =
    s.server.store.findName (trimmed c.username) := rfl
  have hgives : ∀ user, s₀.Registered calls (trimmed c.username) c.password user → ∃ tokens : TokenPair,
      (s.answerAt (now, .login c)).1 = .json 200 (.record (tokens.members ++ [("user", user.toJson)])) ∧
      IsFor s₀.secret now ⟨user.id, user.username⟩ tokens := by
    intro user hregistered
    obtain ⟨u, hfound, rfl, k, -, hkept⟩ := h.findName_of_registered hregistered
    have hverified : verifyPassword c.password u.passwordHash = true := by
      rw [hkept]
      exact verifyPassword_hashPassword (by simp) c.password
    refine ⟨TokenPair.issue s₀.secret now ⟨u.id, u.username⟩, ?_,
      h.isFor_issue hcount (List.mem_of_find?_eq_some hfound) hnow⟩
    rw [hresult, login_eq (h.atTime now).ready, hfind, hfound]
    simp only [hverified, if_true]
    rw [← h.secret]
    rfl
  refine ⟨⟨fun hstatus => ?_, fun ⟨user, hregistered⟩ => ?_⟩, hgives⟩
  · rw [hresult, login_eq (h.atTime now).ready, hfind] at hstatus
    cases hfound : s.server.store.findName (trimmed c.username) with
    | none => simp [hfound, Response.empty] at hstatus
    | some u =>
      obtain ⟨password, hregistered, hkept⟩ := h.registered_of_findName hfound
      by_cases hverified : verifyPassword c.password u.passwordHash = true
      · rw [hhash _ _ _ _ hregistered hkept hverified]
        exact ⟨u.info, hregistered⟩
      · simp [hfound, hverified, Response.empty] at hstatus
  · obtain ⟨tokens, hanswer, -⟩ := hgives user hregistered
    rw [hanswer]
    rfl

end Owned

/-- No password that is given in the requests verifies against a hash of another one. -/
def TellsApart (s : Site) (calls : List (Int × AccountCall)) : Prop :=
  ∀ p ∈ calls.filterMap (·.2.password?), ∀ q ∈ calls.filterMap (·.2.password?), ∀ k ≤ calls.length,
    verifyPassword p (hashPassword (littleEndian 16 (s.salts + k)) q) = true → p = q

theorem mem_passwords_of_registered {calls : List (Int × AccountCall)} {name password : String} {user : UserInfo}
    (h : s.Registered calls name password user) : password ∈ calls.filterMap (·.2.password?) := by
  obtain ⟨before, ⟨now, call⟩, later, rfl, c, rfl, -, rfl, -⟩ := Run.sometime_iff.1 h
  simp [AccountCall.password?]

/-- A refresh token that was issued is exchanged for new tokens of the same account. -/
theorem exchange_of_issued {calls : List (Int × AccountCall)} (hempty : s.server.store = .empty)
    (hcount : calls.length < 2 ^ 63) (hclock : ∀ x ∈ calls, IsMoment x.1) (hnow : IsMoment now) {token : String}
    {who : Identity} (hissued : s.IssuedTo calls token who) (hexpired : ¬ Token.IsExpired s.secret now token) :
    (∃ password user, s.Registered calls who.username password user ∧ user.id = who.user) ∧
    ∃ tokens : TokenPair, ((s.after calls).answerAt (now, .refresh token)).1 = .json 200 tokens.toJson ∧
      IsFor s.secret now who tokens := by
  obtain ⟨before, ⟨issued, call⟩, later, rfl, v, hanswer, htoken, hresolve⟩ := Run.sometime_iff.1 hissued
  have hbefore := owned_after hempty before
  have hlength : before.length < 2 ^ 63 := by
    rw [List.length_append] at hcount
    omega
  obtain ⟨u, hu, htoken'⟩ := hbefore.exists_user_of_tokens hanswer
  obtain rfl : token = Token.issue s.secret issued .refresh ⟨u.id, u.username⟩ := by
    rw [htoken] at htoken'
    simpa [Json.text] using htoken'
  have hfor := hbefore.isFor_issue hlength hu (hclock (issued, call) (by simp))
  obtain rfl : who = ⟨u.id, u.username⟩ := Except.ok.inj (hresolve.symm.trans hfor.refresh)
  have hnow' : Token.resolveRefresh s.secret now _ = .ok _ :=
    Token.resolveKind_eq_ok_iff.2 ((Token.resolveKind_eq_ok_iff.1 hresolve).until_expired hexpired)
  obtain ⟨password, hregistered, -⟩ := hbefore.users u hu
  have hregistered := hregistered.append ((issued, call) :: later)
  refine ⟨⟨password, u.info, hregistered, rfl⟩, TokenPair.issue s.secret now ⟨u.id, u.username⟩, ?_, ?_⟩
  · have hafter := owned_after hempty (before ++ (issued, call) :: later)
    obtain ⟨u', hfound, hinfo⟩ := hafter.findUser_of_registered hregistered
    have hsame : u'.id = u.id ∧ u'.username = u.username := by
      simp only [User.info, UserInfo.mk.injEq] at hinfo
      exact ⟨hinfo.1, hinfo.2.1⟩
    have hfound : ((s.after (before ++ (issued, call) :: later)).atTime now).server.store.findUser u.id = some u' := hfound
    have hresult : ∀ token, ((s.after (before ++ (issued, call) :: later)).answerAt (now, .refresh token)).1 =
        ((s.after (before ++ (issued, call) :: later)).atTime now).refresh token := fun _ => rfl
    have hsecret : ((s.after (before ++ (issued, call) :: later)).atTime now).secret = s.secret := hafter.secret
    have hclock : ((s.after (before ++ (issued, call) :: later)).atTime now).server.now = now := rfl
    rw [hresult, refresh_eq (hafter.atTime now).ready, hsecret, hclock, hnow']
    simp only [hfound, hsame]
  · exact hbefore.isFor_issue hlength hu hnow

/-- **Accounts belong to those who opened them.** Whatever is asked of a site that begins without users: a registration
succeeds if and only if it gives a name, which is taken without the blanks around it, and a password, and none has
succeeded for that name before; it gives out a larger identifier than all before, and one that fails leaves the users as
they were. A login succeeds if and only if it gives the name and the password of a registration that has; it is answered
with the identifier and the name of that one, and with two tokens that are good for exactly these, each as its own kind.
A refresh token that was issued and is not expired is exchanged for two tokens of the same account. Of the hash function
it is assumed that it tells the passwords that are given apart. -/
theorem accounts_belong_to_their_owners (s : Site) (calls : List (Int × AccountCall))
    (hempty : s.server.store = .empty) (hcount : calls.length < 2 ^ 63) (hclock : ∀ x ∈ calls, IsMoment x.1)
    (hhash : s.TellsApart calls) :
    (∀ reqs, s.Carries reqs calls →
      Run.output (fun s x => (s.handleAt x).2) (fun s x => [(s.handleAt x).1]) s reqs = s.answers calls ∧
      ∃ limiter, reqs.foldl (fun s x => (s.handleAt x).2) s = { s.after calls with limiter }) ∧
    ∀ before now call later, calls = before ++ (now, call) :: later →
      (∀ c, call = .register c →
        (((s.after before).answerAt (now, call)).1.status = 201 ↔ trimmed c.username ≠ "" ∧ c.password ≠ "" ∧
          ∀ password user, ¬ s.Registered before (trimmed c.username) password user) ∧
        (((s.after before).answerAt (now, call)).1.status ≠ 201 →
          ((s.after before).answerAt (now, call)).2.server.store = (s.after before).server.store) ∧
        (((s.after before).answerAt (now, call)).1.status = 201 → ∃ user : UserInfo,
          ((s.after before).answerAt (now, call)).1 = .json 201 user.toJson ∧ user.username = trimmed c.username ∧
          ∀ name password user', s.Registered before name password user' → user'.id < user.id)) ∧
      (∀ c, call = .login c →
        (((s.after before).answerAt (now, call)).1.status = 200 ↔
          ∃ user, s.Registered before (trimmed c.username) c.password user) ∧
        ∀ user, s.Registered before (trimmed c.username) c.password user → user.username = trimmed c.username ∧
          ∃ tokens : TokenPair, ((s.after before).answerAt (now, call)).1 =
              .json 200 (.record (tokens.members ++ [("user", user.toJson)])) ∧
            IsFor s.secret now ⟨user.id, user.username⟩ tokens) ∧
      ∀ token who, call = .refresh token → s.IssuedTo before token who → ¬ Token.IsExpired s.secret now token →
        (∃ password user, s.Registered before who.username password user ∧ user.id = who.user) ∧
        ∃ tokens : TokenPair, ((s.after before).answerAt (now, call)).1 = .json 200 tokens.toJson ∧
          IsFor s.secret now who tokens := by
  refine ⟨fun reqs hcarries => hcarries.answered, ?_⟩
  rintro before now call later rfl
  have hbefore := owned_after hempty before
  have hlength : before.length < 2 ^ 63 := by
    rw [List.length_append] at hcount
    omega
  have hmoment : IsMoment now := hclock (now, call) (by simp)
  refine ⟨?_, ?_, ?_⟩
  · rintro c rfl
    exact hbefore.register now c
  · rintro c rfl
    have hapart : ∀ name user password hash, s.Registered before name password user →
        s.IsHashOf before.length hash password → verifyPassword c.password hash = true → c.password = password := by
      rintro name user password hash hregistered ⟨k, hk, rfl⟩ hverified
      refine hhash c.password (by simp [AccountCall.password?]) password ?_ k (by rw [List.length_append]; omega) hverified
      exact mem_passwords_of_registered (hregistered.append ((now, .login c) :: later))
    obtain ⟨hiff, hgives⟩ := hbefore.login hlength hmoment hapart
    exact ⟨hiff, fun user hregistered => ⟨(hbefore.kept _ _ _ hregistered).1, hgives user hregistered⟩⟩
  · rintro token who rfl hissued hexpired
    exact exchange_of_issued hempty hlength (fun x hx => hclock x (by simp [hx])) hmoment hissued hexpired

/-- Ann registers with blanks around her name, nobody registers under it again, and she logs in and gets new tokens. -/
theorem accounts_belong_to_their_owners_ann :
    let s := start .default [7] 0
    let first : Int × AccountCall := (1000, .register ⟨" ann ", "pw"⟩)
    let again : Int × AccountCall := (2000, .register ⟨"ann", "pw"⟩)
    let back : Int × AccountCall := (3000, .login ⟨"ann\t", "pw"⟩)
    let body := (Json.record [("username", .text " ann "), ("password", .text "pw")]).render
    let req : Request :=
      ⟨"POST", "/api/register", [⟨"content-type", "application/json"⟩], body.toUTF8, some "127.0.0.1"⟩
    ∃ (user : UserInfo) (tokens tokens' : TokenPair), user.username = "ann" ∧
      s.Carries [(1000, req)] [first] ∧ (s.answerAt first).1 = .json 201 user.toJson ∧
      ((s.after [first]).answerAt again).1.status ≠ 201 ∧
      ((s.after [first, again]).answerAt back).1 = .json 200 (.record (tokens.members ++ [("user", user.toJson)])) ∧
      ((s.after [first, again, back]).answerAt (3000, .refresh tokens.refresh)).1 = .json 200 tokens'.toJson ∧
      IsFor s.secret 3000 ⟨user.id, user.username⟩ tokens' := by
  intro s first again back body req
  have hspaced : trimmed " ann " = "ann" := by decide +kernel
  have hplain : trimmed "ann" = "ann" := by decide +kernel
  have htabbed : trimmed "ann\t" = "ann" := by decide +kernel
  have hasked : (AccountCall.register ⟨" ann ", "pw"⟩).IsAskedBy req := by
    have htype : req.headers.mediaType?.any MediaType.isJson = true := by decide +kernel
    have hsize : ¬ jsonMaxBytes < req.body.size := by decide +kernel
    have htext : String.fromUTF8? req.body = some body := fromUTF8?_toByteArray body
    have hread : Credentials.record.decode body = .ok ⟨" ann ", "pw"⟩ := by decide +kernel
    simp only [AccountCall.IsAskedBy, jsonBody, htype, hsize, htext, hread, not_true_eq_false, if_false]
  have hcarries : s.Carries [(1000, req)] [first] := .cons rfl (by decide +kernel) hasked rfl (.nil _)
  have hall : ∀ token, _ := fun token => accounts_belong_to_their_owners s [first, again, back, (3000, .refresh token)]
    rfl (by simp) (by simp [first, again, back]; decide) (by
      intro p hp q hq k _ _
      have hp : p = "pw" := by simpa [first, again, back, AccountCall.password?] using hp
      have hq : q = "pw" := by simpa [first, again, back, AccountCall.password?] using hq
      rw [hp, hq])
  obtain ⟨-, hruns⟩ := hall ""
  obtain ⟨hopens, -, hgives⟩ := (hruns [] 1000 _ [again, back, (3000, .refresh "")] rfl).1 _ rfl
  obtain ⟨user, hanswer, hname, -⟩ := hgives (hopens.2 ⟨by rw [hspaced]; decide, by decide, fun _ _ => id⟩)
  have hregistered : ∀ more, s.Registered (first :: more) "ann" "pw" user := fun more =>
    .inl ⟨_, rfl, hspaced, rfl, hanswer⟩
  obtain ⟨htaken, -, -⟩ := (hruns [first] 2000 _ [back, (3000, .refresh "")] rfl).1 _ rfl
  obtain ⟨-, hlogin⟩ := (hruns [first, again] 3000 _ [(3000, .refresh "")] rfl).2.1 _ rfl
  obtain ⟨-, tokens, htokens, hfor⟩ := hlogin user (by rw [htabbed]; exact hregistered [again])
  have hissued : s.IssuedTo [first, again, back] tokens.refresh ⟨user.id, user.username⟩ :=
    Run.sometime_iff.2 ⟨[first, again], back, [], rfl, _, htokens, rfl, hfor.refresh⟩
  have hfresh : ¬ Token.IsExpired s.secret 3000 tokens.refresh :=
    (Token.resolveKind_eq_ok_iff.1 hfor.refresh).not_isExpired
  obtain ⟨-, hruns'⟩ := hall tokens.refresh
  obtain ⟨-, tokens', htokens', hfor'⟩ :=
    (hruns' [first, again, back] 3000 _ [] rfl).2.2 tokens.refresh _ rfl hissued hfresh
  refine ⟨user, tokens, tokens', hname.trans hspaced, hcarries, hanswer, fun hstatus => ?_, htokens, htokens', hfor'⟩
  exact (htaken.1 hstatus).2.2 "pw" user (by rw [hplain]; exact hregistered [])

end Site

end DirectChat
