import DirectChat.Proofs.Auth.Token
import DirectChat.Proofs.Table
import DirectChat.Proofs.Text.Blank
import DirectChat.Socket.Hub
import Mathlib.Data.List.TakeWhile
/-!
# Only an access token gets in

Three surfaces read tokens. An endpoint for callers takes the one in the `Authorization` field, a request for a socket
prefers the one in its query, and the exchange of tokens takes the one in its body. The first two admit the bearers of
the same access tokens, for the same user and name; the third admits only the others (`only_access_tokens_get_in`).

Who is not admitted learns so before anything else of the request is looked at, from a response or from the close of the
socket, and changes nothing: not even that socket ever reaches the server (`Line.work_of_none`).
-/

namespace DirectChat

/-! ## A token in a header field -/

/-- A list up to its last element outside of a class. -/
theorem exists_append_of_class (p : Char → Bool) (cs : List Char) :
    ∃ body ends, cs = body ++ ends ∧ (∀ c ∈ ends, p c = true) ∧ ∀ c ∈ body.getLast?, p c = false := by
  refine ⟨(cs.reverse.dropWhile p).reverse, (cs.reverse.takeWhile p).reverse, ?_, ?_, ?_⟩
  · rw [← List.reverse_append, List.takeWhile_append_dropWhile, List.reverse_reverse]
  · intro c hc
    exact List.mem_takeWhile_imp (List.mem_reverse.1 hc)
  · intro c hc
    rw [List.getLast?_reverse] at hc
    have hstop := List.head?_dropWhile_not p cs.reverse
    simp only [Option.mem_def] at hc
    simpa [hc] using hstop

/-- Whether a text can be read in a header field. -/
def isVisible (text : String) : Bool := text.toList.all fun c => (32 ≤ c.toNat && c.toNat ≤ 126) || c == '\t'

/-- The token of a field that gives this text as a token. -/
def presented (text : String) : Option String :=
  if isVisible text ∧ trimmed text ≠ "" then some (trimmed text) else none

theorem bearerToken_of_field {hs : Headers} {name text : String}
    (h : hs.first? "authorization" = some ⟨name, "Bearer " ++ text⟩) : bearerToken hs = presented text := by
  have hvisible : Header.text? ⟨name, "Bearer " ++ text⟩ = if isVisible text then some ("Bearer " ++ text) else none := by
    simp [Header.text?, isVisible]
  simp only [bearerToken, Headers.text?, h, Option.bind_eq_bind, Option.bind_some, hvisible, presented]
  by_cases htext : isVisible text = true
  · simp [htext, trimmed]
  · simp [htext]

theorem first?_onWire (hs : Headers) (name : String) :
    Headers.first? (hs.map Header.onWire) name = (hs.first? name).map Header.onWire := by
  rw [Headers.first?, Headers.first?, List.find?_map]
  rfl

theorem isBlank_of_isPadding {c : Char} (h : Header.isPadding c = true) : isBlank c = true := by
  simp only [Header.isPadding, Bool.or_eq_true, beq_iff_eq] at h
  rcases h with rfl | rfl <;> rfl

/-- The padding that a field loses on the wire is no part of its token. -/
theorem bearerToken_onWire {hs : Headers} {name text : String}
    (h : hs.first? "authorization" = some ⟨name, "Bearer " ++ text⟩) :
    bearerToken (hs.map Header.onWire) = presented text := by
  obtain ⟨body, ends, htext, hends, hlast⟩ := exists_append_of_class Header.isPadding text.toList
  have hpresented : presented text = presented (String.ofList body) := by
    have hsame : trimmed text = trimmed (String.ofList body) := by
      rw [trimmed, trimmed, trimBlanks, trimBlanks, htext, String.toList_ofList,
        stripEnds_append fun c hc => isBlank_of_isPadding (hends c hc)]
    have hvisible : isVisible text = isVisible (String.ofList body) := by
      have hends : (ends.all fun c => (32 ≤ c.toNat && c.toNat ≤ 126) || c == '\t') = true := by
        rw [List.all_eq_true]
        intro c hc
        have hpad := hends c hc
        simp only [Header.isPadding, Bool.or_eq_true, beq_iff_eq] at hpad
        rcases hpad with rfl | rfl <;> rfl
      rw [isVisible, isVisible, htext, List.all_append, hends, Bool.and_true, String.toList_ofList]
    rw [presented, presented, hsame, hvisible]
  have hfield : Headers.first? (hs.map Header.onWire) "authorization" =
      some ⟨name, String.ofList (stripEnds Header.isPadding ("Bearer ".toList ++ body))⟩ := by
    rw [first?_onWire, h, Option.map_some, Header.onWire, String.toList_append, htext, ← List.append_assoc,
      stripEnds_append hends]
  rw [hpresented]
  rcases List.eq_nil_or_concat body with rfl | ⟨front, c, rfl⟩
  · have hstripped : stripEnds Header.isPadding ("Bearer ".toList ++ []) = "Bearer".toList := by decide
    have hvalue : Header.text? ⟨name, String.ofList "Bearer".toList⟩ = some "Bearer" := by simp [Header.text?]
    simp only [bearerToken, Headers.text?, hfield, hstripped, Option.bind_eq_bind, Option.bind_some, hvalue]
    decide
  · rw [List.concat_eq_append] at hlast hfield ⊢
    have hstripped : stripEnds Header.isPadding ("Bearer ".toList ++ (front ++ [c])) =
        "Bearer ".toList ++ (front ++ [c]) := by
      apply stripEnds_eq_self
      · simp [Header.isPadding]
      · rw [← List.append_assoc, List.getLast?_concat]
        simpa using hlast
    rw [hstripped, String.ofList_append, String.ofList_toList] at hfield
    exact bearerToken_of_field hfield

namespace Token

variable {secret : List UInt8} {now : Int} {kind : TokenKind} {token : String} {who : Identity}

theorem isVisible_of_isTokenChar {c : Char} (h : isTokenChar c = true) :
    ((32 ≤ c.toNat && c.toNat ≤ 126) || c == '\t') = true ∧ isBlank c = false := by
  simp only [isTokenChar, Bool.or_eq_true, beq_iff_eq, Base64.isAlphanum_iff] at h
  rcases h with ((((h | h) | h) | rfl) | rfl) | rfl
  · simp [isBlank]
    omega
  · simp [isBlank]
    omega
  · simp [isBlank]
    omega
  · decide
  · decide
  · decide

/-- There is nothing around a token that admits somebody. -/
theorem Admits.trimmed_eq (h : Admits secret now kind token who) : trimmed token = token := by
  obtain ⟨claims, common, -, hopen, -⟩ := h
  have hblank : ∀ c ∈ token.toList, isBlank c = false := fun c hc =>
    (isVisible_of_isTokenChar (isTokenChar_of_open? hopen hc)).2
  rw [trimmed, trimBlanks, stripEnds_eq_self, String.ofList_toList]
  · exact fun c hc => hblank c (List.mem_of_mem_head? hc)
  · exact fun c hc => hblank c (List.mem_of_mem_getLast? hc)

/-- A token that admits somebody can be presented in a header field. -/
theorem Admits.presented_eq (h : Admits secret now kind token who) : presented token = some token := by
  have htrimmed := h.trimmed_eq
  obtain ⟨claims, common, -, hopen, -⟩ := h
  have hvisible : isVisible token = true := by
    rw [isVisible, List.all_eq_true]
    exact fun c hc => (isVisible_of_isTokenChar (isTokenChar_of_open? hopen hc)).1
  have hne : token ≠ "" := by
    rintro rfl
    simp [open?, splitLastDot?] at hopen
  rw [presented, htrimmed, if_pos ⟨hvisible, hne⟩]

end Token

/-! ## The endpoints for callers -/

namespace Site

/-- The token admits its owner to the site, as the kind as which it was issued. -/
abbrev Admits (s : Site) (kind : TokenKind) (token : String) (who : Identity) : Prop :=
  Token.Admits s.secret s.server.now kind token who

/-- The site has issued the token, but it is expired. -/
abbrev IsExpired (s : Site) (token : String) : Prop := Token.IsExpired s.secret s.server.now token

variable {s : Site} {req : Request} {who : Identity} {token : String}

theorem caller?_eq_some_iff : s.caller? req = some who ↔
    ∃ token, bearerToken req.headers = some token ∧ s.Admits .access token who := by
  unfold caller?
  cases bearerToken req.headers with
  | none => simp
  | some token =>
    simp only [Option.some.injEq, exists_eq_left', ← Token.resolveKind_eq_ok_iff, Token.resolveKind]
    cases Token.decode s.secret s.server.now token with
    | error e => simp
    | ok claims =>
      simp only
      split_ifs <;> simp

end Site

/-- Whether an endpoint is one for callers. -/
def Route.isForCallers : Route → Bool
  | .directRoom | .users | .profile | .photoUpload | .photoDelete _ => true
  | _ => false

namespace Site

variable {s : Site} {req : Request} {who : Identity} {token : String}

/-- What an endpoint for callers does for one of them. -/
def serveFor (who : Identity) (route : Route) (req : Request) (s : Site) : Option (Response × Site) :=
  match route with
  | .directRoom => some (withBody recipientRecord req s fun recipient => s.directRoom who recipient)
  | .users => some (s.users who, s)
  | .profile => some (s.profile who, s)
  | .photoUpload => some (s.uploadPhoto who req)
  | .photoDelete id => some (s.deletePhoto who id)
  | _ => none

theorem serve_of_caller {route : Route} (hroute : route.isForCallers = true) (h : s.caller? req = some who) :
    some (s.serve route req) = s.serveFor who route req := by
  cases route <;> simp_all [Route.isForCallers, serve, authenticated, serveFor]

/-- Who is not admitted is refused, whatever the path and the body say. -/
theorem handle_of_no_caller {route : Route} (hpath : Route.ofPath? req.path = some route)
    (hroute : route.isForCallers = true) (h : s.caller? req = none) :
    s.handle req = (.empty (if req.method = "OPTIONS" then 200
      else if route.methods.contains req.method then 401 else 405), s) := by
  have hserve : s.serve route req = (.empty 401, s) := by
    cases route <;> simp_all [Route.isForCallers, serve, authenticated]
  have hgate : s.passGate route req = .ok s := by
    cases route <;> simp_all [Route.isForCallers, passGate, Route.isLimited]
  simp only [handle, hpath, hgate, hserve]
  by_cases hoptions : req.method = "OPTIONS"
  · simp [hoptions]
  · by_cases hmethod : route.methods.contains req.method
    · simp only [hoptions, hmethod, if_true, if_false]
      split_ifs <;> rfl
    · simp only [hoptions, hmethod, if_false, Bool.false_eq_true]

/-! ## The exchange of tokens -/

theorem refresh_of_not_admitted (h : ∀ who, ¬ s.Admits .refresh token who) :
    s.refresh token = .empty 401 := by
  unfold refresh
  cases hresolve : Token.resolveRefresh s.secret s.server.now token with
  | error e => rfl
  | ok who => exact absurd (Token.resolveKind_eq_ok_iff.1 hresolve) (h who)

/-- What admits a caller is not exchanged. -/
theorem not_admits_refresh (h : s.Admits .access (trimmed token) who) :
    ∀ who', ¬ s.Admits .refresh token who' := by
  intro who' h'
  rw [h'.trimmed_eq] at h
  exact absurd (h.kind_eq h') (by decide)

end Site

/-! ## The socket -/

namespace Hub

variable {h : Hub} {req : Request} {who : Identity} {token : String}

/-- The answer is a line whose connection acts for the given one. -/
def OpensFor (answer : Except Response SessionId × Hub) (who : Identity) : Prop :=
  ∃ s c, answer.1 = .ok s ∧ answer.2.lines.get? s = some (.opened c) ∧ c.router.user = who.user ∧
    c.router.username = who.username

/-- The answer is a line that closes with the given code and reason. Nothing else is new. -/
def TurnsAway (h : Hub) (answer : Except Response SessionId × Hub) (code : Nat) (reason : String) : Prop :=
  answer = (.ok h.next, { h with lines := h.lines.insert h.next (.turnedAway code reason), next := h.next + 1 })

theorem OpensFor.who_eq {answer : Except Response SessionId × Hub} {who' : Identity} (ho : OpensFor answer who)
    (ho' : OpensFor answer who') : who = who' := by
  obtain ⟨s, c, hs, hline, huser, hname⟩ := ho
  obtain ⟨s', c', hs', hline', huser', hname'⟩ := ho'
  rw [hs] at hs'
  cases hs'
  rw [hline] at hline'
  cases hline'
  obtain ⟨user, username⟩ := who
  obtain ⟨user', username'⟩ := who'
  simp_all

theorem TurnsAway.not_opensFor {answer : Except Response SessionId × Hub} {code : Nat} {reason : String}
    (ht : h.TurnsAway answer code reason) : ¬ OpensFor answer who := by
  rintro ⟨s, c, hs, hline, -⟩
  rw [ht] at hs hline
  cases hs
  rw [Table.get?_insert_self] at hline
  cases hline

theorem upgrade_of_token (htoken : Site.socketToken req = .ok (some token)) :
    h.upgrade req = (.ok (h.accept token (req.headers.text? "host")).1, (h.accept token (req.headers.text? "host")).2) := by
  simp only [upgrade, htoken]

theorem opensFor_of_admits (htoken : Site.socketToken req = .ok (some token))
    (hadmits : h.site.Admits .access token who) : OpensFor (h.upgrade req) who := by
  have hresolve : Token.resolve h.site.secret h.server.now token = .ok who := Token.resolveKind_eq_ok_iff.2 hadmits
  rw [upgrade_of_token htoken]
  simp only [accept, hresolve]
  exact ⟨h.next, _, rfl, Table.get?_insert_self .., rfl, rfl⟩

/-- Who shows a token that does not admit them is turned away. -/
theorem turnsAway (htoken : Site.socketToken req = .ok (some token))
    (hnobody : ∀ who, ¬ h.site.Admits .access token who) :
    (h.site.IsExpired token → h.TurnsAway (h.upgrade req) 4001 "Token expired") ∧
      (¬ h.site.IsExpired token → h.TurnsAway (h.upgrade req) 4002 "Token invalid") := by
  have hiff : h.site.IsExpired token ↔ Token.resolveKind h.site.secret h.server.now .access token = .error .expired :=
    Token.resolveKind_eq_expired_iff.symm
  rw [upgrade_of_token htoken, hiff]
  unfold accept Token.resolve TurnsAway
  cases hresolve : Token.resolveKind h.site.secret h.server.now .access token with
  | ok who => exact absurd (Token.resolveKind_eq_ok_iff.1 hresolve) (hnobody who)
  | error e => cases e <;> simp [addLine, expiredCode, invalidCode]

theorem opensFor_iff (htoken : Site.socketToken req = .ok (some token)) :
    OpensFor (h.upgrade req) who ↔ h.site.Admits .access token who := by
  constructor
  · intro hopens
    by_cases hsomebody : ∃ who', h.site.Admits .access token who'
    · obtain ⟨who', hadmits⟩ := hsomebody
      exact hopens.who_eq (opensFor_of_admits htoken hadmits) ▸ hadmits
    · obtain ⟨hexpired, hother⟩ := turnsAway htoken (not_exists.1 hsomebody)
      by_cases hold : h.site.IsExpired token
      · exact absurd hopens (hexpired hold).not_opensFor
      · exact absurd hopens (hother hold).not_opensFor
  · exact opensFor_of_admits htoken

end Hub

/-! ## A line that is turned away -/

namespace Line

variable {l : Line}

theorem flush_of_none (h : l.connection = none) (sv : Server) : l.flush sv = (l, sv) := by
  simp only [flush, h]

theorem connection_see (l : Line) (s : Sight) : (l.see s).connection = l.connection := by
  unfold see
  split
  · split <;> rfl
  · rfl

theorem connection_readFrame (l : Line) (f : Frame) : (l.readFrame f).connection = l.connection := by
  cases f with
  | event e => exact connection_see ..
  | ping payload =>
    simp only [readFrame]
    split_ifs <;> exact connection_see ..
  | pong payload => exact connection_see ..
  | close code reason =>
    simp only [readFrame]
    split_ifs <;> exact connection_see ..

theorem connection_read (l : Line) : l.read.connection = l.connection := by
  have hframes : ∀ (fs : List Frame) (l : Line), (fs.foldl readFrame l).connection = l.connection := by
    intro fs
    induction fs with
    | nil => exact fun _ => rfl
    | cons f fs ih => exact fun l => (ih _).trans (connection_readFrame l f)
  simp only [read]
  split_ifs
  · rfl
  · exact (connection_see ..).trans (hframes ..)
  · exact hframes ..

/-- Whatever its client does, a line without a connection never reaches the server. -/
theorem work_of_none (h : l.connection = none) (sv : Server) :
    (l.work sv).2 = sv ∧ (l.work sv).1.connection = none := by
  have htake : l.takeIn sv = ({ l with arriving := [] }, sv) := by simp only [takeIn, h]
  have hflush : Line.flush { l with arriving := [] } sv = ({ l with arriving := [] }, sv) :=
    flush_of_none (l := { l with arriving := [] }) h sv
  simp only [work, flush_of_none h, htake, hflush, connection_read]
  exact ⟨trivial, h⟩

/-- The client of a line that is turned away reads the close and then that the stream is over. -/
theorem seen_work_turnedAway (code : Nat) (reason : String) (sv : Server) :
    ((turnedAway code reason).work sv).1.takeSeen.2 = [.frame (.close code reason), .finished] := by
  have htake : (turnedAway code reason).takeIn sv = (turnedAway code reason, sv) := rfl
  have hflush : (turnedAway code reason).flush sv = (turnedAway code reason, sv) := rfl
  simp only [work, htake, hflush]
  rfl

end Line

/-! ## Who gets in -/

namespace Hub

/-- What comes over the wire at the path of the socket is taken up after the background work. -/
theorem openSocket_eq {h : Hub} {req : Request} (hpath : Route.ofPath? req.path = some .socket) :
    h.openSocket req = h.settle.upgrade { req with headers := req.headers.map Header.onWire } :=
  if_pos hpath

/-- **Only an access token gets in, and every surface agrees on whom it admits.** A token that is given as a bearer's is
the same to all, whether or not the wire has taken padding off its field. An endpoint for callers admits the bearer of an
access token and acts for its owner; so does the socket, unless the query gives a token, which then decides alone. What
they admit is not exchanged for new tokens, and what is exchanged they do not admit. Whom they do not admit they refuse
before anything else is looked at, the socket without a token or with a close of its own; nothing else changes, and the
line that is closed does not reach the server later either. -/
theorem only_access_tokens_get_in (h : Hub) (req : Request) :
    (∀ name text, req.headers.first? "authorization" = some ⟨name, "Bearer " ++ text⟩ →
      bearerToken req.headers = presented text ∧ bearerToken (req.headers.map Header.onWire) = presented text) ∧
    (∀ token who, h.site.Admits .access token who → presented token = some token) ∧
    (∀ who, h.site.caller? req = some who ↔
      ∃ token, bearerToken req.headers = some token ∧ h.site.Admits .access token who) ∧
    (Site.queryToken req.query = .ok none → ∀ who, OpensFor (h.upgrade req) who ↔ h.site.caller? req = some who) ∧
    (∀ token, Site.queryToken req.query = .ok (some token) →
      ∀ who, OpensFor (h.upgrade req) who ↔ h.site.Admits .access token who) ∧
    (∀ token who, h.site.Admits .access (trimmed token) who → h.site.refresh token = .empty 401) ∧
    (∀ token, (h.site.refresh token).status = 200 → (∃ who, h.site.Admits .refresh token who) ∧
      ∀ who, ¬ h.site.Admits .access (trimmed token) who) ∧
    (∀ route, Route.ofPath? req.path = some route → route.isForCallers = true →
      (∀ who, h.site.caller? req = some who → some (h.site.serve route req) = h.site.serveFor who route req) ∧
      (h.site.caller? req = none → h.handle req = (.empty (if req.method = "OPTIONS" then 200
        else if route.methods.contains req.method then 401 else 405), h))) ∧
    (Route.ofPath? req.path = some .socket →
      h.openSocket req = h.settle.upgrade { req with headers := req.headers.map Header.onWire }) ∧
    (Site.socketToken req = .ok none → h.upgrade req = (.error (.text 401 "Missing access token"), h)) ∧
    (∀ token, Site.socketToken req = .ok (some token) → (∀ who, ¬ h.site.Admits .access token who) →
      (h.site.IsExpired token → h.TurnsAway (h.upgrade req) 4001 "Token expired") ∧
      (¬ h.site.IsExpired token → h.TurnsAway (h.upgrade req) 4002 "Token invalid")) ∧
    (∀ code reason sv, ((Line.turnedAway code reason).work sv).1.takeSeen.2 = [.frame (.close code reason), .finished]) ∧
    ∀ line : Line, line.connection = none → ∀ sv, (line.work sv).2 = sv ∧ (line.work sv).1.connection = none := by
  refine ⟨fun name text hfield => ⟨bearerToken_of_field hfield, bearerToken_onWire hfield⟩,
    fun token who hadmits => hadmits.presented_eq, fun who => Site.caller?_eq_some_iff, fun hquery who => ?_,
    fun token hquery who => opensFor_iff (by rw [Site.socketToken, hquery]), fun token who hadmits => ?_,
    fun token hstatus => ?_, fun route hpath hroute => ⟨fun who => Site.serve_of_caller hroute, fun hnobody => ?_⟩,
    openSocket_eq, fun htoken => by simp only [upgrade, htoken], fun token htoken hnobody => turnsAway htoken hnobody,
    Line.seen_work_turnedAway, fun line hline => Line.work_of_none hline⟩
  · have htoken : Site.socketToken req = .ok (bearerToken req.headers) := by rw [Site.socketToken, hquery]
    rw [Site.caller?_eq_some_iff]
    cases hbearer : bearerToken req.headers with
    | none =>
      rw [hbearer] at htoken
      simp [upgrade, htoken, OpensFor]
    | some token => simp [opensFor_iff (htoken.trans (by rw [hbearer]))]
  · exact Site.refresh_of_not_admitted (Site.not_admits_refresh hadmits)
  · have hsomebody : ∃ who, h.site.Admits .refresh token who := by
      by_contra hnobody
      rw [Site.refresh_of_not_admitted (not_exists.1 hnobody)] at hstatus
      cases hstatus
    refine ⟨hsomebody, fun who hadmits => ?_⟩
    obtain ⟨who', hadmits'⟩ := hsomebody
    exact Site.not_admits_refresh hadmits who' hadmits'
  · rw [handle, Site.handle_of_no_caller hpath hroute hnobody]

/-- Ann gets in with her access token, at the user directory and through the socket. Her refresh token gets her in
nowhere, not even in the query of a request that also bears the access token, but it is what she can exchange. -/
theorem only_access_tokens_get_in_ann :
    let h := start .default [7] 1000
    let ann : Identity := ⟨1, "ann"⟩
    let access := Token.issue [7] 1000 .access ann
    let refresh := Token.issue [7] 1000 .refresh ann
    let bearing token := [(⟨"Authorization", "Bearer " ++ token⟩ : Header)]
    let users token : Request := ⟨"GET", "/api/users", bearing token, .empty, none⟩
    let socket token : Request := ⟨"GET", "/ws", bearing token, .empty, none⟩
    h.site.caller? (users access) = some ann ∧ OpensFor (h.upgrade (socket access)) ann ∧
      h.site.refresh access = .empty 401 ∧ h.handle (users refresh) = (.empty 401, h) ∧
      h.TurnsAway (h.upgrade (socket refresh)) 4002 "Token invalid" := by
  intro h ann access refresh bearing users socket
  have haccess : h.site.Admits .access access ann := Token.resolveKind_eq_ok_iff.1 <|
    (Token.resolveKind_issue [7] ⟨by decide, by decide, by decide, by decide⟩ 1000 .access).trans (by decide)
  have hrefresh : h.site.Admits .refresh refresh ann := Token.resolveKind_eq_ok_iff.1 <|
    (Token.resolveKind_issue [7] ⟨by decide, by decide, by decide, by decide⟩ 1000 .refresh).trans (by decide)
  have hnobody : ∀ who, ¬ h.site.Admits .access refresh who := fun who hadmits =>
    absurd (hadmits.kind_eq hrefresh) (by decide)
  have hname : Header.lowered "Authorization" = "authorization" := by decide +kernel
  have hfield : ∀ token, Headers.first? (bearing token) "authorization" = some ⟨"Authorization", "Bearer " ++ token⟩ := by
    simp [bearing, Headers.first?, hname]
  have hbearer : ∀ token who kind, h.site.Admits kind token who → bearerToken (bearing token) = some token :=
    fun token who kind hadmits => ((only_access_tokens_get_in h (users token)).1 _ _ (hfield token)).1.trans
      hadmits.presented_eq
  obtain ⟨-, -, hcaller, -, -, hexchange, -⟩ := only_access_tokens_get_in h (users access)
  obtain ⟨-, -, hcaller', -, -, -, -, hendpoint, -⟩ := only_access_tokens_get_in h (users refresh)
  obtain ⟨-, -, hbearer', hsocket, -⟩ := only_access_tokens_get_in h (socket access)
  obtain ⟨-, -, -, -, -, -, -, -, -, -, hclose, -⟩ := only_access_tokens_get_in h (socket refresh)
  have hin : h.site.caller? (users access) = some ann := (hcaller ann).2 ⟨access, hbearer _ _ _ haccess, haccess⟩
  have hout : h.site.caller? (users refresh) = none := by
    rw [Option.eq_none_iff_forall_not_mem]
    intro who hwho
    obtain ⟨token, htoken, hadmits⟩ := (hcaller' who).1 hwho
    cases htoken.symm.trans (hbearer _ _ _ hrefresh)
    exact hnobody who hadmits
  have hquery : ∀ token, Site.queryToken (socket token).query = .ok none := by
    simp [socket, Request.query, Site.queryToken, queryPairs, splitOnChar]
  have htoken : Site.socketToken (socket refresh) = .ok (some refresh) := by
    simp only [Site.socketToken, hquery]
    exact congrArg Except.ok (hbearer _ _ _ hrefresh)
  have hpath : Route.ofPath? (users refresh).path = some .users := by
    have hchars : "/api/users".toList.takeWhile (· ≠ '?') = "/api/users".toList := by decide +kernel
    simp only [users, Request.path, hchars]
    decide +kernel
  refine ⟨hin, (hsocket (hquery _) ann).2 ((hbearer' ann).2 ⟨access, hbearer _ _ _ haccess, haccess⟩),
    hexchange access ann ?_, ?_, ?_⟩
  · rw [haccess.trimmed_eq]
    exact haccess
  · simpa [users, Route.methods] using (hendpoint .users hpath rfl).2 hout
  · exact (hclose refresh htoken hnobody).2 hrefresh.not_isExpired

end Hub

end DirectChat
