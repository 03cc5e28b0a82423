import DirectChat.Auth.Token
import DirectChat.Proofs.Json.Record
import DirectChat.Proofs.Json.RoundTrip
import DirectChat.Proofs.Text.Base64
import DirectChat.Proofs.Text.Integer
import Mathlib.Tactic.Common
/-!
# What a token is good for

A token that is issued is read back, up to its signature, as what it was issued for (`Token.open?_encode`). So it is
accepted for the one whom it was issued to and as the kind as which it was issued, until a minute after its expiry
(`Token.resolveKind_issue`). Whatever token is accepted is written with digits and dots only (`Token.isTokenChar_of_open?`),
so nothing is lost of it in a header field or a query.
-/

namespace DirectChat

/-! ## Texts as bytes -/

theorem toList_byteArray (a : ByteArray) : a.toList = a.data.toList := by
  have hloop : ∀ k i r, a.size - i = k → ByteArray.toList.loop a i r = r.reverse ++ a.data.toList.drop i := by
    intro k
    induction k with
    | zero =>
      intro i r hk
      rw [ByteArray.toList.loop, if_neg (by omega), List.drop_eq_nil_of_le, List.append_nil]
      show a.size ≤ i
      omega
    | succ k ih =>
      intro i r hk
      have hi : i < a.size := by omega
      have hget : a.data.toList.drop i = a.get! i :: a.data.toList.drop (i + 1) := by
        rw [List.drop_eq_getElem_cons (by exact hi)]
        congr 1
        simp [ByteArray.get!, getElem!_pos a.data i hi]
      rw [ByteArray.toList.loop, if_pos hi, ih (i + 1) _ (by omega), hget]
      simp
  simpa [ByteArray.toList] using hloop _ 0 [] rfl

theorem fromUTF8?_toByteArray (s : String) : String.fromUTF8? s.toByteArray = some s := by
  rw [String.fromUTF8?, dif_pos s.isValidUTF8]
  rfl

namespace Token

variable {secret : List UInt8} {now : Int} {token : String}

theorem fromUTF8?_bytesOf (s : String) : String.fromUTF8? (ByteArray.mk (bytesOf s).toArray) = some s := by
  have hbytes : ByteArray.mk (bytesOf s).toArray = s.toByteArray := by
    simp [bytesOf, toList_byteArray]
  rw [hbytes, fromUTF8?_toByteArray]

theorem textOf?_part (s : String) : textOf? (part (bytesOf s)) = some s := by
  rw [textOf?, part, Base64.decode_encode Base64.isAlphabet_urlSafe, Option.bind_some, fromUTF8?_bytesOf]

/-! ## Dots -/

theorem splitLastDot?_append (front : List Char) {back : List Char} (h : '.' ∉ back) :
    splitLastDot? (front ++ '.' :: back) = some (front, back) := by
  have hspan : (front ++ '.' :: back).reverse.span (· ≠ '.') = (back.reverse, '.' :: front.reverse) := by
    have hreverse : (front ++ '.' :: back).reverse = back.reverse ++ '.' :: front.reverse := by simp
    rw [hreverse]
    apply span_append_of_stop
    · intro c hc
      simp only [decide_eq_true_eq]
      rintro rfl
      exact h (List.mem_reverse.1 hc)
    · intro c hc
      simp only [List.head?_cons, Option.mem_def, Option.some.injEq] at hc
      simp [← hc]
  rw [splitLastDot?, hspan]
  simp

theorem eq_append_of_splitLastDot? {cs front back : List Char} (h : splitLastDot? cs = some (front, back)) :
    cs = front ++ '.' :: back := by
  unfold splitLastDot? at h
  split at h
  · rename_i backward dot forward hspan
    obtain ⟨rfl, rfl⟩ : forward.reverse = front ∧ backward.reverse = back := by simpa using h
    rw [List.span_eq_takeWhile_dropWhile, Prod.mk.injEq] at hspan
    have hwhole : backward ++ dot :: forward = cs.reverse := by
      rw [← hspan.1, ← hspan.2, List.takeWhile_append_dropWhile]
    have hdot : dot = '.' := by
      have hstop := List.head?_dropWhile_not (· ≠ '.') cs.reverse
      simp only [hspan.2, List.head?_cons] at hstop
      simpa using hstop
    rw [← List.reverse_reverse cs, ← hwhole, hdot]
    simp
  · cases h

/-- Whether a character may occur in a token that can be read. -/
def isTokenChar (c : Char) : Bool := c.isAlphanum || c == '-' || c == '_' || c == '.'

theorem isTokenChar_of_value? {c : Char} (h : (Base64.urlSafe.value? c).isSome = true) : isTokenChar c = true := by
  rcases Base64.isAlphanum_of_value? h with h | rfl | rfl
  · simp [isTokenChar, h]
  · rfl
  · rfl

theorem isTokenChar_of_part {bytes : List UInt8} {c : Char} (h : c ∈ part bytes) : isTokenChar c = true :=
  isTokenChar_of_value? (Base64.isSome_value?_of_encode Base64.isAlphabet_urlSafe h)

theorem dot_not_mem_part (bytes : List UInt8) : '.' ∉ part bytes := fun h =>
  absurd (Base64.isSome_value?_of_encode Base64.isAlphabet_urlSafe h) (by decide)

theorem isTokenChar_of_textOf? {cs : List Char} {text : String} (h : textOf? cs = some text) {c : Char} (hc : c ∈ cs) :
    isTokenChar c = true := by
  obtain ⟨bytes, hbytes, -⟩ := Option.bind_eq_some_iff.1 h
  exact isTokenChar_of_value? (Base64.isSome_value?_of_decode hbytes hc)

/-- A token that can be read has the form of one, whoever made it. -/
theorem isTokenChar_of_open? {r : Claims × Common} (h : open? secret token = some r) {c : Char} (hc : c ∈ token.toList) :
    isTokenChar c = true := by
  simp only [open?, Option.bind_eq_bind, Option.bind_eq_some_iff] at h
  obtain ⟨⟨signed, mark⟩, hsigned, ⟨head, body⟩, hparts, text, hhead, -, -, h⟩ := h
  dsimp only at hparts
  by_cases hmark : mark = signature secret signed
  case neg => simp [hmark] at h
  simp only [hmark, ne_eq, not_true_eq_false, if_false] at h
  obtain ⟨text', hbody, -⟩ := Option.bind_eq_some_iff.1 h
  rw [eq_append_of_splitLastDot? hsigned, eq_append_of_splitLastDot? hparts, hmark] at hc
  simp only [List.mem_append, List.mem_cons] at hc
  rcases hc with (hc | rfl | hc) | rfl | hc
  · exact isTokenChar_of_textOf? hhead hc
  · rfl
  · exact isTokenChar_of_textOf? hbody hc
  · rfl
  · exact isTokenChar_of_part hc

/-! ## Reading what was written -/

theorem plain_header : header.Plain := by
  refine Json.plain_record fun m hm => ?_
  simp only [List.mem_cons, List.not_mem_nil, or_false] at hm
  rcases hm with rfl | rfl <;> exact Json.plain_text _

theorem read?_header : headerRecord.read? header.render = some () := by
  rw [Record.read?, Json.parse?_render plain_header, Option.bind_some]
  rfl

theorem plain_claims (c : Claims) : c.toJson.Plain := by
  refine Json.plain_record fun m hm => ?_
  simp only [List.mem_cons, List.not_mem_nil, or_false] at hm
  rcases hm with rfl | rfl | rfl | rfl | rfl
  · exact Json.plain_int _
  · exact Json.plain_text _
  · exact Json.plain_text _
  · exact Json.plain_int _
  · exact Json.plain_int _

end Token

/-- The numbers of the claims have 64 bits, and they do not expire before 1970. -/
structure Claims.Fits (c : Claims) : Prop where
  user : isInt64 c.user = true
  issuedAt : isInt64 c.issuedAt = true
  expiresAt : isInt64 c.expiresAt = true
  expires : 0 ≤ c.expiresAt

theorem Claims.ofJson_toJson {c : Claims} (h : c.Fits) : Claims.record.ofJson c.toJson = .ok c := by
  obtain ⟨user, username, kind, issuedAt, expiresAt⟩ := c
  have huser : (Json.int user).asInt64 = .ok user := Json.asInt64_int h.user
  have hissued : (Json.int issuedAt).asInt64 = .ok issuedAt := Json.asInt64_int h.issuedAt
  have hexpires : (Json.int expiresAt).asInt64 = .ok expiresAt := Json.asInt64_int h.expiresAt
  cases kind <;>
    simp [toJson, Json.record, Record.ofJson, Record.ofMembers, Record.setMembers, record, huser, hissued, hexpires,
      Json.text, Json.asText, Json.asName, Json.asName.find, TokenKind.word, Except.map, List.lookup_cons]

theorem Claims.common_toJson {c : Claims} (h : c.Fits) :
    Token.commonRecord.ofJson c.toJson = .ok ⟨some c.expiresAt.toNat, false⟩ := by
  obtain ⟨user, username, kind, issuedAt, expiresAt⟩ := c
  obtain ⟨n, rfl⟩ := Int.eq_ofNat_of_zero_le h.expires
  simp [toJson, Json.record, Record.ofJson, Record.ofMembers, Record.setMembers, Token.commonRecord,
      Json.text, Json.int, Token.isPassedOverAsText]

namespace Token

/-- A token that was written with the secret is read back as what it states. -/
theorem open?_encode (secret : List UInt8) {c : Claims} (h : c.Fits) :
    open? secret (encode secret c) = some (c, ⟨some c.expiresAt.toNat, false⟩) := by
  have hclaims : Claims.record.read? c.toJson.render = some c := by
    rw [Record.read?, Json.parse?_render (plain_claims c), Option.bind_some, Claims.ofJson_toJson h]
    rfl
  have hcommon : commonRecord.read? c.toJson.render = some ⟨some c.expiresAt.toNat, false⟩ := by
    rw [Record.read?, Json.parse?_render (plain_claims c), Option.bind_some, Claims.common_toJson h]
    rfl
  have hsplit : splitLastDot? (encode secret c).toList =
      some (part (bytesOf header.render) ++ '.' :: part (bytesOf c.toJson.render),
        signature secret (part (bytesOf header.render) ++ '.' :: part (bytesOf c.toJson.render))) := by
    rw [encode, String.toList_ofList]
    exact splitLastDot?_append _ (dot_not_mem_part _)
  simp [open?, hsplit, splitLastDot?_append _ (dot_not_mem_part _), textOf?_part, read?_header, hclaims, hcommon]

/-- The moment, the user and the kind are such that what is issued can be read: the numbers have 64 bits, and it does not
expire before 1970. -/
def CanIssue (now : Int) (kind : TokenKind) (who : Identity) : Prop :=
  Claims.Fits ⟨who.user, who.username, kind, secondsOf now, secondsOf now + kind.lifetime⟩

/-- When a token is too old. -/
def Expires (expiresAt now : Int) : Prop := expiresAt < secondsOf now - leeway

instance (expiresAt now : Int) : Decidable (Expires expiresAt now) := inferInstanceAs (Decidable (_ < _))

/-! ## Who is admitted -/

/-- The token is signed with the secret, its claims name the one whom it was issued to, it was issued as of the kind, is
not expired and is for no particular audience. -/
def Admits (secret : List UInt8) (now : Int) (kind : TokenKind) (token : String) (who : Identity) : Prop :=
  ∃ claims common expiresAt, open? secret token = some (claims, common) ∧ common.expiresAt = some expiresAt ∧
    ¬ Expires expiresAt now ∧ common.audience = false ∧ claims.kind = kind ∧ who = ⟨claims.user, claims.username⟩

/-- The token is signed with the secret and expired. -/
def IsExpired (secret : List UInt8) (now : Int) (token : String) : Prop :=
  ∃ claims common expiresAt, open? secret token = some (claims, common) ∧ common.expiresAt = some expiresAt ∧
    Expires expiresAt now

theorem decode_of_open {claims : Claims} {common : Common} {expiresAt : Nat}
    (hopen : open? secret token = some (claims, common)) (hexpires : common.expiresAt = some expiresAt) :
    decode secret now token = if Expires expiresAt now then .error .expired
      else if common.audience then .error .invalid else .ok claims := by
  simp only [decode, hopen, hexpires]
  rfl

theorem exists_open_of_decode (h : decode secret now token ≠ .error .invalid) :
    ∃ claims common expiresAt, open? secret token = some (claims, common) ∧ common.expiresAt = some expiresAt := by
  unfold decode at h
  split at h
  · exact absurd rfl h
  · rename_i claims common hopen
    split at h
    · exact absurd rfl h
    · rename_i expiresAt hexpires
      exact ⟨claims, common, expiresAt, hopen, hexpires⟩

theorem decode_eq_ok_iff {claims : Claims} : decode secret now token = .ok claims ↔
    ∃ common expiresAt, open? secret token = some (claims, common) ∧ common.expiresAt = some expiresAt ∧
      ¬ Expires expiresAt now ∧ common.audience = false := by
  constructor
  · intro h
    obtain ⟨claims', common, expiresAt, hopen, hexpires⟩ := exists_open_of_decode (by rw [h]; simp)
    rw [decode_of_open hopen hexpires] at h
    split_ifs at h with hexpired haudience
    cases h
    exact ⟨common, expiresAt, hopen, hexpires, hexpired, by simpa using haudience⟩
  · rintro ⟨common, expiresAt, hopen, hexpires, hexpired, haudience⟩
    rw [decode_of_open hopen hexpires, if_neg hexpired, haudience]
    rfl

theorem decode_eq_expired_iff : decode secret now token = .error .expired ↔ IsExpired secret now token := by
  constructor
  · intro h
    obtain ⟨claims, common, expiresAt, hopen, hexpires⟩ := exists_open_of_decode (by rw [h]; simp)
    rw [decode_of_open hopen hexpires] at h
    split_ifs at h with hexpired haudience
    · exact ⟨claims, common, expiresAt, hopen, hexpires, hexpired⟩
    · simp at h
  · rintro ⟨claims, common, expiresAt, hopen, hexpires, hexpired⟩
    rw [decode_of_open hopen hexpires, if_pos hexpired]

theorem resolveKind_eq_ok_iff {kind : TokenKind} {who : Identity} :
    resolveKind secret now kind token = .ok who ↔ Admits secret now kind token who := by
  have hclaims : resolveKind secret now kind token = .ok who ↔
      ∃ claims, decode secret now token = .ok claims ∧ claims.kind = kind ∧ who = ⟨claims.user, claims.username⟩ := by
    unfold resolveKind
    cases decode secret now token with
    | error e => simp
    | ok claims =>
      simp only [Except.ok.injEq, exists_eq_left']
      split_ifs with hkind
      · simp [hkind, eq_comm]
      · simp [hkind]
  rw [hclaims]
  constructor
  · rintro ⟨claims, hdecode, hkind, hwho⟩
    obtain ⟨common, expiresAt, hopen, hexpires, hexpired, haudience⟩ := decode_eq_ok_iff.1 hdecode
    exact ⟨claims, common, expiresAt, hopen, hexpires, hexpired, haudience, hkind, hwho⟩
  · rintro ⟨claims, common, expiresAt, hopen, hexpires, hexpired, haudience, hkind, hwho⟩
    exact ⟨claims, decode_eq_ok_iff.2 ⟨common, expiresAt, hopen, hexpires, hexpired, haudience⟩, hkind, hwho⟩

theorem resolveKind_eq_expired_iff {kind : TokenKind} :
    resolveKind secret now kind token = .error .expired ↔ IsExpired secret now token := by
  rw [← decode_eq_expired_iff]
  unfold resolveKind
  cases decode secret now token with
  | error e => simp
  | ok claims =>
    simp only [reduceCtorEq, iff_false]
    split_ifs <;> simp

/-- Nobody is admitted as two kinds. -/
theorem Admits.kind_eq {kind kind' : TokenKind} {who who' : Identity} {now' : Int}
    (h : Admits secret now kind token who) (h' : Admits secret now' kind' token who') : kind = kind' := by
  obtain ⟨claims, common, -, hopen, -, -, -, rfl, -⟩ := h
  obtain ⟨claims', common', -, hopen', -, -, -, rfl, -⟩ := h'
  rw [hopen] at hopen'
  cases hopen'
  rfl

theorem Admits.not_isExpired {kind : TokenKind} {who : Identity} (h : Admits secret now kind token who) :
    ¬ IsExpired secret now token := by
  intro hexpired
  rw [← resolveKind_eq_expired_iff, resolveKind_eq_ok_iff.2 h] at hexpired
  cases hexpired

/-- Who is admitted once is admitted until the token expires. -/
theorem Admits.until_expired {kind : TokenKind} {who : Identity} {now' : Int} (h : Admits secret now kind token who)
    (hexpired : ¬ IsExpired secret now' token) : Admits secret now' kind token who := by
  obtain ⟨claims, common, expiresAt, hopen, hexpires, -, haudience, hkind, hwho⟩ := h
  exact ⟨claims, common, expiresAt, hopen, hexpires, fun hold => hexpired ⟨claims, common, expiresAt, hopen, hexpires, hold⟩,
    haudience, hkind, hwho⟩

/-! ## What is issued -/

/-- **What is issued is accepted**, as its kind and for its owner, until a minute after its expiry. -/
theorem resolveKind_issue (secret : List UInt8) {issued : Int} {kind : TokenKind} {who : Identity}
    (h : CanIssue issued kind who) (now : Int) (asked : TokenKind) :
    resolveKind secret now asked (issue secret issued kind who) =
      if Expires (secondsOf issued + kind.lifetime) now then .error .expired
      else if kind = asked then .ok who else .error .wrongKind := by
  have hexpires : ((secondsOf issued + kind.lifetime).toNat : Int) = secondsOf issued + kind.lifetime :=
    Int.toNat_of_nonneg h.expires
  simp only [resolveKind, issue, decode_of_open (open?_encode secret h) rfl, hexpires, Bool.false_eq_true, if_false]
  by_cases hexpired : Expires (secondsOf issued + kind.lifetime) now
  · simp only [if_pos hexpired]
  · simp only [if_neg hexpired]

theorem lifetime_bounds (kind : TokenKind) : 0 ≤ kind.lifetime ∧ kind.lifetime ≤ 604800 := by cases kind <;> decide

/-- From 1970 on a token can be issued to whoever has an identifier of 64 bits. -/
theorem canIssue_of_fits {who : Identity} {issued : Int} (huser : isInt64 who.user = true)
    (hissued : isInt64 issued = true) (hpos : 0 ≤ issued) (kind : TokenKind) : CanIssue issued kind who := by
  rw [isInt64_iff] at hissued
  have hseconds : secondsOf issued = issued / 1000 := Int.fdiv_eq_ediv_of_nonneg _ (by decide)
  obtain ⟨hshortest, hlongest⟩ := lifetime_bounds kind
  have hiat : isInt64 (secondsOf issued) = true := by
    rw [isInt64_iff, hseconds]
    omega
  have hexp : isInt64 (secondsOf issued + kind.lifetime) = true := by
    rw [isInt64_iff, hseconds]
    omega
  have hlater : 0 ≤ secondsOf issued + kind.lifetime := by
    rw [hseconds]
    omega
  exact ⟨huser, hiat, hexp, hlater⟩

/-- What becomes of a token of one kind that is shown as one of another or the same, told by the seconds of the clock. -/
theorem resolveKind_issue_iff (secret : List UInt8) {issued : Int} {kind : TokenKind} {who : Identity}
    (h : CanIssue issued kind who) (now : Int) (asked : TokenKind) :
    resolveKind secret now asked (issue secret issued kind who) =
      if secondsOf now ≤ secondsOf issued + kind.lifetime + 60
      then if kind = asked then .ok who else .error .wrongKind
      else .error .expired := by
  rw [resolveKind_issue secret h]
  by_cases htime : secondsOf now ≤ secondsOf issued + kind.lifetime + 60
  · have hfresh : ¬ Expires (secondsOf issued + kind.lifetime) now := by
      simp only [Expires, leeway]
      omega
    rw [if_neg hfresh, if_pos htime]
  · have hstale : Expires (secondsOf issued + kind.lifetime) now := by
      simp only [Expires, leeway]
      omega
    rw [if_pos hstale, if_neg htime]

/-- **An issued token tells who its owner is, as its kind and for its lifetime only.** Whatever the secret, the user and
the name, a pair that is issued a minute after 1970 or later is good until a minute after a day, the access token, and
until a minute after a week, the refresh token: till then each names its owner to who asks for its kind, and is of the
wrong kind to who asks for the other; from then on each is expired to both. And there is no token at all that names
somebody as an access token and somebody as a refresh token, now or later. -/
theorem good_for_kind_and_lifetime (secret : List UInt8) (who : Identity) (issued : Int)
    (huser : isInt64 who.user = true) (hissued : isInt64 issued = true) (hlate : 60 ≤ secondsOf issued) :
    (∀ now, resolve secret now (TokenPair.issue secret issued who).access =
      if secondsOf now ≤ secondsOf issued + 86400 + 60 then .ok who else .error .expired) ∧
    (∀ now, resolveRefresh secret now (TokenPair.issue secret issued who).refresh =
      if secondsOf now ≤ secondsOf issued + 604800 + 60 then .ok who else .error .expired) ∧
    (∀ now, resolveRefresh secret now (TokenPair.issue secret issued who).access =
      if secondsOf now ≤ secondsOf issued + 86400 + 60 then .error .wrongKind else .error .expired) ∧
    (∀ now, resolve secret now (TokenPair.issue secret issued who).refresh =
      if secondsOf now ≤ secondsOf issued + 604800 + 60 then .error .wrongKind else .error .expired) ∧
    ∀ token now now' owner owner', resolve secret now token = .ok owner →
      resolveRefresh secret now' token ≠ .ok owner' := by
  have hpos : 0 ≤ issued := by
    have hseconds : secondsOf issued = issued / 1000 := Int.fdiv_eq_ediv_of_nonneg _ (by decide)
    omega
  have hcan := canIssue_of_fits huser hissued hpos
  refine ⟨fun now => ?_, fun now => ?_, fun now => ?_, fun now => ?_,
    fun token now now' owner owner' haccess hrefresh => ?_⟩
  · exact resolveKind_issue_iff secret (hcan .access) now .access
  · exact resolveKind_issue_iff secret (hcan .refresh) now .refresh
  · exact resolveKind_issue_iff secret (hcan .access) now .refresh
  · exact resolveKind_issue_iff secret (hcan .refresh) now .access
  · have hkinds := (resolveKind_eq_ok_iff.1 haccess).kind_eq (resolveKind_eq_ok_iff.1 hrefresh)
    cases hkinds

/-- The last millisecond of a day and a minute, and the first after it; then only the refresh token is left. -/
theorem good_for_kind_and_lifetime_alice :
    let pair := TokenPair.issue [107, 101, 121] 1700000000000 ⟨7, "alice"⟩
    isInt64 7 = true ∧ isInt64 1700000000000 = true ∧ 60 ≤ secondsOf 1700000000000 ∧
      resolve [107, 101, 121] 1700086460999 pair.access = .ok ⟨7, "alice"⟩ ∧
      resolveRefresh [107, 101, 121] 1700086460999 pair.access = .error .wrongKind ∧
      resolve [107, 101, 121] 1700086461000 pair.access = .error .expired ∧
      resolve [107, 101, 121] 1700086461000 pair.refresh = .error .wrongKind ∧
      resolveRefresh [107, 101, 121] 1700604860999 pair.refresh = .ok ⟨7, "alice"⟩ ∧
      resolveRefresh [107, 101, 121] 1700604861000 pair.refresh = .error .expired := by
  intro pair
  have huser : isInt64 7 = true := by decide
  have hissued : isInt64 1700000000000 = true := by decide
  have hlate : 60 ≤ secondsOf 1700000000000 := by decide
  obtain ⟨haccess, hrefresh, hcrossed, hcrossed', -⟩ :=
    good_for_kind_and_lifetime [107, 101, 121] ⟨7, "alice"⟩ 1700000000000 huser hissued hlate
  refine ⟨huser, hissued, hlate, ?_, ?_, ?_, ?_, ?_, ?_⟩
  · exact (haccess _).trans (if_pos (by decide))
  · exact (hcrossed _).trans (if_pos (by decide))
  · exact (haccess _).trans (if_neg (by decide))
  · exact (hcrossed' _).trans (if_pos (by decide))
  · exact (hrefresh _).trans (if_pos (by decide))
  · exact (hrefresh _).trans (if_neg (by decide))

end Token

end DirectChat
