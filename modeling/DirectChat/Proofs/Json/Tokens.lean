import DirectChat.Proofs.Json.Grammar
import DirectChat.Proofs.Text.Integer
import Mathlib
/-!
# Strings and numbers are read as they are written

The reader of strings takes off exactly a string, whatever follows (`readText_eq_some_iff`). A number is a sign and
parts (`parts_of_isNumber`, `isNumber_of_parts`), and the reader of numbers takes off exactly the parts
(`readNumber_of_parts`, `parts_of_readNumber`); behind them nothing may follow that would belong to them (`Ends`).
-/

namespace DirectChat

namespace Json

/-! ## Escapes -/

theorem hexValue?_digitChar : ∀ n < 16, hexValue? n.digitChar = some n ∧ hexValue? n.digitChar.toUpper = some n := by
  decide

/-- A character between two others, given by its place behind the first. -/
theorem exists_ofNat {c low high : Char} (hlow : low ≤ c) (hhigh : c ≤ high) :
    ∃ n ≤ high.toNat - low.toNat, c = Char.ofNat (low.toNat + n) ∧ c.toNat = low.toNat + n := by
  have h1 : low.toNat ≤ c.toNat := UInt32.le_iff_toNat_le.1 hlow
  have h2 : c.toNat ≤ high.toNat := UInt32.le_iff_toNat_le.1 hhigh
  have hsum : low.toNat + (c.toNat - low.toNat) = c.toNat := by omega
  exact ⟨c.toNat - low.toNat, by omega, by rw [hsum, Char.ofNat_toNat], hsum.symm⟩

theorem isHexDigit_of_hexValue? {c : Char} {n : Nat} (h : hexValue? c = some n) : IsHexDigit n c := by
  have hdecimal : ∀ n ≤ 9, IsHexDigit n (Char.ofNat (48 + n)) := by decide
  have hsmall : ∀ n ≤ 5, IsHexDigit (10 + n) (Char.ofNat (97 + n)) := by decide
  have hlarge : ∀ n ≤ 5, IsHexDigit (10 + n) (Char.ofNat (65 + n)) := by decide
  have h0 : '0'.toNat = 48 := rfl
  have ha : 'a'.toNat = 97 := rfl
  have hA : 'A'.toNat = 65 := rfl
  unfold hexValue? at h
  split_ifs at h with hc hc hc <;> obtain ⟨k, hk, hchar, hnat⟩ := exists_ofNat hc.1 hc.2 <;> cases h
  · rw [show c.toNat - 48 = k by omega, hchar, h0]
    exact hdecimal k hk
  · rw [show c.toNat - 87 = 10 + k by omega, hchar, ha]
    exact hsmall k hk
  · rw [show c.toNat - 55 = 10 + k by omega, hchar, hA]
    exact hlarge k hk

theorem hexValue?_eq_some_iff {c : Char} {n : Nat} : hexValue? c = some n ↔ IsHexDigit n c := by
  refine ⟨isHexDigit_of_hexValue?, ?_⟩
  rintro ⟨hn, rfl | rfl⟩
  · exact (hexValue?_digitChar n hn).1
  · exact (hexValue?_digitChar n hn).2

theorem codeUnit?_eq_some_iff {a b c d : Char} {u : Nat} : codeUnit? a b c d = some u ↔ IsCodeUnit u [a, b, c, d] := by
  constructor
  · intro h
    simp only [codeUnit?, Option.bind_eq_bind, Option.bind_eq_some_iff, Option.pure_def, Option.some.injEq] at h
    obtain ⟨i, hi, j, hj, k, hk, l, hl, rfl⟩ := h
    exact .digits (hexValue?_eq_some_iff.1 hi) (hexValue?_eq_some_iff.1 hj) (hexValue?_eq_some_iff.1 hk)
      (hexValue?_eq_some_iff.1 hl)
  · rintro ⟨hi, hj, hk, hl⟩
    simp [codeUnit?, hexValue?_eq_some_iff.2 hi, hexValue?_eq_some_iff.2 hj, hexValue?_eq_some_iff.2 hk,
      hexValue?_eq_some_iff.2 hl]

theorem codeUnit_lt {u : Nat} {cs : List Char} (h : IsCodeUnit u cs) : u < 65536 := by
  obtain ⟨⟨hi, -⟩, ⟨hj, -⟩, ⟨hk, -⟩, ⟨hl, -⟩⟩ := h
  omega

theorem simpleEscape?_eq_some_iff {e c : Char} : simpleEscape? e = some c ↔ (e, c) ∈ shortEscapes := by
  constructor
  · intro h
    unfold simpleEscape? at h
    split_ifs at h <;> cases h <;> subst_vars <;> decide
  · intro h
    simp only [shortEscapes, List.mem_cons, Prod.mk.injEq, List.not_mem_nil, or_false] at h
    rcases h with ⟨rfl, rfl⟩ | ⟨rfl, rfl⟩ | ⟨rfl, rfl⟩ | ⟨rfl, rfl⟩ | ⟨rfl, rfl⟩ | ⟨rfl, rfl⟩ | ⟨rfl, rfl⟩ |
      ⟨rfl, rfl⟩ <;> rfl

theorem isSurrogate_iff {u : Nat} : (isHighSurrogate u || isLowSurrogate u) = true ↔ 0xD800 ≤ u ∧ u ≤ 0xDFFF := by
  simp only [isHighSurrogate, isLowSurrogate, Bool.or_eq_true, Bool.and_eq_true, decide_eq_true_eq]
  omega

theorem ofCodeUnit_toNat (c : Char) : TextUnit.ofCodeUnit c.toNat = .char c := by
  rw [TextUnit.ofCodeUnit, if_neg (fun h => c.toNat_not_surrogate (isSurrogate_iff.1 h)), Char.ofNat_toNat]

theorem ofCodeUnit_half {u : Nat} (hlow : 0xD800 ≤ u) (hhigh : u ≤ 0xDFFF) : TextUnit.ofCodeUnit u = .half u := by
  rw [TextUnit.ofCodeUnit, if_pos (isSurrogate_iff.2 ⟨hlow, hhigh⟩)]

/-- What an escaped code unit stands for is written by it. -/
theorem isPiece_ofCodeUnit {u : Nat} {cs : List Char} (h : IsCodeUnit u cs) :
    IsPiece (TextUnit.ofCodeUnit u) ('\\' :: 'u' :: cs) := by
  by_cases hu : 0xD800 ≤ u ∧ u ≤ 0xDFFF
  · rw [ofCodeUnit_half hu.1 hu.2]
    exact .half h hu.1 hu.2
  · have hlt := codeUnit_lt h
    have hvalid : u.isValidChar := by
      unfold Nat.isValidChar
      omega
    have hnat : (Char.ofNat u).toNat = u := by rw [Char.toNat_ofNat, if_pos hvalid]
    rw [← hnat, ofCodeUnit_toNat]
    exact .escaped (hnat.symm ▸ h)

/-! ## Strings -/

/-- Reading takes off one piece. -/
theorem readUnits_piece {u : TextUnit} {cs : List Char} (h : IsPiece u cs) (acc : List TextUnit) (rest : List Char) :
    readUnits acc (cs ++ rest) = readUnits (u :: acc) rest := by
  cases h with
  | plain hquote hbackslash hcontrol =>
    rw [List.singleton_append, readUnits, if_neg (Nat.not_lt.2 hcontrol)]
    all_goals simp_all
  | @short e c h =>
    have hu : e ≠ 'u' := by rintro rfl; exact absurd h (by simp [shortEscapes])
    show readUnits acc ('\\' :: e :: rest) = _
    rw [readUnits]
    · rw [simpleEscape?_eq_some_iff.2 h]
    · simp_all
  | @escaped c cs h =>
    have hunit := ofCodeUnit_toNat c
    generalize c.toNat = u at h hunit
    cases h with
    | digits hi hj hk hl =>
      show readUnits acc ('\\' :: 'u' :: _ :: _ :: _ :: _ :: rest) = _
      rw [readUnits, codeUnit?_eq_some_iff.2 (.digits hi hj hk hl)]
      exact congrArg (readUnits · rest) (congrArg (· :: acc) hunit)
  | half h hlow hhigh =>
    have hunit := ofCodeUnit_half hlow hhigh
    cases h with
    | digits hi hj hk hl =>
      show readUnits acc ('\\' :: 'u' :: _ :: _ :: _ :: _ :: rest) = _
      rw [readUnits, codeUnit?_eq_some_iff.2 (.digits hi hj hk hl)]
      exact congrArg (readUnits · rest) (congrArg (· :: acc) hunit)

theorem readUnits_body {us : List TextUnit} {cs : List Char} (h : IsBody us cs) (acc : List TextUnit)
    (rest : List Char) : readUnits acc (cs ++ '"' :: rest) = some (acc.reverse ++ us, rest) := by
  induction h generalizing acc with
  | nil => simp [readUnits]
  | cons hpiece _ ih => rw [List.append_assoc, readUnits_piece hpiece, ih]; simp

theorem isBody_of_readUnits {acc us : List TextUnit} {cs rest : List Char} (h : readUnits acc cs = some (us, rest)) :
    ∃ vs body, IsBody vs body ∧ cs = body ++ '"' :: rest ∧ us = acc.reverse ++ vs := by
  fun_induction readUnits acc cs with
  | case1 => cases h
  | case2 acc rest' =>
    cases h
    exact ⟨[], [], .nil, rfl, (List.append_nil _).symm⟩
  | case3 acc a b c d rest' u hu ih =>
    obtain ⟨vs, body, hbody, rfl, rfl⟩ := ih h
    exact ⟨_, _, .cons (isPiece_ofCodeUnit (codeUnit?_eq_some_iff.1 hu)) hbody, rfl, by simp⟩
  | case4 => cases h
  | case5 acc c rest' hc x hx ih =>
    obtain ⟨vs, body, hbody, rfl, rfl⟩ := ih h
    exact ⟨_, _, .cons (.short (simpleEscape?_eq_some_iff.1 hx)) hbody, rfl, by simp⟩
  | case6 => cases h
  | case7 => cases h
  | case8 acc c rest' hquote _ hbackslash hcontrol ih =>
    obtain ⟨vs, body, hbody, rfl, rfl⟩ := ih h
    obtain ⟨d, ds, hds⟩ := List.exists_cons_of_ne_nil (l := body ++ '"' :: rest) (by simp)
    exact ⟨_, _, .cons (.plain hquote (hbackslash d ds · hds) (Nat.not_lt.1 hcontrol)) hbody, rfl, by simp⟩

/-! What was read is a row of pieces; what these spell is told in a second step. -/

theorem pairUnits_spells {us : List TextUnit} {cs : List Char} (h : Spells us cs) (acc : List Char) :
    pairUnits acc us = some (String.ofList (acc.reverse ++ cs)) := by
  induction h generalizing acc with
  | nil => simp [pairUnits]
  | char _ ih => rw [pairUnits, ih]; simp
  | @pair high low c us cs h1 h2 h3 h4 hc _ ih =>
    have hhigh : isHighSurrogate high = true := by simp [isHighSurrogate, h1, h2]
    have hlow : isLowSurrogate low = true := by simp [isLowSurrogate, h3, h4]
    have hchar : pairChar high low = c := by rw [pairChar, ← hc, Char.ofNat_toNat]
    rw [pairUnits, hhigh, hlow, hchar, Bool.and_self, if_pos rfl, ih]
    simp

theorem spells_of_pairUnits {us : List TextUnit} {acc : List Char} {s : String} (h : pairUnits acc us = some s) :
    ∃ cs, Spells us cs ∧ s.toList = acc.reverse ++ cs := by
  fun_induction pairUnits acc us with
  | case1 acc =>
    cases h
    exact ⟨[], .nil, by simp⟩
  | case2 acc c us ih =>
    obtain ⟨cs, hcs, hs⟩ := ih h
    exact ⟨c :: cs, .char hcs, by simpa using hs⟩
  | case3 acc high low us hboth ih =>
    obtain ⟨cs, hcs, hs⟩ := ih h
    simp only [isHighSurrogate, isLowSurrogate, Bool.and_eq_true, decide_eq_true_eq] at hboth
    have hvalid : (0x10000 + (high - 0xD800) * 0x400 + (low - 0xDC00)).isValidChar := by
      unfold Nat.isValidChar
      omega
    have hchar : (pairChar high low).toNat = 0x10000 + (high - 0xD800) * 0x400 + (low - 0xDC00) := by
      rw [pairChar, Char.toNat_ofNat, if_pos hvalid]
    exact ⟨pairChar high low :: cs, .pair hboth.1.1 hboth.1.2 hboth.2.1 hboth.2.2 hchar hcs, by simpa using hs⟩
  | case4 => cases h
  | case5 => cases h

theorem pairUnits_eq_iff {us : List TextUnit} {t : JsonText} : pairUnits [] us = t ↔ Says us t := by
  constructor
  · rintro rfl
    cases h : pairUnits [] us with
    | none =>
      intro cs hcs
      rw [pairUnits_spells hcs] at h
      cases h
    | some s =>
      obtain ⟨cs, hcs, hs⟩ := spells_of_pairUnits h
      obtain rfl : s.toList = cs := hs
      exact hcs
  · intro h
    cases t with
    | some s => rw [pairUnits_spells h, List.reverse_nil, List.nil_append, String.ofList_toList]
    | none =>
      cases hp : pairUnits [] us with
      | none => rfl
      | some s =>
        obtain ⟨cs, hcs, -⟩ := spells_of_pairUnits hp
        exact absurd hcs (h cs)

/-- **The reader of strings takes off a string, whatever follows.** -/
theorem readText_eq_some_iff {t : JsonText} {cs rest : List Char} :
    readText cs = some (t, rest) ↔ ∃ body, IsString t ('"' :: body) ∧ cs = body ++ rest := by
  constructor
  · intro h
    obtain ⟨⟨us, rest'⟩, hus, heq⟩ := Option.map_eq_some_iff.1 h
    cases heq
    obtain ⟨vs, body, hbody, rfl, rfl⟩ := isBody_of_readUnits hus
    exact ⟨_, .quoted hbody (pairUnits_eq_iff.1 rfl), by simp⟩
  · rintro ⟨body, h, rfl⟩
    cases h with
    | quoted hbody hus =>
      rw [readText, List.append_assoc, List.singleton_append, readUnits_body hbody]
      exact congrArg some (congrArg (·, rest) (pairUnits_eq_iff.2 hus))

/-! ## Digits -/

theorem natOfDigits_append (cs : List Char) (d : Char) :
    natOfDigits (cs ++ [d]) = natOfDigits cs * 10 + (d.toNat - 48) := by
  simp [natOfDigits]

theorem digitChar_of_isDigit {d : Char} (h : d.isDigit = true) : d.toNat - 48 < 10 ∧ (d.toNat - 48).digitChar = d := by
  have hrange : 48 ≤ d.toNat ∧ d.toNat ≤ 57 := by simpa [Char.isDigit, UInt32.le_iff_toNat_le] using h
  refine ⟨by omega, Char.toNat_inj.1 ?_⟩
  rw [Nat.toNat_digitChar_of_lt_ten (by omega)]
  omega

/-- Digits without a zero in front are how the number is written. -/
theorem toDigits_natOfDigits {cs : List Char} (h : IsWhole cs) : Nat.toDigits 10 (natOfDigits cs) = cs := by
  induction cs using List.reverseRecOn with
  | nil => exact absurd rfl h.digits.nonempty
  | append_singleton cs d ih =>
    obtain ⟨hlt, hchar⟩ := digitChar_of_isDigit (h.digits.digits d (by simp))
    rw [natOfDigits_append]
    generalize d.toNat - 48 = k at hlt hchar
    subst hchar
    by_cases hcs : cs = []
    · subst hcs
      simpa [natOfDigits] using Nat.toDigits_of_lt_base hlt
    · have hnozero : cs.head? ≠ some '0' := by
        intro hzero
        have hall := h.noZero (by rw [List.head?_append_of_ne_nil _ hcs, hzero])
        have hlength := congrArg List.length hall
        rw [List.length_append, List.length_singleton, List.length_singleton] at hlength
        exact hcs (List.length_eq_zero_iff.1 (by omega))
      have hwhole : IsWhole cs :=
        ⟨⟨hcs, fun c hc => h.digits.digits c (List.mem_append_left _ hc)⟩, fun hzero => absurd hzero hnozero⟩
      have hpos : natOfDigits cs ≠ 0 := fun hzero => hnozero (by rw [← ih hwhole, hzero]; rfl)
      rw [Nat.mul_comm, ← Nat.toDigits_append_toDigits (by decide) (Nat.pos_of_ne_zero hpos) hlt, ih hwhole,
        Nat.toDigits_of_lt_base hlt]

/-! ## Numbers -/

theorem digits_of_span {cs ds rest : List Char} (h : cs.span Char.isDigit = (ds, rest)) :
    cs = ds ++ rest ∧ ∀ c ∈ ds, c.isDigit = true := by
  rw [List.span_eq_takeWhile_dropWhile] at h
  cases h
  exact ⟨List.takeWhile_append_dropWhile.symm, fun c hc => (List.mem_takeWhile_imp hc)⟩

/-- What may follow a number: nothing that would be a part of it. -/
def Ends (rest : List Char) : Prop := ∀ c ∈ rest.head?, c.isDigit = false ∧ c ≠ '.' ∧ c ≠ 'e' ∧ c ≠ 'E'

theorem Ends.not_digit {rest : List Char} (h : Ends rest) : ∀ c ∈ rest.head?, c.isDigit = false :=
  fun c hc => (h c hc).1

theorem readExponent_of_isSigned {i : Int} {cs rest : List Char} (h : IsSigned i cs)
    (hrest : ∀ c ∈ rest.head?, c.isDigit = false) : readExponent (cs ++ rest) = some (i, rest) := by
  have hspan {ds : List Char} (hds : Digits ds) : (ds ++ rest).span Char.isDigit = (ds, rest) :=
    span_append_of_stop hds.digits hrest
  unfold readExponent
  split
  rename_i negative unsigned heq
  cases h with
  | @bare ds hds =>
    obtain ⟨d, ds', rfl⟩ := List.exists_cons_of_ne_nil hds.nonempty
    have hd := hds.digits d List.mem_cons_self
    split at heq
    · rename_i hminus
      rw [(List.cons.inj hminus).1] at hd
      cases hd
    · rename_i hplus
      rw [(List.cons.inj hplus).1] at hd
      cases hd
    · cases heq
      rw [hspan hds]
      rfl
  | plus hds =>
    rw [List.cons_append] at heq
    cases heq
    rw [hspan hds]
    simp [hds.nonempty]
  | minus hds =>
    rw [List.cons_append] at heq
    cases heq
    rw [hspan hds]
    simp [hds.nonempty]

theorem isSigned_of_readExponent {i : Int} {cs rest : List Char} (h : readExponent cs = some (i, rest)) :
    ∃ w, IsSigned i w ∧ cs = w ++ rest := by
  unfold readExponent at h
  split at h
  rename_i negative unsigned heq
  split at h
  rename_i ds after hspan
  obtain ⟨rfl, hdigits⟩ := digits_of_span hspan
  split at h
  · cases h
  · rename_i hempty
    have hds : Digits ds := ⟨fun hnil => hempty (by rw [hnil]; rfl), hdigits⟩
    cases h
    split at heq <;> cases heq
    · exact ⟨_, .minus hds, rfl⟩
    · exact ⟨_, .plus hds, rfl⟩
    · exact ⟨_, .bare hds, rfl⟩

section
variable {negative : Bool} {whole fraction point letter cs rest : List Char} {exponent : Option Int} {n : JsonNumber}

/-- Reads what follows the digits after the point. -/
def readTail (negative : Bool) (whole fraction cs : List Char) : Option (JsonNumber × List Char) :=
  match cs with
  | 'e' :: r | 'E' :: r => (readExponent r).map fun (e, rest) => (numberOf negative whole fraction (some e), rest)
  | rest => some (numberOf negative whole fraction none, rest)

theorem readTail_of_isExponent (h : IsExponent exponent letter) (negative : Bool) (whole fraction : List Char)
    (hrest : Ends rest) :
    readTail negative whole fraction (letter ++ rest) = some (numberOf negative whole fraction exponent, rest) := by
  cases h with
  | none =>
    rw [List.nil_append]
    unfold readTail
    split
    · exact absurd rfl (hrest 'e' rfl).2.2.1
    · exact absurd rfl (hrest 'E' rfl).2.2.2
    · rfl
  | some he hsigned =>
    have hread := readExponent_of_isSigned hsigned hrest.not_digit
    rcases he with rfl | rfl <;> rw [List.cons_append, readTail, hread] <;> rfl

theorem isExponent_of_readTail (h : readTail negative whole fraction cs = some (n, rest)) :
    ∃ exponent letter, IsExponent exponent letter ∧ cs = letter ++ rest ∧
      n = numberOf negative whole fraction exponent := by
  have hsome {e : Char} {r : List Char} (he : e = 'e' ∨ e = 'E')
      (h : (readExponent r).map (fun x => (numberOf negative whole fraction (some x.1), x.2)) = some (n, rest)) :
      ∃ exponent letter, IsExponent exponent letter ∧ e :: r = letter ++ rest ∧
        n = numberOf negative whole fraction exponent := by
    obtain ⟨⟨i, rest'⟩, hread, heq⟩ := Option.map_eq_some_iff.1 h
    cases heq
    obtain ⟨w, hw, rfl⟩ := isSigned_of_readExponent hread
    exact ⟨_, _, .some he hw, rfl, rfl⟩
  unfold readTail at h
  split at h
  · exact hsome (.inl rfl) h
  · exact hsome (.inr rfl) h
  · cases h
    exact ⟨_, _, .none, rfl, rfl⟩

theorem readFraction_point {ds : List Char} (hds : Digits ds) (negative : Bool) (whole : List Char)
    (hcs : ∀ c ∈ cs.head?, c.isDigit = false) :
    readFraction negative whole ('.' :: (ds ++ cs)) = readTail negative whole ds cs := by
  have hne : ds.isEmpty = false := by simpa using hds.nonempty
  rw [readFraction, span_append_of_stop hds.digits hcs]
  simp only [hne]
  rfl

theorem readFraction_bare (hcs : ∀ r, cs ≠ '.' :: r) (negative : Bool) (whole : List Char) :
    readFraction negative whole cs = readTail negative whole [] cs := by
  unfold readFraction
  dsimp only
  split
  · exact absurd rfl (hcs _)
  · rfl

theorem IsExponent.not_digit (h : IsExponent exponent letter) (hrest : Ends rest) :
    ∀ c ∈ (letter ++ rest).head?, c.isDigit = false ∧ c ≠ '.' := by
  cases h with
  | none => exact fun c hc => ⟨(hrest c hc).1, (hrest c hc).2.1⟩
  | some he _ =>
    intro c hc
    cases hc
    rcases he with rfl | rfl <;> decide

theorem readFraction_of_parts (hpoint : IsFraction fraction point) (hletter : IsExponent exponent letter)
    (negative : Bool) (whole : List Char) (hrest : Ends rest) :
    readFraction negative whole (point ++ (letter ++ rest)) =
      some (numberOf negative whole fraction exponent, rest) := by
  have hafter := hletter.not_digit hrest
  cases hpoint with
  | none =>
    rw [List.nil_append, readFraction_bare (fun r hr => (hafter '.' (by rw [hr]; rfl)).2 rfl)]
    exact readTail_of_isExponent hletter negative whole [] hrest
  | point hds =>
    rw [List.cons_append, readFraction_point hds negative whole fun c hc => (hafter c hc).1]
    exact readTail_of_isExponent hletter negative whole _ hrest

theorem parts_of_readFraction (h : readFraction negative whole cs = some (n, rest)) :
    ∃ fraction exponent point letter, IsFraction fraction point ∧ IsExponent exponent letter ∧
      cs = point ++ (letter ++ rest) ∧ n = numberOf negative whole fraction exponent := by
  by_cases hpoint : ∃ r, cs = '.' :: r
  · obtain ⟨r, rfl⟩ := hpoint
    cases hspan : r.span Char.isDigit with
    | mk ds after =>
      obtain ⟨rfl, hdigits⟩ := digits_of_span hspan
      rw [readFraction, hspan] at h
      dsimp only at h
      split at h
      · cases h
      · rename_i hempty
        have hds : Digits ds := ⟨fun hnil => hempty (by rw [hnil]; rfl), hdigits⟩
        obtain ⟨exponent, letter, hletter, rfl, rfl⟩ := isExponent_of_readTail h
        exact ⟨ds, exponent, _, letter, .point hds, hletter, rfl, rfl⟩
  · rw [readFraction_bare fun r hr => hpoint ⟨r, hr⟩] at h
    obtain ⟨exponent, letter, hletter, rfl, rfl⟩ := isExponent_of_readTail h
    exact ⟨[], exponent, [], letter, .none, hletter, rfl, rfl⟩

/-- Reading a number after its sign, part by part. -/
theorem readNumber_of_parts (hwhole : IsWhole whole) (hpoint : IsFraction fraction point)
    (hletter : IsExponent exponent letter) (negative : Bool) (hrest : Ends rest) :
    readNumber negative (whole ++ (point ++ (letter ++ rest))) =
      some (numberOf negative whole fraction exponent, rest) := by
  have hafter : ∀ c ∈ (point ++ (letter ++ rest)).head?, c.isDigit = false := by
    cases hpoint with
    | none => exact fun c hc => (hletter.not_digit hrest c hc).1
    | point _ =>
      intro c hc
      cases hc
      rfl
  rw [readNumber, span_append_of_stop hwhole.digits.digits hafter]
  dsimp only
  split
  · exact absurd rfl hwhole.digits.nonempty
  · cases hwhole.noZero rfl
  · exact readFraction_of_parts hpoint hletter negative _ hrest

theorem parts_of_readNumber (h : readNumber negative cs = some (n, rest)) :
    ∃ whole fraction exponent point letter, IsWhole whole ∧ IsFraction fraction point ∧ IsExponent exponent letter ∧
      cs = whole ++ (point ++ (letter ++ rest)) ∧ n = numberOf negative whole fraction exponent := by
  unfold readNumber at h
  split at h
  rename_i whole after hspan
  obtain ⟨rfl, hdigits⟩ := digits_of_span hspan
  split at h
  · cases h
  · cases h
  · rename_i hnil hzeros
    obtain ⟨fraction, exponent, point, letter, hpoint, hletter, rfl, rfl⟩ := parts_of_readFraction h
    have hnozero : whole.head? = some '0' → whole = ['0'] := by
      intro hzero
      rcases whole with _ | ⟨c, _ | ⟨d, ds⟩⟩
      · cases hzero
      · rw [Option.some.inj hzero]
      · exact absurd (congrArg (· :: d :: ds) (Option.some.inj hzero)) (hzeros d ds)
    exact ⟨whole, fraction, exponent, point, letter, ⟨⟨hnil, hdigits⟩, hnozero⟩, hpoint, hletter, rfl, rfl⟩

end

theorem numberOf_toDigits (n : Nat) : numberOf false (Nat.toDigits 10 n) [] none = .int n := by
  simp [numberOf, natOfDigits_toDigits]

theorem numberOf_toDigits_neg {n : Nat} (hn : 0 < n) : numberOf true (Nat.toDigits 10 n) [] none = .int (-n) := by
  simp [numberOf, natOfDigits_toDigits, Nat.pos_iff_ne_zero.1 hn]

theorem isWhole_toDigits (n : Nat) : IsWhole (Nat.toDigits 10 n) where
  digits := ⟨Nat.toDigits_ne_nil, fun _ => isDigit_toDigits⟩
  noZero h := by
    obtain rfl | hn := Nat.eq_zero_or_pos n
    · rfl
    · exact absurd h (toDigits_head hn)

theorem numberOf_real {negative : Bool} {whole fraction point letter : List Char} {exponent : Option Int}
    (hpoint : IsFraction fraction point) (hletter : IsExponent exponent letter)
    (h : point ≠ [] ∨ letter ≠ [] ∨ (negative = true ∧ whole = ['0'])) :
    numberOf negative whole fraction exponent =
      .real negative (natOfDigits (whole ++ fraction)) (exponent.getD 0 - fraction.length) := by
  cases hpoint with
  | point hds => simp [numberOf, hds.nonempty]
  | none =>
    cases hletter with
    | some _ _ => simp [numberOf]
    | none =>
      obtain ⟨rfl, rfl⟩ : negative = true ∧ whole = ['0'] := by simpa using h
      rfl

/-- A number is a sign and parts. -/
theorem parts_of_isNumber {n : JsonNumber} {cs : List Char} (h : IsNumber n cs) :
    ∃ negative whole fraction exponent point letter, IsWhole whole ∧ IsFraction fraction point ∧
      IsExponent exponent letter ∧ cs = minus negative ++ (whole ++ (point ++ letter)) ∧
      n = numberOf negative whole fraction exponent := by
  cases h with
  | int i =>
    rw [toList_toString]
    split
    · rename_i hi
      refine ⟨false, _, _, _, _, _, isWhole_toDigits i.toNat, .none, .none, by simp [minus], ?_⟩
      rw [numberOf_toDigits, Int.toNat_of_nonneg hi]
    · rename_i hi
      refine ⟨true, _, _, _, _, _, isWhole_toDigits (-i).toNat, .none, .none, by simp [minus], ?_⟩
      rw [numberOf_toDigits_neg (by omega), Int.toNat_of_nonneg (by omega), Int.neg_neg]
  | real hwhole hpoint hletter hreal =>
    exact ⟨_, _, _, _, _, _, hwhole, hpoint, hletter, rfl, (numberOf_real hpoint hletter hreal).symm⟩

theorem isNumber_toDigits (n : Nat) : IsNumber (.int n) (Nat.toDigits 10 n) := by
  have h := IsNumber.int n
  rwa [toList_toString, if_pos (Int.natCast_nonneg n), Int.toNat_natCast] at h

theorem isNumber_toDigits_neg {n : Nat} (hn : 0 < n) : IsNumber (.int (-n)) ('-' :: Nat.toDigits 10 n) := by
  have h := IsNumber.int (-n)
  rwa [toList_toString, if_neg (by omega), Int.neg_neg, Int.toNat_natCast] at h

/-- A sign and parts are a number. -/
theorem isNumber_of_parts {whole fraction point letter : List Char} {exponent : Option Int} (negative : Bool)
    (hwhole : IsWhole whole) (hpoint : IsFraction fraction point) (hletter : IsExponent exponent letter) :
    IsNumber (numberOf negative whole fraction exponent) (minus negative ++ (whole ++ (point ++ letter))) := by
  by_cases hreal : point ≠ [] ∨ letter ≠ [] ∨ (negative = true ∧ whole = ['0'])
  · rw [numberOf_real hpoint hletter hreal]
    exact .real hwhole hpoint hletter hreal
  · obtain ⟨hpointless, hletterless, hzero⟩ : point = [] ∧ letter = [] ∧ (negative = true → whole ≠ ['0']) := by
      simpa using hreal
    subst hpointless hletterless
    cases hpoint
    cases hletter
    rw [← toDigits_natOfDigits hwhole] at hzero ⊢
    rw [List.append_nil, List.append_nil]
    cases negative with
    | false =>
      rw [numberOf_toDigits]
      exact isNumber_toDigits _
    | true =>
      have hpos : 0 < natOfDigits whole := Nat.pos_of_ne_zero fun h0 => hzero rfl (by rw [h0]; rfl)
      rw [numberOf_toDigits_neg hpos]
      exact isNumber_toDigits_neg hpos

/-- The first character of a number. -/
theorem head_of_isNumber {n : JsonNumber} {cs : List Char} (h : IsNumber n cs) :
    ∃ c ds, cs = c :: ds ∧ (c = '-' ∨ c.isDigit = true) := by
  obtain ⟨negative, whole, _, _, _, _, hwhole, -, -, rfl, -⟩ := parts_of_isNumber h
  cases negative with
  | true => exact ⟨_, _, rfl, .inl rfl⟩
  | false =>
    obtain ⟨d, ds, rfl⟩ := List.exists_cons_of_ne_nil hwhole.digits.nonempty
    exact ⟨_, _, rfl, .inr (hwhole.digits.digits d List.mem_cons_self)⟩

end Json

end DirectChat
