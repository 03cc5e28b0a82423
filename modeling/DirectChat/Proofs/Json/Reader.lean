import DirectChat.Proofs.Json.Tokens
/-!
# The reader accepts exactly JSON

The reader reads a text as a value if and only if the text says that value (`parse?_eq_some_iff`). One direction is an
induction on how the text is put together, with two steps of fuel for each character (`readValue_of_isValue`); the
other is one on the fuel (`isValue_of_readValue`). Behind a value no more is read (`parse?_append`).
-/

namespace DirectChat

namespace Json

/-! ## White space -/

theorem isBlank_iff {c : Char} : isBlank c = true ↔ c = ' ' ∨ c = '\t' ∨ c = '\n' ∨ c = '\r' := by
  simp [isBlank, or_assoc]

theorem blanks_nil : Blanks [] := fun _ h => absurd h List.not_mem_nil

theorem skipBlanks_append {a : List Char} (h : Blanks a) (cs : List Char) : skipBlanks (a ++ cs) = skipBlanks cs :=
  List.dropWhile_append_of_pos fun c hc => isBlank_iff.2 (h c hc)

theorem skipBlanks_cons {c : Char} (h : isBlank c = false) (cs : List Char) : skipBlanks (c :: cs) = c :: cs := by
  rw [skipBlanks, List.dropWhile_cons, h]
  rfl

/-- In front of what is left there was white space. -/
theorem exists_blanks (cs : List Char) : ∃ a, Blanks a ∧ cs = a ++ skipBlanks cs :=
  ⟨cs.takeWhile isBlank, fun _ hc => isBlank_iff.1 (List.mem_takeWhile_imp hc), List.takeWhile_append_dropWhile.symm⟩

theorem exists_of_skipBlanks {cs rest : List Char} {c : Char} (h : skipBlanks cs = c :: rest) :
    ∃ a, Blanks a ∧ cs = a ++ c :: rest := by
  obtain ⟨a, ha, hcs⟩ := exists_blanks cs
  exact ⟨a, ha, by rw [← h, ← hcs]⟩

theorem skipBlanks_eq_nil_iff {cs : List Char} : skipBlanks cs = [] ↔ Blanks cs := by
  constructor
  · intro h
    obtain ⟨a, ha, hcs⟩ := exists_blanks cs
    rw [h, List.append_nil] at hcs
    rwa [hcs]
  · intro h
    have hskip := skipBlanks_append h []
    rwa [List.append_nil] at hskip

theorem isBlank_of_isDigit {c : Char} (h : c.isDigit = true) : isBlank c = false := by
  cases hb : isBlank c with
  | false => rfl
  | true => rcases isBlank_iff.1 hb with rfl | rfl | rfl | rfl <;> cases h

/-! ## Literals, numbers and strings -/

/-- A number without a sign begins with no letter, quote or bracket. -/
theorem readScalar_digits {c : Char} (hc : c.isDigit = true) (cs : List Char) :
    readScalar (c :: cs) = (readNumber false (c :: cs)).map fun (n, rest) => (.num n, rest) := by
  unfold readScalar
  split <;> first | rfl | (rename_i heq; cases heq; cases hc)

theorem readScalar_of_isNumber {n : JsonNumber} {cs rest : List Char} (h : IsNumber n cs) (hrest : Ends rest) :
    readScalar (cs ++ rest) = some (.num n, rest) := by
  obtain ⟨negative, whole, fraction, exponent, point, letter, hwhole, hpoint, hletter, rfl, rfl⟩ := parts_of_isNumber h
  have hread := readNumber_of_parts hwhole hpoint hletter negative hrest
  rw [List.append_assoc, List.append_assoc, List.append_assoc]
  cases negative with
  | true =>
    show readScalar ('-' :: (whole ++ (point ++ (letter ++ rest)))) = _
    rw [readScalar, hread]
    rfl
  | false =>
    obtain ⟨d, ds, rfl⟩ := List.exists_cons_of_ne_nil hwhole.digits.nonempty
    show readScalar (d :: (ds ++ (point ++ (letter ++ rest)))) = _
    rw [readScalar_digits (hwhole.digits.digits d List.mem_cons_self)]
    exact congrArg (Option.map _) hread

theorem isNumber_of_readNumber {negative : Bool} {n : JsonNumber} {cs rest : List Char}
    (h : readNumber negative cs = some (n, rest)) : ∃ w, IsNumber n (minus negative ++ w) ∧ cs = w ++ rest := by
  obtain ⟨whole, fraction, exponent, point, letter, hwhole, hpoint, hletter, rfl, rfl⟩ := parts_of_readNumber h
  exact ⟨_, isNumber_of_parts negative hwhole hpoint hletter, by simp⟩

theorem isValue_of_readScalar {v : Json} {cs rest : List Char} (h : readScalar cs = some (v, rest)) :
    ∃ w, IsValue v w ∧ cs = w ++ rest := by
  unfold readScalar at h
  split at h
  · cases h
    exact ⟨_, .null, rfl⟩
  · cases h
    exact ⟨_, .yes, rfl⟩
  · cases h
    exact ⟨_, .no, rfl⟩
  · obtain ⟨⟨t, after⟩, hread, heq⟩ := Option.map_eq_some_iff.1 h
    cases heq
    obtain ⟨body, hbody, rfl⟩ := readText_eq_some_iff.1 hread
    exact ⟨_, .str hbody, rfl⟩
  · obtain ⟨⟨n, after⟩, hread, heq⟩ := Option.map_eq_some_iff.1 h
    cases heq
    obtain ⟨w, hw, rfl⟩ := isNumber_of_readNumber hread
    exact ⟨_, .num hw, rfl⟩
  · obtain ⟨⟨n, after⟩, hread, heq⟩ := Option.map_eq_some_iff.1 h
    cases heq
    obtain ⟨w, hw, rfl⟩ := isNumber_of_readNumber hread
    exact ⟨_, .num hw, rfl⟩

/-! ## What is written is read -/

/-- What may follow a value: anything, but behind a number nothing that would be a part of it. -/
def Follows (v : Json) (rest : List Char) : Prop := ∀ n, v = .num n → Ends rest

theorem ends_cons {c : Char} (h : c = ',' ∨ c = ']' ∨ c = '\x7d') (rest : List Char) : Ends (c :: rest) := by
  intro d hd
  cases hd
  rcases h with rfl | rfl | rfl <;> decide

theorem ends_append {after rest : List Char} (h : Blanks after) (hrest : Ends rest) : Ends (after ++ rest) := by
  cases after with
  | nil => exact hrest
  | cons c after =>
    intro d hd
    cases hd
    rcases h c List.mem_cons_self with rfl | rfl | rfl | rfl <;> decide

theorem head_of_isString {t : JsonText} {cs : List Char} (h : IsString t cs) : ∃ body, cs = '"' :: body := by
  cases h
  exact ⟨_, rfl⟩

/-- A value begins with no white space, and not with the bracket that would end an array before it. -/
theorem head_of_isValue {v : Json} {cs : List Char} (h : IsValue v cs) :
    ∃ c ds, cs = c :: ds ∧ isBlank c = false ∧ c ≠ ']' := by
  cases h with
  | num hn =>
    obtain ⟨c, ds, rfl, rfl | hc⟩ := head_of_isNumber hn
    · exact ⟨_, _, rfl, by decide, by decide⟩
    · exact ⟨_, _, rfl, isBlank_of_isDigit hc, by rintro rfl; cases hc⟩
  | str ht =>
    obtain ⟨body, rfl⟩ := head_of_isString ht
    exact ⟨_, _, rfl, by decide, by decide⟩
  | null | yes | no | emptyArr _ | arr _ | emptyObj _ | obj _ => exact ⟨_, _, rfl, by decide, by decide⟩

section
variable {fuel : Nat} {before after cs left rest : List Char} {v : Json}

theorem readValue_scalar {c : Char} (hbefore : Blanks before) (hblank : isBlank c = false) (harr : c ≠ '[')
    (hobj : c ≠ '\x7b') (h : readScalar (c :: cs) = some (v, rest)) :
    readValue (fuel + 1) (before ++ c :: cs) = .ok (v, rest) := by
  rw [readValue, skipBlanks_append hbefore, skipBlanks_cons hblank]
  split
  · rename_i heq
    exact absurd (List.cons.inj heq).1 harr
  · rename_i heq
    exact absurd (List.cons.inj heq).1 hobj
  · rw [h]

theorem readValue_emptyArr (hbefore : Blanks before) (hafter : Blanks after) :
    readValue (fuel + 1) (before ++ '[' :: (after ++ ']' :: rest)) = .ok (.arr [], rest) := by
  rw [readValue, skipBlanks_append hbefore, skipBlanks_cons (by decide)]
  simp only [skipBlanks_append hafter, skipBlanks_cons (show isBlank ']' = false by decide)]

theorem readValue_arr (hbefore : Blanks before) (hcs : ∀ r, skipBlanks cs ≠ ']' :: r) :
    readValue (fuel + 1) (before ++ '[' :: cs) = readItems fuel [] cs := by
  rw [readValue, skipBlanks_append hbefore, skipBlanks_cons (by decide)]
  split
  · rename_i inner heq
    obtain rfl := (List.cons.inj heq).2
    split
    · rename_i hclose
      exact absurd hclose (hcs _)
    · rfl
  · rename_i heq
    cases heq
  · rename_i hne _
    exact absurd rfl (hne cs)

theorem readValue_emptyObj (hbefore : Blanks before) (hafter : Blanks after) :
    readValue (fuel + 1) (before ++ '\x7b' :: (after ++ '\x7d' :: rest)) = .ok (.obj [], rest) := by
  rw [readValue, skipBlanks_append hbefore, skipBlanks_cons (by decide)]
  simp only [skipBlanks_append hafter, skipBlanks_cons (show isBlank '\x7d' = false by decide)]

theorem readValue_obj (hbefore : Blanks before) (hcs : ∀ r, skipBlanks cs ≠ '\x7d' :: r) :
    readValue (fuel + 1) (before ++ '\x7b' :: cs) = readMembers fuel [] cs := by
  rw [readValue, skipBlanks_append hbefore, skipBlanks_cons (by decide)]
  split
  · rename_i heq
    cases heq
  · rename_i inner heq
    obtain rfl := (List.cons.inj heq).2
    split
    · rename_i hclose
      exact absurd hclose (hcs _)
    · rfl
  · rename_i hne
    exact absurd rfl (hne cs)

theorem readItems_more (hread : readValue fuel cs = .ok (v, left)) (hleft : skipBlanks left = ',' :: rest)
    (acc : List Json) : readItems (fuel + 1) acc cs = readItems fuel (v :: acc) rest := by
  rw [readItems, hread]
  simp only [hleft]

theorem readItems_last (hread : readValue fuel cs = .ok (v, left)) (hleft : skipBlanks left = ']' :: rest)
    (acc : List Json) : readItems (fuel + 1) acc cs = .ok (.arr (acc.reverse ++ [v]), rest) := by
  rw [readItems, hread]
  simp only [hleft, List.reverse_cons]

variable {k : JsonText} {key : List Char}

theorem readText_of_isString {body : List Char} (h : IsString k ('"' :: body)) (rest : List Char) :
    readText (body ++ rest) = some (k, rest) :=
  readText_eq_some_iff.2 ⟨body, h, rfl⟩

theorem readMembers_more (hbefore : Blanks before) (hkey : IsString k key) (hafter : Blanks after)
    (hread : readValue fuel cs = .ok (v, left)) (hleft : skipBlanks left = ',' :: rest)
    (acc : List (JsonText × Json)) :
    readMembers (fuel + 1) acc (before ++ (key ++ (after ++ ':' :: cs))) = readMembers fuel ((k, v) :: acc) rest := by
  obtain ⟨body, rfl⟩ := head_of_isString hkey
  rw [readMembers, skipBlanks_append hbefore, List.cons_append, skipBlanks_cons (by decide)]
  simp only [readText_of_isString hkey, skipBlanks_append hafter, skipBlanks_cons (show isBlank ':' = false by decide),
    hread, hleft]

theorem readMembers_last (hbefore : Blanks before) (hkey : IsString k key) (hafter : Blanks after)
    (hread : readValue fuel cs = .ok (v, left)) (hleft : skipBlanks left = '\x7d' :: rest)
    (acc : List (JsonText × Json)) :
    readMembers (fuel + 1) acc (before ++ (key ++ (after ++ ':' :: cs))) =
      .ok (.obj (acc.reverse ++ [(k, v)]), rest) := by
  obtain ⟨body, rfl⟩ := head_of_isString hkey
  rw [readMembers, skipBlanks_append hbefore, List.cons_append, skipBlanks_cons (by decide)]
  simp only [readText_of_isString hkey, skipBlanks_append hafter, skipBlanks_cons (show isBlank ':' = false by decide),
    hread, hleft, List.reverse_cons]

end

/-- The items of an array do not begin with its closing bracket. -/
theorem head_of_isItems {vs : List Json} {cs : List Char} (h : IsItems vs cs) (rest r : List Char) :
    skipBlanks (cs ++ rest) ≠ ']' :: r := by
  have hpadded : ∀ {v : Json} {cs : List Char}, IsPadded v cs → ∀ rest, skipBlanks (cs ++ rest) ≠ ']' :: r := by
    rintro _ _ ⟨hbefore, hv, -⟩ rest hskip
    obtain ⟨c, ds, rfl, hblank, hc⟩ := head_of_isValue hv
    rw [List.append_assoc, skipBlanks_append hbefore, List.cons_append, List.cons_append,
      skipBlanks_cons hblank] at hskip
    exact hc (List.cons.inj hskip).1
  cases h with
  | one hv => exact hpadded hv rest
  | more hv _ =>
    rw [List.append_assoc]
    exact hpadded hv _

/-- The members of an object do not begin with its closing bracket. -/
theorem head_of_isMembers {ms : List (JsonText × Json)} {cs : List Char} (h : IsMembers ms cs) (rest r : List Char) :
    skipBlanks (cs ++ rest) ≠ '\x7d' :: r := by
  have hmember : ∀ {m : JsonText × Json} {cs : List Char}, IsMember m cs →
      ∀ rest, skipBlanks (cs ++ rest) ≠ '\x7d' :: r := by
    rintro _ _ ⟨hbefore, hkey, -, -⟩ rest hskip
    obtain ⟨body, rfl⟩ := head_of_isString hkey
    rw [List.append_assoc, skipBlanks_append hbefore, List.cons_append, List.cons_append,
      skipBlanks_cons (by decide)] at hskip
    cases hskip
  cases h with
  | one hm => exact hmember hm rest
  | more hm _ =>
    rw [List.append_assoc]
    exact hmember hm _

mutual

/-- **A value is read where its text stands**, behind white space and in front of what may follow it. The induction is
on how the text is put together. A value needs two steps of fuel for each character, a list of values one more: each
item or member takes one step itself and has at least its comma in front of the next. -/
theorem readValue_of_isValue : ∀ {v : Json} {cs : List Char}, IsValue v cs → ∀ {fuel : Nat} {before rest : List Char},
    Blanks before → Follows v rest → 2 * cs.length ≤ fuel → readValue fuel (before ++ (cs ++ rest)) = .ok (v, rest)
  | v, cs, h, 0, before, rest, hbefore, hrest, hfuel => by
    obtain ⟨c, ds, rfl, -⟩ := head_of_isValue h
    exact absurd hfuel (by simp)
  | _, _, .null, fuel + 1, before, rest, hbefore, _, _
  | _, _, .yes, fuel + 1, before, rest, hbefore, _, _
  | _, _, .no, fuel + 1, before, rest, hbefore, _, _ =>
    readValue_scalar hbefore (by decide) (by decide) (by decide) rfl
  | .num n, _, .num hn, fuel + 1, before, rest, hbefore, hrest, _ => by
    have hread := readScalar_of_isNumber hn (hrest n rfl)
    obtain ⟨c, ds, rfl, hc⟩ := head_of_isNumber hn
    refine readValue_scalar hbefore ?_ ?_ ?_ hread
    · rcases hc with rfl | hc
      · decide
      · exact isBlank_of_isDigit hc
    · rintro rfl
      exact absurd hc (by decide)
    · rintro rfl
      exact absurd hc (by decide)
  | _, _, .str ht, fuel + 1, before, rest, hbefore, _, _ => by
    obtain ⟨body, rfl⟩ := head_of_isString ht
    refine readValue_scalar hbefore (by decide) (by decide) (by decide) ?_
    rw [List.append_eq, readScalar, readText_of_isString ht]
    rfl
  | _, _, .emptyArr hblank, fuel + 1, before, rest, hbefore, _, _ => by
    rw [List.cons_append, List.append_assoc]
    exact readValue_emptyArr hbefore hblank
  | _, _, .arr hitems, fuel + 1, before, rest, hbefore, _, hfuel => by
    rw [List.length_cons, List.length_append, List.length_singleton] at hfuel
    rw [List.cons_append, List.append_assoc, readValue_arr hbefore (head_of_isItems hitems _)]
    exact readItems_of_isItems hitems (by omega) []
  | _, _, .emptyObj hblank, fuel + 1, before, rest, hbefore, _, _ => by
    rw [List.cons_append, List.append_assoc]
    exact readValue_emptyObj hbefore hblank
  | _, _, .obj hmembers, fuel + 1, before, rest, hbefore, _, hfuel => by
    rw [List.length_cons, List.length_append, List.length_singleton] at hfuel
    rw [List.cons_append, List.append_assoc, readValue_obj hbefore (head_of_isMembers hmembers _)]
    exact readMembers_of_isMembers hmembers (by omega) []

/-- Behind a value there is left what follows it, after its white space. -/
theorem readValue_of_isPadded : ∀ {v : Json} {cs : List Char}, IsPadded v cs → ∀ (fuel : Nat) {c : Char}
    {rest : List Char}, c = ',' ∨ c = ']' ∨ c = '\x7d' → 2 * cs.length ≤ fuel →
    ∃ left, readValue fuel (cs ++ c :: rest) = .ok (v, left) ∧ skipBlanks left = c :: rest
  | _, _, .pad hbefore hv hafter, fuel, c, rest, hc, hfuel => by
    have hrest := ends_append hafter (ends_cons hc rest)
    have hblank : isBlank c = false := by rcases hc with rfl | rfl | rfl <;> decide
    rw [List.length_append, List.length_append] at hfuel
    refine ⟨_, ?_, by rw [skipBlanks_append hafter, skipBlanks_cons hblank]⟩
    rw [List.append_assoc, List.append_assoc]
    exact readValue_of_isValue hv hbefore (fun _ _ => hrest) (by omega)

theorem readItems_of_isItems : ∀ {vs : List Json} {cs : List Char}, IsItems vs cs → ∀ {fuel : Nat} {rest : List Char},
    2 * cs.length + 1 ≤ fuel → ∀ acc, readItems fuel acc (cs ++ ']' :: rest) = .ok (.arr (acc.reverse ++ vs), rest)
  | _, _, _, 0, _, hfuel, _ => by omega
  | _, _, .one hv, fuel + 1, rest, hfuel, acc => by
    obtain ⟨left, hread, hleft⟩ := readValue_of_isPadded hv fuel (.inr (.inl rfl)) (by omega)
    exact readItems_last hread hleft acc
  | _, _, .more hv hvs, fuel + 1, rest, hfuel, acc => by
    rw [List.length_append, List.length_cons] at hfuel
    obtain ⟨left, hread, hleft⟩ := readValue_of_isPadded hv fuel (.inl rfl) (by omega)
    rw [List.append_assoc, List.cons_append, readItems_more hread hleft, readItems_of_isItems hvs (by omega)]
    simp

theorem readMembers_of_isMembers : ∀ {ms : List (JsonText × Json)} {cs : List Char}, IsMembers ms cs →
    ∀ {fuel : Nat} {rest : List Char}, 2 * cs.length + 1 ≤ fuel →
    ∀ acc, readMembers fuel acc (cs ++ '\x7d' :: rest) = .ok (.obj (acc.reverse ++ ms), rest)
  | _, _, _, 0, _, hfuel, _ => by omega
  | _, _, .one (.pair hbefore hkey hafter hv), fuel + 1, rest, hfuel, acc => by
    simp only [List.length_append, List.length_cons] at hfuel
    obtain ⟨left, hread, hleft⟩ := readValue_of_isPadded hv fuel (.inr (.inr rfl)) (by omega)
    simp only [List.append_assoc, List.cons_append]
    exact readMembers_last hbefore hkey hafter hread hleft acc
  | _, _, .more (.pair hbefore hkey hafter hv) hms, fuel + 1, rest, hfuel, acc => by
    simp only [List.length_append, List.length_cons] at hfuel
    obtain ⟨left, hread, hleft⟩ := readValue_of_isPadded hv fuel (.inl rfl) (by omega)
    simp only [List.append_assoc, List.cons_append]
    rw [readMembers_more hbefore hkey hafter hread hleft, readMembers_of_isMembers hms (by omega)]
    simp

end

/-! ## What is read was written -/

mutual

/-- **What is read as a value is its text**, behind white space. The induction is on the fuel. -/
theorem isValue_of_readValue : ∀ {fuel : Nat} {cs rest : List Char} {v : Json}, readValue fuel cs = .ok (v, rest) →
    ∃ before w, Blanks before ∧ IsValue v w ∧ cs = before ++ (w ++ rest)
  | 0, _, _, _, h => by
    rw [readValue] at h
    cases h
  | fuel + 1, cs, rest, v, h => by
    rw [readValue] at h
    split at h
    · rename_i inner hskip
      obtain ⟨before, hbefore, rfl⟩ := exists_of_skipBlanks hskip
      split at h
      · rename_i last hinner
        obtain ⟨after, hafter, rfl⟩ := exists_of_skipBlanks hinner
        cases h
        exact ⟨before, _, hbefore, .emptyArr hafter, by simp⟩
      · obtain ⟨vs, w, hw, rfl, rfl⟩ := isItems_of_readItems h
        exact ⟨before, _, hbefore, .arr hw, by simp⟩
    · rename_i inner hskip
      obtain ⟨before, hbefore, rfl⟩ := exists_of_skipBlanks hskip
      split at h
      · rename_i last hinner
        obtain ⟨after, hafter, rfl⟩ := exists_of_skipBlanks hinner
        cases h
        exact ⟨before, _, hbefore, .emptyObj hafter, by simp⟩
      · obtain ⟨ms, w, hw, rfl, rfl⟩ := isMembers_of_readMembers h
        exact ⟨before, _, hbefore, .obj hw, by simp⟩
    · split at h
      · rename_i u after hread
        cases h
        obtain ⟨before, hbefore, hcs⟩ := exists_blanks cs
        obtain ⟨w, hw, hskip⟩ := isValue_of_readScalar hread
        exact ⟨before, w, hbefore, hw, by rw [← hskip, ← hcs]⟩
      · cases h

theorem isItems_of_readItems : ∀ {fuel : Nat} {acc : List Json} {cs rest : List Char} {v : Json},
    readItems fuel acc cs = .ok (v, rest) → ∃ vs w, IsItems vs w ∧ v = .arr (acc.reverse ++ vs) ∧ cs = w ++ ']' :: rest
  | 0, _, _, _, _, h => by
    rw [readItems] at h
    cases h
  | fuel + 1, acc, cs, rest, v, h => by
    rw [readItems] at h
    split at h
    · cases h
    · rename_i u left hread
      obtain ⟨before, w, hbefore, hw, rfl⟩ := isValue_of_readValue hread
      split at h
      · rename_i next hleft
        obtain ⟨after, hafter, rfl⟩ := exists_of_skipBlanks hleft
        obtain ⟨vs, ws, hvs, rfl, rfl⟩ := isItems_of_readItems h
        exact ⟨u :: vs, _, .more (.pad hbefore hw hafter) hvs, by simp, by simp⟩
      · rename_i next hleft
        obtain ⟨after, hafter, rfl⟩ := exists_of_skipBlanks hleft
        cases h
        exact ⟨[u], _, .one (.pad hbefore hw hafter), by simp, by simp⟩
      · cases h

theorem isMembers_of_readMembers : ∀ {fuel : Nat} {acc : List (JsonText × Json)} {cs rest : List Char} {v : Json},
    readMembers fuel acc cs = .ok (v, rest) →
    ∃ ms w, IsMembers ms w ∧ v = .obj (acc.reverse ++ ms) ∧ cs = w ++ '\x7d' :: rest
  | 0, _, _, _, _, h => by
    rw [readMembers] at h
    cases h
  | fuel + 1, acc, cs, rest, v, h => by
    rw [readMembers] at h
    split at h
    · rename_i afterQuote hquote
      obtain ⟨before, hbefore, rfl⟩ := exists_of_skipBlanks hquote
      split at h
      · cases h
      · rename_i k afterKey htext
        obtain ⟨key, hkey, rfl⟩ := readText_eq_some_iff.1 htext
        split at h
        · rename_i afterColon hcolon
          obtain ⟨between, hbetween, rfl⟩ := exists_of_skipBlanks hcolon
          split at h
          · cases h
          · rename_i u left hread
            obtain ⟨space, w, hspace, hw, rfl⟩ := isValue_of_readValue hread
            split at h
            · rename_i next hleft
              obtain ⟨after, hafter, rfl⟩ := exists_of_skipBlanks hleft
              obtain ⟨ms, ws, hms, rfl, rfl⟩ := isMembers_of_readMembers h
              exact ⟨(k, u) :: ms, _, .more (.pair hbefore hkey hbetween (.pad hspace hw hafter)) hms, by simp, by simp⟩
            · rename_i next hleft
              obtain ⟨after, hafter, rfl⟩ := exists_of_skipBlanks hleft
              cases h
              exact ⟨[(k, u)], _, .one (.pair hbefore hkey hbetween (.pad hspace hw hafter)), by simp, by simp⟩
            · cases h
        · cases h
    · cases h

end

/-! ## Texts -/

/-- A text that begins with a value: what is behind it decides whether it is the whole text. -/
theorem scan_of_isValue {s : String} {v : Json} {before cs rest : List Char} (hbefore : Blanks before)
    (hv : IsValue v cs) (hrest : Follows v rest) (hs : s.toList = before ++ (cs ++ rest)) :
    scan s = if (skipBlanks rest).isEmpty then .whole v else .trailing v := by
  have hfuel : 2 * cs.length ≤ 2 * s.toList.length + 2 := by
    rw [hs, List.length_append, List.length_append]
    omega
  have hread := readValue_of_isValue hv hbefore hrest hfuel
  rw [← hs] at hread
  unfold scan
  simp only [hread]

theorem follows_blanks (v : Json) {rest : List Char} (h : Blanks rest) : Follows v rest := fun _ _ => by
  have hends : Ends (rest ++ []) := ends_append h fun _ hc => by cases hc
  rwa [List.append_nil] at hends

theorem scan_eq_whole_iff {s : String} {v : Json} : scan s = .whole v ↔ IsTextOf s v := by
  constructor
  · intro h
    unfold scan at h
    dsimp only at h
    split at h
    · cases h
    · rename_i u rest hread
      split at h
      · rename_i hempty
        cases h
        obtain ⟨before, w, hbefore, hw, hs⟩ := isValue_of_readValue hread
        have hafter : Blanks rest := skipBlanks_eq_nil_iff.1 (List.isEmpty_iff.1 hempty)
        rw [IsTextOf, hs]
        exact .pad hbefore hw hafter
      · cases h
  · intro h
    rw [IsTextOf] at h
    generalize hs : s.toList = cs at h
    cases h with
    | pad hbefore hv hafter =>
      rw [scan_of_isValue hbefore hv (follows_blanks v hafter) hs, skipBlanks_eq_nil_iff.2 hafter]
      rfl

/-- **A text is read as a value if and only if it is JSON that says the value.** -/
theorem parse?_eq_some_iff {s : String} {v : Json} : parse? s = some v ↔ IsTextOf s v := by
  rw [← scan_eq_whole_iff, parse?]
  split
  · rename_i u hu
    rw [hu]
    simp
  · rename_i hne
    exact ⟨nofun, fun h => absurd h (hne v)⟩

/-- What begins as a number is a number. -/
theorem isNumber_of_head {v : Json} {cs : List Char} (h : IsValue v cs) {c : Char} (hc : c ∈ cs.head?)
    (hnum : c = '-' ∨ c.isDigit = true) : ∃ n, v = .num n := by
  cases h with
  | num _ => exact ⟨_, rfl⟩
  | str ht =>
    obtain ⟨body, rfl⟩ := head_of_isString ht
    cases hc
    exact absurd hnum (by decide)
  | null | yes | no | emptyArr _ | arr _ | emptyObj _ | obj _ =>
    cases hc
    exact absurd hnum (by decide)

/-- Two values in one text begin with the same character. -/
theorem head_unique {v u : Json} {before cs rest before' cs' rest' : List Char} (hbefore : Blanks before)
    (hv : IsValue v cs) (hbefore' : Blanks before') (hu : IsValue u cs')
    (h : before ++ (cs ++ rest) = before' ++ (cs' ++ rest')) : cs.head? = cs'.head? := by
  obtain ⟨c, ds, rfl, hc, -⟩ := head_of_isValue hv
  obtain ⟨c', ds', rfl, hc', -⟩ := head_of_isValue hu
  have hskip := congrArg skipBlanks h
  rw [skipBlanks_append hbefore, skipBlanks_append hbefore', List.cons_append, List.cons_append, skipBlanks_cons hc,
    skipBlanks_cons hc'] at hskip
  exact congrArg some (List.cons.inj hskip).1

/-- A text that goes on after its value is no JSON, unless it is a number that goes on. -/
theorem parse?_append {s rest : String} {v u : Json} (h : IsTextOf s v) (hrest : ¬ Blanks rest.toList)
    (hread : parse? (s ++ rest) = some u) : ∃ n, u = .num n := by
  rw [IsTextOf] at h
  generalize hs : s.toList = cs at h
  cases h with
  | @pad _ before w after hbefore hv hafter =>
    have hall : (s ++ rest).toList = before ++ (w ++ (after ++ rest.toList)) := by
      rw [String.toList_append, hs, List.append_assoc, List.append_assoc]
    by_cases hnum : ∃ n, v = .num n
    · have hu := parse?_eq_some_iff.1 hread
      rw [IsTextOf, hall] at hu
      generalize hcs : before ++ (w ++ (after ++ rest.toList)) = cs at hu
      cases hu with
      | pad hbefore' hu _ =>
        obtain ⟨n, rfl⟩ := hnum
        cases hv with
        | num hn =>
          obtain ⟨c, ds, rfl, hc⟩ := head_of_isNumber hn
          have hhead := head_unique hbefore (.num hn) hbefore' hu hcs
          exact isNumber_of_head hu (hhead ▸ rfl) hc
    · have hscan := scan_of_isValue hbefore hv (fun n hn => absurd ⟨n, hn⟩ hnum) hall
      have hjunk : skipBlanks (after ++ rest.toList) ≠ [] := fun h =>
        hrest fun c hc => skipBlanks_eq_nil_iff.1 h c (List.mem_append_right _ hc)
      rw [if_neg (by simpa using hjunk)] at hscan
      rw [parse?, hscan] at hread
      cases hread

end Json

end DirectChat
