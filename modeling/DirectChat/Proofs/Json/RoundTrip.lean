import DirectChat.Json.Printer
import DirectChat.Proofs.Json.Reader
/-!
# What is written is read back

Writing loses nothing of a value whose numbers are integers and whose strings are sequences of
characters (`Plain`). What is written of such a value is JSON that says the value, in front of whatever follows
(`isValue_write`); so its text is read as that value (`scan_render`).
-/

namespace DirectChat

namespace Json

/-! ## Strings -/

theorem isHexDigit_hexDigit : ∀ n < 16, IsHexDigit n (hexDigit n) := by decide

/-- A written character is the character or one of its escapes. -/
theorem isPiece_escapeChar (c : Char) : IsPiece (.char c) (escapeChar c) := by
  unfold escapeChar
  by_cases hquote : c = '"'
  · subst hquote; exact .short (by decide)
  by_cases hbackslash : c = '\\'
  · subst hbackslash; exact .short (by decide)
  rw [if_neg hquote, if_neg hbackslash]
  by_cases hb : c = '\x08'
  · subst hb; exact .short (by decide)
  by_cases ht : c = '\t'
  · subst ht; exact .short (by decide)
  by_cases hn : c = '\n'
  · subst hn; exact .short (by decide)
  by_cases hf : c = '\x0c'
  · subst hf; exact .short (by decide)
  by_cases hr : c = '\r'
  · subst hr; exact .short (by decide)
  rw [if_neg hb, if_neg ht, if_neg hn, if_neg hf, if_neg hr]
  by_cases hcontrol : c.toNat < 32
  · rw [if_pos hcontrol]
    have hzero : IsHexDigit 0 '0' := isHexDigit_hexDigit 0 (by decide)
    have hunit := IsCodeUnit.digits hzero hzero (isHexDigit_hexDigit (c.toNat / 16) (by omega))
      (isHexDigit_hexDigit (c.toNat % 16) (by omega))
    rw [show ((0 * 16 + 0) * 16 + c.toNat / 16) * 16 + c.toNat % 16 = c.toNat by omega] at hunit
    exact .escaped hunit
  · rw [if_neg hcontrol]
    exact .plain hquote hbackslash (Nat.not_lt.1 hcontrol)

theorem isBody_flatMap (cs : List Char) : IsBody (cs.map .char) (cs.flatMap escapeChar) := by
  induction cs with
  | nil => exact .nil
  | cons c cs ih => exact .cons (isPiece_escapeChar c) ih

theorem spells_map_char (cs : List Char) : Spells (cs.map .char) cs := by
  induction cs with
  | nil => exact .nil
  | cons c cs ih => exact .char ih

theorem isString_writeText (s : String) : IsString (some s) (writeText (some s)) :=
  .quoted (isBody_flatMap s.toList) (spells_map_char s.toList)

/-! ## Values -/

mutual

/-- A value of integers and strings of characters, in which nothing is written in two ways. -/
def Plain : Json → Prop
  | .null | .bool _ => True
  | .num n => ∃ i, n = .int i
  | .str t => ∃ s, t = some s
  | .arr items => PlainItems items
  | .obj members => PlainMembers members

def PlainItems : List Json → Prop
  | [] => True
  | v :: vs => Plain v ∧ PlainItems vs

def PlainMembers : List (JsonText × Json) → Prop
  | [] => True
  | (k, v) :: ms => (∃ s, k = some s) ∧ Plain v ∧ PlainMembers ms

end

@[simp] theorem plain_bool (b : Bool) : (bool b).Plain := trivial

@[simp] theorem plain_int (i : Int) : (int i).Plain := ⟨i, rfl⟩

@[simp] theorem plain_text (s : String) : (text s).Plain := ⟨s, rfl⟩

/-- The values of the members of a record are plain. -/
def PlainFields (ms : List (String × Json)) : Prop := ∀ m ∈ ms, m.2.Plain

section
variable {α : Type} {write : α → Json} {ms ms' : List (String × Json)}

@[simp] theorem plainFields_nil : PlainFields [] := by simp [PlainFields]

@[simp] theorem plainFields_cons {m : String × Json} : PlainFields (m :: ms) ↔ m.2.Plain ∧ PlainFields ms := by
  simp [PlainFields]

@[simp] theorem plainFields_append : PlainFields (ms ++ ms') ↔ PlainFields ms ∧ PlainFields ms' :=
  List.forall_mem_append

theorem plainFields_optional (h : ∀ a, (write a).Plain) (key : String) (x : Option α) :
    PlainFields (Json.optional key (x.map write)) := by
  cases x <;> simp [Json.optional, h]

theorem plain_record (h : PlainFields ms) : (record ms).Plain := by
  show PlainMembers (ms.map fun m => (some m.1, m.2))
  induction ms with
  | nil => trivial
  | cons m ms ih =>
    obtain ⟨hm, hms⟩ := plainFields_cons.mp h
    exact ⟨⟨m.1, rfl⟩, hm, ih hms⟩

theorem plain_items (h : ∀ a, (write a).Plain) (as : List α) : (arr (as.map write)).Plain := by
  show PlainItems (as.map write)
  induction as with
  | nil => trivial
  | cons a as ih => exact ⟨h a, ih⟩

end

theorem isPadded_of_isValue {v : Json} {cs : List Char} (h : IsValue v cs) : IsPadded v cs := by
  simpa using IsPadded.pad blanks_nil h blanks_nil

theorem isMember_of_isValue (k : String) {v : Json} {cs : List Char} (h : IsValue v cs) :
    IsMember (some k, v) (writeText (some k) ++ ':' :: cs) := by
  simpa using IsMember.pair blanks_nil (isString_writeText k) blanks_nil (isPadded_of_isValue h)

mutual

/-- **A plain value is written as JSON that says it**, in front of what follows. -/
theorem isValue_write : ∀ {v : Json}, v.Plain → ∃ cs, IsValue v cs ∧ ∀ rest, write v rest = cs ++ rest
  | .null, _ => ⟨_, .null, fun _ => rfl⟩
  | .bool true, _ => ⟨_, .yes, fun _ => rfl⟩
  | .bool false, _ => ⟨_, .no, fun _ => rfl⟩
  | .num _, ⟨i, hn⟩ => hn ▸ ⟨_, .num (.int i), fun _ => rfl⟩
  | .str _, ⟨s, ht⟩ => ht ▸ ⟨_, .str (isString_writeText s), fun _ => rfl⟩
  | .arr [], _ => ⟨_, .emptyArr blanks_nil, fun _ => rfl⟩
  | .arr (v :: vs), ⟨hv, hvs⟩ => by
    obtain ⟨cs, hcs, hwrite⟩ := isValue_write hv
    obtain ⟨ds, hds, hitems⟩ := isItems_write hvs hcs
    exact ⟨_, .arr hds, fun rest => by simp [write, hwrite, hitems]⟩
  | .obj [], _ => ⟨_, .emptyObj blanks_nil, fun _ => rfl⟩
  | .obj ((_, v) :: ms), ⟨⟨s, hs⟩, hv, hms⟩ => by
    subst hs
    obtain ⟨cs, hcs, hwrite⟩ := isValue_write hv
    obtain ⟨ds, hds, hmembers⟩ := isMembers_write hms (isMember_of_isValue s hcs)
    exact ⟨_, .obj hds, fun rest => by simpa [write, hwrite] using hmembers rest⟩

/-- The items after a first one. -/
theorem isItems_write : ∀ {vs : List Json}, PlainItems vs → ∀ {v : Json} {cs : List Char}, IsValue v cs →
    ∃ ds, IsItems (v :: vs) ds ∧ ∀ rest, cs ++ writeItems vs rest = ds ++ ']' :: rest
  | [], _, _, _, h => ⟨_, .one (isPadded_of_isValue h), fun _ => rfl⟩
  | _ :: _, ⟨hv, hvs⟩, _, _, h => by
    obtain ⟨es, hes, hwrite⟩ := isValue_write hv
    obtain ⟨ds, hds, hitems⟩ := isItems_write hvs hes
    exact ⟨_, .more (isPadded_of_isValue h) hds, fun rest => by simp [writeItems, hwrite, hitems]⟩

/-- The members after a first one. -/
theorem isMembers_write : ∀ {ms : List (JsonText × Json)}, PlainMembers ms → ∀ {m : JsonText × Json} {cs : List Char},
    IsMember m cs → ∃ ds, IsMembers (m :: ms) ds ∧ ∀ rest, cs ++ writeMembers ms rest = ds ++ '\x7d' :: rest
  | [], _, _, _, h => ⟨_, .one h, fun _ => rfl⟩
  | (_, _) :: _, ⟨⟨s, hs⟩, hv, hms⟩, _, _, h => by
    subst hs
    obtain ⟨es, hes, hwrite⟩ := isValue_write hv
    obtain ⟨ds, hds, hmembers⟩ := isMembers_write hms (isMember_of_isValue s hes)
    exact ⟨_, .more h hds, fun rest => by simpa [writeMembers, hwrite] using hmembers rest⟩

end

/-- **The text of a plain value holds that value and nothing else.** -/
theorem scan_render {v : Json} (hv : v.Plain) : scan v.render = .whole v := by
  obtain ⟨cs, hcs, hwrite⟩ := isValue_write hv
  rw [scan_eq_whole_iff, IsTextOf, render, String.toList_ofList, hwrite, List.append_nil]
  exact isPadded_of_isValue hcs

theorem parse?_render {v : Json} (hv : v.Plain) : parse? v.render = some v := by
  rw [parse?, scan_render hv]

end Json

end DirectChat
