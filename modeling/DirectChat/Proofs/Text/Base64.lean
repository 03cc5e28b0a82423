import DirectChat.Text.Base64
import DirectChat.Text.Blank
import Mathlib.Tactic.Common
/-!
# Bytes written as text are read back

The text of bytes is the row of their groups of six bits (`Base64.sextets`), each written as its digit. Reading takes the
digits back to the groups and joins them, so what is read of a text is what was written (`Base64.decode_encode`). Only
digits occur in what is written and in what can be read.
-/

namespace DirectChat

namespace Base64

variable {b : Base64}

/-- Each digit has one value, the one it is written for. -/
def IsAlphabet (b : Base64) : Prop := ∀ n < 64, b.value? (b.digit n) = some n

theorem isAlphabet_standard : standard.IsAlphabet := by
  unfold IsAlphabet
  decide

theorem isAlphabet_urlSafe : urlSafe.IsAlphabet := by
  unfold IsAlphabet
  decide

/-! ## Groups of six bits -/

/-- The groups of six bits of a sequence of bytes, the last one filled up with zeros. -/
def sextets : List UInt8 → List Nat
  | [] => []
  | [x] => [x.toNat * 16 / 64, x.toNat * 16 % 64]
  | [x, y] =>
    let n := (x.toNat * 256 + y.toNat) * 4
    [n / 4096, n / 64 % 64, n % 64]
  | x :: y :: z :: rest =>
    let n := (x.toNat * 256 + y.toNat) * 256 + z.toNat
    n / 262144 :: n / 4096 % 64 :: n / 64 % 64 :: n % 64 :: sextets rest

theorem encode_eq_map (b : Base64) (bytes : List UInt8) : b.encode bytes = (sextets bytes).map b.digit := by
  induction bytes using sextets.induct with
  | case1 => rfl
  | case2 x => rfl
  | case3 x y => rfl
  | case4 x y z rest ih => simp [encode, sextets, ih]

theorem lt_of_mem_sextets {bytes : List UInt8} {n : Nat} (h : n ∈ sextets bytes) : n < 64 := by
  induction bytes using sextets.induct with
  | case1 => simp [sextets] at h
  | case2 x =>
    have hx := x.toNat_lt
    simp only [sextets, List.mem_cons, List.not_mem_nil, or_false] at h
    omega
  | case3 x y =>
    have hx := x.toNat_lt
    have hy := y.toNat_lt
    simp only [sextets, List.mem_cons, List.not_mem_nil, or_false] at h
    omega
  | case4 x y z rest ih =>
    have hx := x.toNat_lt
    have hy := y.toNat_lt
    have hz := z.toNat_lt
    simp only [sextets, List.mem_cons] at h
    rcases h with h | h | h | h | h
    · omega
    · omega
    · omega
    · omega
    · exact ih h

theorem toUInt8_eq {n : Nat} {x : UInt8} (h : n % 256 = x.toNat) : n.toUInt8 = x := by
  apply UInt8.toNat_inj.1
  simpa using h

theorem join_sextets (bytes : List UInt8) : join (sextets bytes) = some bytes := by
  induction bytes using sextets.induct with
  | case1 => rfl
  | case2 x =>
    have hx := x.toNat_lt
    simp only [sextets, join]
    rw [if_pos (by omega), toUInt8_eq (x := x) (by omega)]
  | case3 x y =>
    have hx := x.toNat_lt
    have hy := y.toNat_lt
    simp only [sextets, join]
    rw [if_pos (by omega), toUInt8_eq (x := x) (by omega), toUInt8_eq (x := y) (by omega)]
  | case4 x y z rest ih =>
    have hx := x.toNat_lt
    have hy := y.toNat_lt
    have hz := z.toNat_lt
    simp only [sextets, join, ih, Option.map_some]
    rw [toUInt8_eq (x := x) (by omega), toUInt8_eq (x := y) (by omega), toUInt8_eq (x := z) (by omega)]

/-- **What is written is read back.** -/
theorem decode_encode (hb : b.IsAlphabet) (bytes : List UInt8) : b.decode (b.encode bytes) = some bytes := by
  have hvalues : ∀ ns : List Nat, (∀ n ∈ ns, n < 64) → (ns.map b.digit).mapM b.value? = some ns := by
    intro ns hns
    induction ns with
    | nil => rfl
    | cons n ns ih =>
      simp only [List.mem_cons, forall_eq_or_imp] at hns
      simp [List.mapM_cons, hb n hns.1, ih hns.2]
  rw [decode, encode_eq_map, hvalues _ fun n => lt_of_mem_sextets, Option.bind_some, join_sextets]

theorem length_encode (b : Base64) (bytes : List UInt8) : (b.encode bytes).length = (4 * bytes.length + 2) / 3 := by
  induction bytes using sextets.induct with
  | case1 => rfl
  | case2 x => simp [encode]
  | case3 x y => simp [encode]
  | case4 x y z rest ih =>
    simp only [encode, List.length_cons, ih]
    omega

/-! ## Digits -/

theorem isSome_value?_of_encode (hb : b.IsAlphabet) {bytes : List UInt8} {c : Char} (h : c ∈ b.encode bytes) :
    (b.value? c).isSome = true := by
  rw [encode_eq_map, List.mem_map] at h
  obtain ⟨n, hn, rfl⟩ := h
  simp [hb n (lt_of_mem_sextets hn)]

theorem isSome_value?_of_decode {cs : List Char} {bytes : List UInt8} (h : b.decode cs = some bytes) {c : Char}
    (hc : c ∈ cs) : (b.value? c).isSome = true := by
  obtain ⟨ns, hns, -⟩ := Option.bind_eq_some_iff.1 h
  clear h
  induction cs generalizing ns with
  | nil => simp at hc
  | cons d cs ih =>
    simp only [List.mapM_cons, Option.bind_eq_bind, Option.bind_eq_some_iff] at hns
    obtain ⟨n, hn, ns, hns, -⟩ := hns
    rcases List.mem_cons.1 hc with rfl | hc
    · simp [hn]
    · exact ih hc ns hns

/-- The numbers of the letters and of the decimal digits. -/
theorem isAlphanum_iff {c : Char} :
    c.isAlphanum = true ↔
      ((65 ≤ c.toNat ∧ c.toNat ≤ 90) ∨ (97 ≤ c.toNat ∧ c.toNat ≤ 122)) ∨ (48 ≤ c.toNat ∧ c.toNat ≤ 57) := by
  show (decide (_ ∧ _) || (decide _ && decide _) || (decide _ && decide _)) = true ↔ _
  simp only [Bool.or_eq_true, Bool.and_eq_true, decide_eq_true_eq, UInt32.le_iff_toNat_le, ge_iff_le]
  rfl

/-- A digit is a letter, a decimal digit or one of the two further ones. -/
theorem isAlphanum_of_value? {c : Char} (h : (b.value? c).isSome = true) :
    c.isAlphanum = true ∨ c = b.plus ∨ c = b.slash := by
  rw [isAlphanum_iff]
  simp only [value?] at h
  split_ifs at h with hupper hlower hdigit hplus hslash
  · exact .inl (.inl (.inl hupper))
  · exact .inl (.inl (.inr hlower))
  · exact .inl (.inr hdigit)
  · exact .inr (.inl hplus)
  · exact .inr (.inr hslash)
  · simp at h

end Base64

end DirectChat
