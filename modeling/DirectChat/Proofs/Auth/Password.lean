import DirectChat.Auth.Password
import DirectChat.Proofs.Text.Base64
import DirectChat.Proofs.Text.Split
import Mathlib.Tactic.Common
/-!
# A password verifies against its own hash

The text under which a password is kept is read back as what it was made from (`PasswordHash.parse?_render`): its fields
are free of the signs between them, and a hash has the length that is read off the text (`length_argon2`). So the
password that it was made from is verified (`verifyPassword_hashPassword`). That no other password is verified is a
property of the hash function, and not proved.
-/

namespace DirectChat

/-! ## The length of a hash -/

@[simp]
theorem length_littleEndian (count n : Nat) : (littleEndian count n).length = count := by
  simp [littleEndian]

namespace Blake2b

@[simp]
theorem size_mix (v : Array UInt64) (p : Nat × Nat × Nat × Nat) (x y : UInt64) : (mix v p x y).size = v.size := by
  simp [mix]

theorem size_round (block : Array UInt64) (order : List Nat) (ps : List (Nat × Nat × Nat × Nat)) (v : Array UInt64) :
    (round block order ps v).size = v.size := by
  fun_induction round block order ps v with
  | case1 v x y order p ps ih => rw [ih, size_mix]
  | case2 => rfl

theorem length_compress {h : List UInt64} (hh : h.length = 8) (block : List UInt64) (count : Nat) (last : Bool) :
    (compress h block count last).length = 8 := by
  have hrounds : ∀ (orders : List (List Nat)) (v : Array UInt64),
      (orders.foldl (fun v order => round block.toArray order places v) v).size = v.size := by
    intro orders
    induction orders with
    | nil => exact fun _ => rfl
    | cons order orders ih => exact fun v => (ih _).trans (size_round ..)
  simp [compress, hrounds, hh, initial]

theorem length_absorb (fuel : Nat) {h : List UInt64} (hh : h.length = 8) (message : List UInt8) (count : Nat) :
    (absorb fuel h message count).length = 8 := by
  induction fuel generalizing h message count with
  | zero => exact hh
  | succ fuel ih =>
    simp only [absorb]
    split_ifs
    · exact length_compress hh ..
    · exact ih (length_compress hh ..) ..

end Blake2b

theorem length_blake2b (size : Nat) (message : List UInt8) : (blake2b size message).length = min size 64 := by
  have hwords : ∀ ws : List UInt64, (ws.flatMap fun w => littleEndian 8 w.toNat).length = 8 * ws.length := by
    intro ws
    induction ws with
    | nil => rfl
    | cons w ws ih => simp [ih]; omega
  rw [blake2b, List.length_take, hwords, Blake2b.length_absorb _ (by simp [Blake2b.initial])]

theorem length_argon2 {p : Argon2Params} (h : p.size ≤ 64) (password salt : List UInt8) :
    (argon2 p password salt).length = p.size := by
  simp only [argon2, Argon2.longHash, if_pos h, length_blake2b]
  omega

/-! ## The fields of the text -/

namespace PasswordHash

theorem dollar_not_mem_encode (bytes : List UInt8) : '$' ∉ Base64.standard.encode bytes := fun h =>
  absurd (Base64.isSome_value?_of_encode Base64.isAlphabet_standard h) (by decide)

/-- The text of a hash with the parameters of a new one is read back. -/
theorem parse?_render {salt hash : List UInt8} (hsalt : salt.length = 16) (hhash : hash.length = defaults.size) :
    parse? (render ⟨defaults, salt, hash⟩) = some ⟨defaults, salt, hash⟩ := by
  have hfront : front defaults = "$argon2id$v=19$m=19456,t=2,p=1" := by decide +kernel
  have hfields : splitOnChar '$' (render ⟨defaults, salt, hash⟩).toList =
      [[], "argon2id".toList, "v=19".toList, "m=19456,t=2,p=1".toList, Base64.standard.encode salt,
        Base64.standard.encode hash] := by
    have htext : (render ⟨defaults, salt, hash⟩).toList = [] ++ '$' :: ("argon2id".toList ++ '$' ::
        ("v=19".toList ++ '$' :: ("m=19456,t=2,p=1".toList ++ '$' ::
          (Base64.standard.encode salt ++ '$' :: Base64.standard.encode hash)))) := by
      simp [render, hfront]
    rw [htext, splitOnChar_append (by simp), splitOnChar_append (by decide), splitOnChar_append (by decide),
      splitOnChar_append (by decide), splitOnChar_append (dollar_not_mem_encode salt),
      splitOnChar_of_not_mem (dollar_not_mem_encode hash)]
  have hparams : setParameters { defaults with kind := .id, version := .v19 } (splitOnChar ',' "m=19456,t=2,p=1".toList) =
      some defaults := by decide +kernel
  have hlookup : kinds.lookup (String.ofList "argon2id".toList) = some .id := by decide +kernel
  have hsaltText : (Base64.standard.encode salt).length = 22 := by rw [Base64.length_encode, hsalt]
  have hhash : hash.length = 32 := hhash
  simp only [parse?, hfields, hlookup, Option.bind_eq_bind, Option.bind_some]
  have hversion : version? ["v=19".toList, "m=19456,t=2,p=1".toList, Base64.standard.encode salt,
      Base64.standard.encode hash] = some (.v19, ["m=19456,t=2,p=1".toList, Base64.standard.encode salt,
        Base64.standard.encode hash]) := rfl
  have hparameters : ∀ rest, parameters? { defaults with kind := .id, version := .v19 } ("m=19456,t=2,p=1".toList :: rest)
      = some (defaults, rest) := by
    intro rest
    simp only [parameters?, hparams]
    rfl
  simp only [hversion, hparameters, Option.bind_some, Base64.decode_encode Base64.isAlphabet_standard, hsaltText, hsalt,
    hhash]
  rfl

end PasswordHash

/-- **A password verifies against what was made from it**, whatever the salt. -/
theorem verifyPassword_hashPassword {salt : List UInt8} (hsalt : salt.length = 16) (password : String) :
    verifyPassword password (hashPassword salt password) = true := by
  have hhash : (argon2 PasswordHash.defaults (passwordBytes password) salt).length = PasswordHash.defaults.size :=
    length_argon2 (by decide) ..
  have husable : PasswordHash.isUsable PasswordHash.defaults = true := by decide
  simp only [verifyPassword, hashPassword, PasswordHash.parse?_render hsalt hhash, husable, Bool.true_and, beq_self_eq_true]

end DirectChat
