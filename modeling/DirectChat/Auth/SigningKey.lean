/-!
# The signing key

The key that signs tokens is kept in a file. A file of the right size is used as it is; in its
place, or if there is none, a fresh key is written.
-/

namespace DirectChat

/-- The number of bytes of a signing key. -/
def signingKeySize : Nat := 32

/-- The key to use, given what the file holds and a fresh key; it is also what the file holds
afterwards. -/
def signingKey (file : Option (List UInt8)) (fresh : List UInt8) : List UInt8 :=
  match file with
  | some bytes => if bytes.length = signingKeySize then bytes else fresh
  | none => fresh

end DirectChat
