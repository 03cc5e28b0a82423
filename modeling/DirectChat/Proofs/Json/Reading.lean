import DirectChat.Json.Value
import Mathlib.Data.List.Basic
/-!
# Reading the members of a record

A reader takes a value apart again: strings, integers, truth values and lists by what they are
(`text?`, `int?`, `nat?`, `bool?`, `items?`), the members of a record by their keys (`field?`, `maybe?`), and
only when the record has no other keys and none twice (`only`). Of what was put together as a record, every reader
gives back what was put in (`field?_record`, `maybe?_record`, `only_record`, `items?_map`).
-/

namespace DirectChat

namespace Json

/-- The text of a string. -/
def text? : Json → Option String
  | .str t => t
  | _ => none

/-- The value of an integer. -/
def int? : Json → Option Int
  | .num (.int i) => some i
  | _ => none

/-- The value of an integer that is not negative. -/
def nat? (v : Json) : Option Nat := v.int?.bind Int.toNat?

/-- A truth value. -/
def bool? : Json → Option Bool
  | .bool b => some b
  | _ => none

variable {α : Type}

/-- The items of a list, each read in the same way. -/
def items? (read : Json → Option α) : Json → Option (List α)
  | .arr vs => vs.mapM read
  | _ => none

/-- The member of a key, which has to be there. -/
def field? (v : Json) (key : String) (read : Json → Option α) : Option α := (v.get? key).bind read

/-- The member of a key, if it is there. -/
def maybe? (v : Json) (key : String) (read : Json → Option α) : Option (Option α) := (v.get? key).mapM read

/-- Whether a value is a record with keys out of a list, in the order of the list and each at most once. -/
def hasKeys (keys : List String) : Json → Bool
  | .obj members => (members.map Prod.fst).isSublist (keys.map some)
  | _ => false

/-- What is read of a value that has no keys but the given ones. -/
def only (v : Json) (keys : List String) (read : Option α) : Option α := if v.hasKeys keys then read else none

@[simp] theorem text?_text (s : String) : (text s).text? = some s := rfl

@[simp] theorem int?_int (i : Int) : (int i).int? = some i := rfl

@[simp] theorem nat?_int (n : Nat) : (int n).nat? = some n := rfl

@[simp] theorem bool?_bool (b : Bool) : (bool b).bool? = some b := rfl

theorem mapM_map {read : Json → Option α} {write : α → Json} (h : ∀ a, read (write a) = some a) (x : Option α) :
    (x.map write).mapM read = some x := by
  cases x with
  | none => rfl
  | some a => rw [Option.map_some, Option.mapM_some, h a]; rfl

@[simp] theorem mapM_text (x : Option String) : (x.map text).mapM text? = some x := mapM_map text?_text x

@[simp] theorem mapM_int (x : Option Int) : (x.map int).mapM int? = some x := mapM_map int?_int x

/-- A list of things that are read back one by one is read back. -/
theorem items?_map {read : Json → Option α} {write : α → Json} (h : ∀ a, read (write a) = some a) (as : List α) :
    items? read (.arr (as.map write)) = some as := by
  rw [items?]
  induction as with
  | nil => rfl
  | cons a as ih => rw [List.map_cons, List.mapM_cons, h, ih]; rfl

/-! ## Records -/

variable (ms : List (String × Json)) (key : String) (read : Json → Option α)

theorem get?_record : (record ms).get? key = ms.lookup key := by
  induction ms with
  | nil => rfl
  | cons m ms ih =>
    obtain ⟨k, w⟩ := m
    by_cases h : k = key
    · subst h
      simp [record, get?]
    · have hne : (key == k) = false := by simpa using Ne.symm h
      simpa [record, get?, h, List.lookup_cons, hne] using ih

theorem field?_record : (record ms).field? key read = (ms.lookup key).bind read := by
  rw [field?, get?_record]

theorem maybe?_record : (record ms).maybe? key read = (ms.lookup key).mapM read := by
  rw [maybe?, get?_record]

section
variable {ms} {keys : List String}

theorem hasKeys_record (h : (ms.map Prod.fst).Sublist keys) : (record ms).hasKeys keys = true := by
  rw [record, hasKeys, List.isSublist_iff_sublist, List.map_map]
  have hsome := h.map some
  rwa [List.map_map] at hsome

theorem only_record (h : (ms.map Prod.fst).Sublist keys) (read : Option α) : (record ms).only keys read = read := by
  rw [only, if_pos (hasKeys_record h)]

end

theorem lookup_optional (k : String) (w : Option Json) :
    (optional k w).lookup key = if key = k then w else none := by
  cases w with
  | none => simp [optional]
  | some w =>
    by_cases h : key = k
    · simp [optional, h]
    · have hne : (key == k) = false := by simpa using h
      simp [optional, h, List.lookup_cons, hne]

theorem keys_optional (w : Option Json) : (optional key w).map Prod.fst = if w.isSome then [key] else [] := by
  cases w <;> rfl

theorem keys_optional_sublist (w : Option Json) : ((optional key w).map Prod.fst).Sublist [key] := by
  cases w <;> simp [optional]

end Json

end DirectChat
