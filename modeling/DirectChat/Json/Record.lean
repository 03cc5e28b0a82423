import DirectChat.Json.Parser
/-!
# Records in JSON

A record is written as an object of its fields, or as the array of its fields in order. Keys that
are no field are passed over; a field written twice is a fault. A fault is either `malformed`, the
text is not JSON, or `mismatched`, it is JSON of another shape; the one that stands earlier in the
text wins.
-/

namespace DirectChat

/-- Why a text is not a certain record. -/
inductive Fault
  /-- The text is not JSON. -/
  | malformed
  /-- The text is JSON, but not of this shape. -/
  | mismatched
deriving DecidableEq, Repr

namespace Json

/-- The fault of a value that stands where another kind is wanted. What has no value of its own,
an unpaired surrogate or a number too large for a double, is no JSON there. -/
def kindFault : Json → Fault
  | .str none => .malformed
  | .num n => if n.overflows then .malformed else .mismatched
  | _ => .mismatched

/-- The text of a string. -/
def asText : Json → Except Fault String
  | .str (some s) => .ok s
  | v => .error v.kindFault

/-- An integer of 64 bits. -/
def asInt64 : Json → Except Fault Int
  | .num (.int i) =>
    if isInt64 i then .ok i else .error (Json.num (.int i)).kindFault
  | v => .error v.kindFault

/-- A value or `null`. -/
def orNull {α : Type} (read : Json → Except Fault α) : Json → Except Fault (Option α)
  | .null => .ok none
  | v => (read v).map some

/-- A name out of a list: a string, or an object with that name as its one key and `null`. -/
def asName {α : Type} (names : List (String × α)) : Json → Except Fault α
  | .str (some s) => find s
  | .obj [(some s, .null)] => find s
  | v => .error v.kindFault
where
  find (s : String) : Except Fault α :=
    match names.lookup s with
    | some a => .ok a
    | none => .error .mismatched

end Json

/-- What it means that a field is not there. -/
inductive Absence
  /-- It has to be there. -/
  | required
  /-- It may be missing from an object, but keeps its place in an array. -/
  | nullable
  /-- It has a default. -/
  | defaulted
deriving DecidableEq, Repr

/-- A field of a record that is read into an `α`. -/
structure Field (α : Type) where
  key : String
  absence : Absence
  set : Json → α → Except Fault α

/-- The shape of a record: what it is before any field was read, and its fields in order. -/
structure Record (α : Type) where
  blank : α
  fields : List (Field α)

namespace Record

variable {α : Type}

/-- Sets the fields that the members name. `seen` holds the keys of the fields set so far. -/
def setMembers (r : Record α) :
    List (JsonText × Json) → List String → α → Except Fault (α × List String)
  | [], seen, a => .ok (a, seen)
  | (none, _) :: _, _, _ => .error .malformed
  | (some k, v) :: rest, seen, a =>
    match r.fields.find? (·.key == k) with
    | none => setMembers r rest seen a
    | some f =>
      if seen.contains k then .error .mismatched
      else match f.set v a with
        | .error e => .error e
        | .ok a => setMembers r rest (k :: seen) a

/-- Reads an object. -/
def ofMembers (r : Record α) (members : List (JsonText × Json)) : Except Fault α :=
  match r.setMembers members [] r.blank with
  | .error e => .error e
  | .ok (a, seen) =>
    if r.fields.all fun f => seen.contains f.key || f.absence != .required then .ok a
    else .error .mismatched

/-- Reads the array of the given fields. An item too many is no JSON at its place. -/
def setItems : List (Field α) → List Json → α → Except Fault α
  | [], [], a => .ok a
  | [], _ :: _, _ => .error .malformed
  | f :: fs, [], a =>
    if (f :: fs).all (·.absence == .defaulted) then .ok a else .error .mismatched
  | f :: fs, v :: vs, a =>
    match f.set v a with
    | .error e => .error e
    | .ok a => setItems fs vs a

/-- Reads a value as the record. -/
def ofJson (r : Record α) : Json → Except Fault α
  | .obj members => r.ofMembers members
  | .arr items => setItems r.fields items r.blank
  | v => .error v.kindFault

/-- The fault at a field whose value breaks off, of a record with plain fields only: a list or an
object is seen to be of the wrong kind at its first character. -/
def innerFault : Option Broken → Fault
  | none | some .scalar => .malformed
  | some (.arr ..) | some (.obj ..) => .mismatched

/-- The first fault of a text that breaks off, for a record with plain fields only. -/
def brokenFault (r : Record α) : Broken → Fault
  | .scalar => .malformed
  | .arr items inner =>
    match setItems (r.fields.take items.length) items r.blank with
    | .error e => e
    | .ok _ => if items.length < r.fields.length then innerFault inner else .malformed
  | .obj members key inner =>
    match r.setMembers members [] r.blank with
    | .error e => e
    | .ok (_, seen) =>
      match key with
      | some (some k) =>
        if seen.contains k then .mismatched
        else if r.fields.any (·.key == k) then innerFault inner
        else .malformed
      | _ => .malformed

/-- Reads a text as the record and nothing else. -/
def read? (r : Record α) (s : String) : Option α :=
  (Json.parse? s).bind fun v => (r.ofJson v).toOption

/-- Reads a text as the record and nothing else, or tells its first fault. -/
def decode (r : Record α) (s : String) : Except Fault α :=
  match Json.scan s with
  | .whole v => r.ofJson v
  | .trailing v =>
    match r.ofJson v with
    | .error e => .error e
    | .ok _ => .error .malformed
  | .broken b => .error (r.brokenFault b)

end Record

end DirectChat
