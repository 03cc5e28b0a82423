import DirectChat.Table
import DirectChat.Text.Split
/-!
# The upload directory

Files by path, and the folders that were made for them; a folder stays when its files go. Something
else may stand in the place of the whole directory; then nothing can be written.
-/

namespace DirectChat

/-- A path below the upload directory. -/
abbrev UploadPath := List String

/-- The upload directory. -/
structure Uploads where
  files : Table UploadPath ByteArray
  folders : List UploadPath
  blocked : Bool

namespace Uploads

/-- The empty directory. -/
def empty : Uploads := ⟨.empty, [], false⟩

instance : Inhabited Uploads := ⟨empty⟩

/-- The path that a text gives. -/
def path (text : String) : UploadPath :=
  ((splitOnChar '/' text.toList).filter fun p => p ≠ [] ∧ p ≠ ['.']).map String.ofList

/-- The path that a stored name leads to, unless it leads out of the directory. -/
def named? (name : String) : Option UploadPath :=
  if name.toList.head? = some '/' ∨ ".." ∈ path name then none else some (path name)

/-- The folders that a path leads through. -/
def foldersOf (p : UploadPath) : List UploadPath :=
  ((List.range p.length).map fun n => p.take n).filter (· ≠ [])

/-- Writes a file. The folders on the way to it are made. -/
def write? (u : Uploads) (p : UploadPath) (bytes : ByteArray) : Option Uploads :=
  if u.blocked ∨ p = [] ∨ p ∈ u.folders ∨ (foldersOf p).any u.files.contains then none
  else some { u with
    files := u.files.insert p bytes
    folders := u.folders ++ (foldersOf p).filter (· ∉ u.folders) }

/-- Removes a file, if it is there. -/
def remove (u : Uploads) (p : UploadPath) : Uploads := { u with files := u.files.erase p }

/-- Removes the file of a stored name, if it is there. -/
def removeNamed (u : Uploads) (name : String) : Uploads :=
  match named? name with
  | some p => u.remove p
  | none => u

/-- Puts something else in the place of the directory. -/
def block (_ : Uploads) : Uploads := ⟨.empty, [], true⟩

/-- The bytes of a file. -/
def read? (u : Uploads) (p : UploadPath) : Option ByteArray := u.files.get? p

/-- Whether a path is that of a folder. -/
def isFolder (u : Uploads) (p : UploadPath) : Bool := u.folders.contains p

/-- The names directly below the directory, each with its size; a folder has none. -/
def listing (u : Uploads) : List (String × Nat) :=
  let files := u.files.entries.filterMap fun (k, bytes) =>
    match k with
    | [name] => some (name, bytes.size)
    | _ => none
  let folders := u.folders.filterMap fun k =>
    match k with
    | [name] => some (name, 0)
    | _ => none
  (files ++ folders).mergeSort fun a b => !(b.1 < a.1)

end Uploads

end DirectChat
