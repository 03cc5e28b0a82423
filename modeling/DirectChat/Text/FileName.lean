import DirectChat.Text.Split
/-!
# File names in paths

A path is split at its slashes. Slashes at the end, empty components and components that are a
single dot (other than the first) count for nothing; what remains last is the file name, unless it
is `..`. The extension is what follows the last dot of the file name, if something precedes that
dot.
-/

namespace DirectChat

/-- The last component that names something. -/
def lastName? (parts : List (List Char)) : Option (List Char) :=
  (parts.reverse.find? fun p => p ≠ [] ∧ p ≠ ['.']).filter (· ≠ ['.', '.'])

/-- The file name of a path. -/
def fileName? (path : String) : Option (List Char) := lastName? (splitOnChar '/' path.toList)

/-- The extension of a file name, without the dot. -/
def extension? (name : List Char) : Option (List Char) :=
  let back := name.reverse
  let ext := back.takeWhile (· ≠ '.')
  match back.dropWhile (· ≠ '.') with
  | _ :: _ :: _ => some ext.reverse
  | _ => none

end DirectChat
