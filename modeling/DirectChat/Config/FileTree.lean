import DirectChat.Text.Split
/-!
# Files below a directory

A file is named by the way to it from the top. A relative path is looked up in a directory, then in
each directory above it.
-/

namespace DirectChat

/-- The files below a directory, and directories that are there without files. Both are named by
the names on the way to them. -/
structure FileTree where
  files : List (List String × String)
  directories : List (List String)
deriving Repr, Inhabited

namespace FileTree

/-- The names on the way that a path says. -/
def names (path : String) : List String := (splitOnChar '/' path.toList).map String.ofList

/-- Whether there is a directory at the end of a way. -/
def isDirectory (t : FileTree) (way : List String) : Bool :=
  way.isEmpty || t.files.any (fun f => way.isPrefixOf f.1 && way ≠ f.1)
    || t.directories.any way.isPrefixOf

/-- The way that further names lead from a directory. A point stays there, two points lead one
directory up. -/
def walk? (t : FileTree) : List String → List String → Option (List String)
  | here, [] => some here
  | here, n :: ns =>
    if !t.isDirectory here then none
    else if n = "" ∨ n = "." then t.walk? here ns
    else if n = ".." then if here = [] then none else t.walk? here.dropLast ns
    else t.walk? (here ++ [n]) ns

/-- The text of the file at a path from a directory. -/
def fileAt? (t : FileTree) (here : List String) (path : String) : Option String :=
  (t.walk? here (names path)).bind fun way => List.lookup way t.files

/-- A directory and the directories above it, the nearest first. -/
def upwards (here : List String) : List (List String) :=
  (List.range (here.length + 1)).map fun n => here.take (here.length - n)

/-- The text of the file that a path names in the nearest directory where there is one. A path from
the root of all files leads out of the tree. -/
def find? (t : FileTree) (here : List String) (path : String) : Option String :=
  if path.startsWith "/" then none
  else (upwards here).findSome? fun d => t.fileAt? d path

end FileTree

end DirectChat
