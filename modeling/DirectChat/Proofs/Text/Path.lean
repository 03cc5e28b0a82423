import DirectChat.Proofs.Text.Integer
import DirectChat.Proofs.Text.Split
import DirectChat.Text.FileName
import Mathlib.Data.List.TakeWhile
/-!
# Paths

A path is a row of components (`pathParts`), and a relative path is put behind a directory with a slash between them,
if there is none yet (`joinPath`). A plain name then leads to a file right in the directory, whatever the directory is
called (`pathParts_joinPath`). The file name of a path is its last component, if that is a name (`fileName?_eq`), and the
extension is what stands behind the last dot of a name that does not begin with it (`extension?_eq_some_iff`).
-/

namespace DirectChat

/-- A component of a path. -/
inductive PathPart
  /-- The top of all files, where an absolute path begins. -/
  | root
  /-- The directory itself, where a path may begin. -/
  | here
  /-- One directory up. -/
  | up
  | named (name : List Char)
deriving DecidableEq

namespace PathPart

/-- The name that a component is. -/
def name? : PathPart → Option (List Char)
  | named name => some name
  | _ => none

/-- The component that a piece between slashes is. An empty piece and a single dot lead nowhere. -/
def ofPiece? (piece : List Char) : Option PathPart :=
  if piece = [] ∨ piece = ['.'] then none
  else if piece = ['.', '.'] then some up
  else some (named piece)

end PathPart

/-- Where a path begins, if it says so. -/
def pathStart (path : List Char) : List PathPart :=
  if path.head? = some '/' then [.root]
  else if (splitOnChar '/' path).head? = some ['.'] then [.here]
  else []

/-- The components of a path. -/
def pathParts (path : String) : List PathPart :=
  pathStart path.toList ++ (splitOnChar '/' path.toList).filterMap PathPart.ofPiece?

/-- A path taken from a directory. An absolute path stays as it is. -/
def joinPath (dir path : String) : String :=
  if path.toList.head? = some '/' then path
  else if dir = "" ∨ dir.toList.getLast? = some '/' then dir ++ path
  else dir ++ "/" ++ path

/-- A name that is no way to another directory. -/
structure IsPlainName (name : List Char) : Prop where
  flat : '/' ∉ name
  nonempty : name ≠ []
  not_here : name ≠ ['.']
  not_up : name ≠ ['.', '.']

theorem IsPlainName.ofPiece? {name : List Char} (h : IsPlainName name) : PathPart.ofPiece? name = some (.named name) := by
  simp [PathPart.ofPiece?, h.nonempty, h.not_here, h.not_up]

/-- Where a path begins is not changed by what comes behind a slash. -/
theorem pathStart_append (front rest rest' : List Char) :
    pathStart (front ++ '/' :: rest) = pathStart (front ++ '/' :: rest') := by
  obtain ⟨piece, pieces, hpieces⟩ := List.exists_cons_of_ne_nil (splitOnChar_ne_nil '/' front)
  simp [pathStart, splitOnChar_append_sep, hpieces, List.head?_append]

theorem pathStart_append_of_ne_nil {front : List Char} (h : front ≠ []) (rest : List Char) :
    pathStart (front ++ '/' :: rest) = pathStart front := by
  obtain ⟨c, cs, rfl⟩ := List.exists_cons_of_ne_nil h
  obtain ⟨piece, pieces, hpieces⟩ := List.exists_cons_of_ne_nil (splitOnChar_ne_nil '/' (c :: cs))
  rw [pathStart, pathStart, splitOnChar_append_sep, hpieces]
  rfl

/-- **A plain name leads right into the directory**, whatever that is called. -/
theorem pathParts_joinPath (dir : String) {name : String} (h : IsPlainName name.toList) :
    pathParts (joinPath dir name) = pathParts dir ++ [.named name.toList] := by
  have hpiece : [name.toList].filterMap PathPart.ofPiece? = [.named name.toList] := by
    rw [List.filterMap_cons_some h.ofPiece?, List.filterMap_nil]
  have hrelative : ¬ name.toList.head? = some '/' := fun hhead => h.flat (List.mem_of_head? hhead)
  unfold joinPath pathParts
  rw [if_neg hrelative]
  by_cases hempty : dir = ""
  · subst hempty
    have hstart : pathStart name.toList = [] := by
      rw [pathStart, if_neg hrelative, splitOnChar_of_not_mem h.flat, if_neg (by simpa using h.not_here)]
    rw [if_pos (.inl rfl), String.empty_append, hstart, splitOnChar_of_not_mem h.flat, hpiece]
    rfl
  · by_cases hslash : dir.toList.getLast? = some '/'
    · -- The slash at the end of the directory is the one in front of the name.
      obtain ⟨front, hfront⟩ := List.getLast?_eq_some_iff.1 hslash
      rw [if_pos (.inr hslash), String.toList_append, hfront, List.append_assoc, List.singleton_append,
        pathStart_append front name.toList [], splitOnChar_append_sep, splitOnChar_append_sep,
        splitOnChar_of_not_mem h.flat, List.filterMap_append, hpiece, List.filterMap_append]
      simp [splitOnChar, PathPart.ofPiece?]
    · have hne : dir.toList ≠ [] := fun hnil => hempty (String.toList_eq_nil_iff.1 hnil)
      have htext : (dir ++ "/" ++ name).toList = dir.toList ++ '/' :: name.toList := by simp
      rw [if_neg (by simp [hempty, hslash]), htext, pathStart_append_of_ne_nil hne, splitOnChar_append_sep,
        splitOnChar_of_not_mem h.flat, List.filterMap_append, hpiece, List.append_assoc]

/-! ## File names and extensions -/

theorem name?_pathStart (path : List Char) : (pathStart path).getLast?.bind PathPart.name? = none := by
  unfold pathStart
  split
  · rfl
  · split <;> rfl

/-- The first of some pieces that is a component, if that is a name. -/
theorem name?_findSome? (pieces : List (List Char)) : (pieces.findSome? PathPart.ofPiece?).bind PathPart.name? =
    (pieces.find? fun p => p ≠ [] ∧ p ≠ ['.']).filter (· ≠ ['.', '.']) := by
  induction pieces with
  | nil => rfl
  | cons piece pieces ih =>
    by_cases hskip : piece = [] ∨ piece = ['.']
    · have hpiece : PathPart.ofPiece? piece = none := if_pos hskip
      rw [List.findSome?_cons, hpiece, List.find?_cons_of_neg (by simpa using hskip.resolve_left), ih]
    · rw [not_or] at hskip
      rw [List.find?_cons_of_pos (by simpa using hskip), List.findSome?_cons]
      by_cases hup : piece = ['.', '.']
      · subst hup
        rfl
      · simp [PathPart.ofPiece?, hskip, hup, PathPart.name?, Option.filter]

/-- The file name of a path is its last component, if that is a name. -/
theorem fileName?_eq (path : String) : fileName? path = (pathParts path).getLast?.bind PathPart.name? := by
  have hlast : ((splitOnChar '/' path.toList).filterMap PathPart.ofPiece?).getLast? =
      (splitOnChar '/' path.toList).reverse.findSome? PathPart.ofPiece? := by
    rw [List.getLast?_eq_head?_reverse, ← List.filterMap_reverse, List.head?_filterMap]
  rw [pathParts, List.getLast?_append, hlast, fileName?, lastName?, ← name?_findSome?]
  cases (splitOnChar '/' path.toList).reverse.findSome? PathPart.ofPiece? with
  | none => exact (name?_pathStart _).symm
  | some part => rfl

/-- The extension of a name stands behind its last dot, with something in front of the dot. -/
theorem extension?_eq_some_iff {name ext : List Char} :
    extension? name = some ext ↔ '.' ∉ ext ∧ ∃ stem, stem ≠ [] ∧ name = stem ++ '.' :: ext := by
  constructor
  · intro h
    have hparts := List.takeWhile_append_dropWhile (p := fun c => decide (c ≠ '.')) (l := name.reverse)
    have hhead := List.head?_dropWhile_not (fun c => decide (c ≠ '.')) name.reverse
    simp only [extension?] at h
    split at h
    · rename_i dot c stem hback
      obtain rfl := Option.some.inj h
      rw [hback] at hparts hhead
      obtain rfl : dot = '.' := by simpa using hhead
      refine ⟨fun hmem => ?_, (c :: stem).reverse, by simp, ?_⟩
      · simpa using List.mem_takeWhile_imp (List.mem_reverse.1 hmem)
      · have hname := congrArg List.reverse hparts
        rw [List.reverse_append, List.reverse_reverse, List.reverse_cons, List.append_assoc, List.singleton_append]
          at hname
        exact hname.symm
    · cases h
  · rintro ⟨hdot, stem, hstem, rfl⟩
    have hback : ((stem ++ '.' :: ext).reverse).span (· ≠ '.') = (ext.reverse, '.' :: stem.reverse) := by
      rw [List.reverse_append, List.reverse_cons, List.append_assoc, List.singleton_append]
      refine span_append_of_stop (fun c hc => ?_) (by simp)
      rw [decide_eq_true_eq]
      rintro rfl
      exact hdot (List.mem_reverse.1 hc)
    rw [List.span_eq_takeWhile_dropWhile, Prod.mk.injEq] at hback
    obtain ⟨c, front, hfront⟩ := List.exists_cons_of_ne_nil (List.reverse_ne_nil_iff.2 hstem)
    simp only [extension?, hback.1, hback.2, hfront, List.reverse_reverse]

end DirectChat
