import DirectChat.Profile.Photo
import DirectChat.Profile.Uploads
import DirectChat.Proofs.Text.Base64
import DirectChat.Proofs.Text.Blank
import DirectChat.Proofs.Text.Path
/-!
# The file of a photo

Whatever the client calls a photo, the name under which it is stored is made of two numbers and a short extension
(`toList_photoFileName`). Whose the photo is and when it came in can be read of it (`ownerAndMoment?_photoFileName`), so
that two photos share a file only if one user sent them at one moment. The name stays within the directory: it is that of
a file right below it, which leads through no folder (`isPlainName_photoFileName`, `named?_photoFileName`).
-/

namespace DirectChat

/-! ## Extensions -/

/-- A small ASCII letter or a digit. -/
def IsSmall (c : Char) : Prop := ('a' ≤ c ∧ c ≤ 'z') ∨ ('0' ≤ c ∧ c ≤ '9')

theorem isSmall_iff {c : Char} : IsSmall c ↔ (97 ≤ c.toNat ∧ c.toNat ≤ 122) ∨ (48 ≤ c.toNat ∧ c.toNat ≤ 57) := by
  simp only [IsSmall, Char.le_def, UInt32.le_iff_toNat_le]
  rfl

theorem isSmall_toLower {c : Char} (h : c.isAlphanum = true) : IsSmall c.toLower := by
  rw [Base64.isAlphanum_iff] at h
  by_cases hupper : c.isUpper = true
  · rw [isUpper_iff] at hupper
    have hvalid : (c.toNat + 32).isValidChar := .inl (by omega)
    rw [isSmall_iff, Char.toLower_eq_of_isUpper (isUpper_iff.2 hupper), Char.toNat_ofNat, if_pos hvalid]
    omega
  · rw [Char.toLower_eq_of_not_isUpper hupper, isSmall_iff]
    rw [isUpper_iff] at hupper
    omega

/-- Whether an extension may be kept: one to eight ASCII letters and digits. -/
structure IsShort (ext : List Char) : Prop where
  pos : 1 ≤ ext.length
  le : ext.length ≤ 8
  plain : ∀ c ∈ ext, c.isAlphanum = true

/-- The extension that a client gives: the last component of the path is a name, and the extension stands behind the last
dot of it, with something in front of the dot. -/
def GivesExtension (clientName : Option String) (ext : List Char) : Prop :=
  IsShort ext ∧
    ∃ path stem, clientName = some path ∧ (pathParts path).getLast? = some (.named (stem ++ '.' :: ext)) ∧ stem ≠ []

theorem fileName?_eq_some_iff {path : String} {name : List Char} :
    fileName? path = some name ↔ (pathParts path).getLast? = some (.named name) := by
  rw [fileName?_eq, Option.bind_eq_some_iff]
  constructor
  · rintro ⟨part, hpart, hname⟩
    cases part with
    | named n =>
      obtain rfl : n = name := Option.some.inj hname
      exact hpart
    | root => cases hname
    | here => cases hname
    | up => cases hname
  · intro hlast
    exact ⟨_, hlast, rfl⟩

theorem givesExtension_iff {clientName : Option String} {ext : List Char} :
    GivesExtension clientName ext ↔ (clientName.bind fileName?).bind extension? = some ext ∧ IsShort ext := by
  rw [and_comm, GivesExtension]
  refine and_congr_right fun hshort => ?_
  have hdot : '.' ∉ ext := fun hmem => absurd (hshort.plain _ hmem) (by decide)
  simp only [Option.bind_eq_some_iff, fileName?_eq_some_iff, extension?_eq_some_iff]
  constructor
  · rintro ⟨path, stem, hpath, hlast, hstem⟩
    exact ⟨_, ⟨path, hpath, hlast⟩, hdot, stem, hstem, rfl⟩
  · rintro ⟨_, ⟨path, hpath, hlast⟩, -, stem, hstem, rfl⟩
    exact ⟨path, stem, hpath, hlast, hstem⟩

/-- A photo is stored without an extension, or under that which the client gives, in lower case. -/
theorem photoExtension_cases (clientName : Option String) :
    (photoExtension clientName).toList = [] ∧ (∀ ext, ¬ GivesExtension clientName ext) ∨
      ∃ ext, (photoExtension clientName).toList = '.' :: ext.map Char.toLower ∧ GivesExtension clientName ext := by
  simp only [givesExtension_iff]
  unfold photoExtension
  split
  · rename_i ext hext
    rw [hext]
    split
    · rename_i hkept
      exact .inr ⟨ext, String.toList_ofList, rfl, List.length_pos_iff.2 hkept.1, hkept.2.1,
        List.all_eq_true.1 hkept.2.2⟩
    · rename_i hdropped
      refine .inl ⟨rfl, ?_⟩
      rintro _ ⟨hsame, hpos, hle, hplain⟩
      obtain rfl := Option.some.inj hsame
      exact hdropped ⟨List.length_pos_iff.1 hpos, hle, List.all_eq_true.2 hplain⟩
  · rename_i hnone
    rw [hnone]
    exact .inl ⟨rfl, fun ext h => by cases h.1⟩

/-! ## What a name is made of -/

theorem toList_photoFileName (user : UserId) (nanos : Int) (clientName : Option String) :
    (photoFileName user nanos clientName).toList =
      (toString user).toList ++ '_' :: ((toString nanos).toList ++ (photoExtension clientName).toList) := by
  simp [photoFileName]

/-- Whether a character may stand in a written integer. -/
def isNumeral (c : Char) : Bool := c.isDigit || c == '-'

/-- An integer in front of something that does not belong to it is found. -/
theorem span_toString (i : Int) {rest : List Char} (hrest : ∀ c ∈ rest.head?, isNumeral c = false) :
    ((toString i).toList ++ rest).span isNumeral = ((toString i).toList, rest) := by
  refine span_append_of_stop (fun c hc => ?_) hrest
  rcases mem_toString hc with hdigit | rfl
  · rw [isNumeral, hdigit, Bool.true_or]
  · rfl

/-- The owner and the moment that the name of a photo tells. -/
def ownerAndMoment? (name : String) : Option (UserId × Int) := do
  let (owner, behind) := name.toList.span isNumeral
  let (moment, _) := behind.tail.span isNumeral
  return (← integer? owner, ← integer? moment)

/-- **The name of a photo tells its owner and its moment**, whatever the client called it. -/
theorem ownerAndMoment?_photoFileName (user : UserId) (nanos : Int) (clientName : Option String) :
    ownerAndMoment? (photoFileName user nanos clientName) = some (user, nanos) := by
  have hend : ∀ c ∈ (photoExtension clientName).toList.head?, isNumeral c = false := by
    intro c hc
    rcases photoExtension_cases clientName with ⟨hnone, -⟩ | ⟨ext, hext, -⟩
    · rw [hnone] at hc
      cases hc
    · rw [hext] at hc
      cases hc
      rfl
  simp only [ownerAndMoment?, toList_photoFileName]
  rw [span_toString user (by simp [isNumeral])]
  simp only [List.tail_cons]
  rw [span_toString nanos hend]
  simp only [integer?_toString]
  rfl

theorem photoFileName_inj {user user' : UserId} {nanos nanos' : Int} {clientName clientName' : Option String}
    (h : photoFileName user nanos clientName = photoFileName user' nanos' clientName') :
    user = user' ∧ nanos = nanos' := by
  have hread := congrArg ownerAndMoment? h
  rw [ownerAndMoment?_photoFileName, ownerAndMoment?_photoFileName] at hread
  exact Prod.mk.inj (Option.some.inj hread)

/-- An integer as it is written: digits, with a minus in front of them or not. -/
def IsDecimal (cs : List Char) : Prop :=
  ∃ digits, (cs = digits ∨ cs = '-' :: digits) ∧ digits ≠ [] ∧ ∀ d ∈ digits, '0' ≤ d ∧ d ≤ '9'

theorem isDecimal_toString (i : Int) : IsDecimal (toString i).toList := by
  have hdigits : ∀ n : Nat, ∀ d ∈ Nat.toDigits 10 n, '0' ≤ d ∧ d ≤ '9' := fun n d hd => by
    have hdigit := Char.isDigit_iff_toNat.1 (isDigit_toDigits hd)
    simp only [Char.le_def, UInt32.le_iff_toNat_le]
    exact hdigit
  rw [toList_toString]
  split
  · exact ⟨_, .inl rfl, Nat.toDigits_ne_nil, hdigits _⟩
  · exact ⟨_, .inr rfl, Nat.toDigits_ne_nil, hdigits _⟩

/-! ## Where it leads -/

theorem slash_not_mem_photoFileName (user : UserId) (nanos : Int) (clientName : Option String) :
    '/' ∉ (photoFileName user nanos clientName).toList := by
  have hnumber : ∀ i : Int, '/' ∉ (toString i).toList := fun i hslash =>
    (mem_toString hslash).elim (fun hdigit => absurd hdigit (by decide)) fun hminus => absurd hminus (by decide)
  have hextension : '/' ∉ (photoExtension clientName).toList := by
    rcases photoExtension_cases clientName with ⟨hnone, -⟩ | ⟨ext, hext, hshort, -⟩
    · rw [hnone]
      exact List.not_mem_nil
    · rw [hext, List.mem_cons, not_or]
      refine ⟨by decide, fun hslash => ?_⟩
      obtain ⟨c, hc, hlower⟩ := List.mem_map.1 hslash
      have hsmall := isSmall_toLower (hshort.plain c hc)
      rw [hlower, isSmall_iff] at hsmall
      exact absurd hsmall (by decide)
  rw [toList_photoFileName, List.mem_append, List.mem_cons, List.mem_append]
  rintro (huser | hbar | hnanos | hext)
  · exact hnumber user huser
  · exact absurd hbar (by decide)
  · exact hnumber nanos hnanos
  · exact hextension hext

theorem bar_mem_photoFileName (user : UserId) (nanos : Int) (clientName : Option String) :
    '_' ∈ (photoFileName user nanos clientName).toList := by
  rw [toList_photoFileName]
  simp

/-- A name with a bar in it and no slash is none of those that lead elsewhere. -/
theorem isPlainName_photoFileName (user : UserId) (nanos : Int) (clientName : Option String) :
    IsPlainName (photoFileName user nanos clientName).toList := by
  have hbar := bar_mem_photoFileName user nanos clientName
  have hslash := slash_not_mem_photoFileName user nanos clientName
  generalize (photoFileName user nanos clientName).toList = name at hbar hslash ⊢
  have hother : ∀ cs : List Char, '_' ∉ cs → name ≠ cs := fun cs hcs h => hcs (h ▸ hbar)
  exact ⟨hslash, hother [] (by decide), hother ['.'] (by decide), hother ['.', '.'] (by decide)⟩

namespace Uploads

/-- A plain name leads right below the upload directory. -/
theorem path_of_plain {name : String} (h : IsPlainName name.toList) : path name = [name] := by
  rw [path, splitOnChar_of_not_mem h.flat, List.filter_cons_of_pos (by simp [h.nonempty, h.not_here]), List.filter_nil,
    List.map_singleton, String.ofList_toList]

theorem named?_photoFileName (user : UserId) (nanos : Int) (clientName : Option String) :
    named? (photoFileName user nanos clientName) = some [photoFileName user nanos clientName] := by
  have hplain := isPlainName_photoFileName user nanos clientName
  generalize photoFileName user nanos clientName = name at hplain ⊢
  have hhead : name.toList.head? ≠ some '/' := fun h => hplain.flat (List.mem_of_head? h)
  have hup : ".." ≠ name := fun h => hplain.not_up (h ▸ rfl)
  rw [named?, path_of_plain hplain, if_neg (by simp [hhead, hup])]

/-- A file right below the directory is written, unless something stands in its way. -/
theorem write?_flat {u : Uploads} (hblocked : u.blocked = false) (hfolders : u.folders = []) (name : String)
    (bytes : ByteArray) : u.write? [name] bytes = some { u with files := u.files.insert [name] bytes } := by
  have hway : foldersOf [name] = [] := rfl
  rw [write?, hblocked, hfolders, hway, if_neg (by simp)]
  simp

end Uploads

/-- **The name of a photo is safe and identifies the upload.** Whatever the client calls the photo, it is stored under the
number of its owner, a bar, the moment, and then nothing, or a dot and one to eight small letters and digits: the
extension that the client gives, in lower case, if it is short and plain. Such a name is neither empty nor a way to
another directory and has no slash, so that put behind the upload directory, whatever that is called, it is the name of a
file right in it. Owner and moment can be read of it, and two photos that differ in one of them never go to one path. -/
theorem photo_name_identifies_upload (user : UserId) (nanos : Int) (clientName : Option String) :
    let name := photoFileName user nanos clientName
    (∃ owner moment extension, name.toList = owner ++ '_' :: (moment ++ extension) ∧
      IsDecimal owner ∧ IsDecimal moment ∧
      (extension = [] ∧ (∀ ext, ¬ GivesExtension clientName ext) ∨
        ∃ ext, extension = '.' :: ext.map Char.toLower ∧ GivesExtension clientName ext ∧
          1 ≤ (ext.map Char.toLower).length ∧ (ext.map Char.toLower).length ≤ 8 ∧
          ∀ c ∈ ext.map Char.toLower, IsSmall c)) ∧
    name ≠ "" ∧ name ≠ "." ∧ name ≠ ".." ∧ '/' ∉ name.toList ∧
    (∀ dir, pathParts (joinPath dir name) = pathParts dir ++ [.named name.toList]) ∧
    Uploads.named? name = some [name] ∧
    ownerAndMoment? name = some (user, nanos) ∧
    ∀ user' nanos' clientName' dir, (user, nanos) ≠ (user', nanos') →
      pathParts (joinPath dir name) ≠ pathParts (joinPath dir (photoFileName user' nanos' clientName')) := by
  intro name
  have hplain : IsPlainName name.toList := isPlainName_photoFileName user nanos clientName
  refine ⟨⟨_, _, _, toList_photoFileName user nanos clientName, isDecimal_toString user, isDecimal_toString nanos, ?_⟩,
    fun h => hplain.nonempty (h ▸ rfl), fun h => hplain.not_here (h ▸ rfl), fun h => hplain.not_up (h ▸ rfl), hplain.flat,
    fun dir => pathParts_joinPath dir hplain, Uploads.named?_photoFileName user nanos clientName,
    ownerAndMoment?_photoFileName user nanos clientName, ?_⟩
  · refine (photoExtension_cases clientName).imp_right ?_
    rintro ⟨ext, hext, hgives⟩
    refine ⟨ext, hext, hgives, ?_, ?_, fun c hc => ?_⟩
    · rw [List.length_map]
      exact hgives.1.pos
    · rw [List.length_map]
      exact hgives.1.le
    · obtain ⟨c', hc', rfl⟩ := List.mem_map.1 hc
      exact isSmall_toLower (hgives.1.plain c' hc')
  · intro user' nanos' clientName' dir hne hsame
    rw [pathParts_joinPath dir hplain, pathParts_joinPath dir (isPlainName_photoFileName user' nanos' clientName')]
      at hsame
    have hlast := PathPart.named.inj (List.singleton_inj.1 (List.append_cancel_left hsame))
    obtain ⟨rfl, rfl⟩ := photoFileName_inj (String.toList_inj.1 hlast)
    exact hne rfl

/-- A client gives a path with ways up, a hidden name and a capital extension. -/
theorem photo_name_identifies_upload_hidden :
    let name := photoFileName (-7) 42 (some "../x.php/..//.Me.JPG/.")
    name = "-7_42.jpg" ∧ ((-7, 42) : UserId × Int) ≠ (-7, 421) ∧
      pathParts (joinPath "./uploads//" name) = [.here, .named "uploads".toList, .named "-7_42.jpg".toList] ∧
      pathParts (joinPath "./uploads//" name) ≠ pathParts (joinPath "./uploads//" (photoFileName (-7) 421 none)) := by
  intro name
  have hname : name = "-7_42.jpg" := by cbv
  have hmoment : ((-7, 42) : UserId × Int) ≠ (-7, 421) := by decide
  obtain ⟨-, -, -, -, -, hright, -, -, happart⟩ :=
    photo_name_identifies_upload (-7) 42 (some "../x.php/..//.Me.JPG/.")
  have hdir : pathParts "./uploads//" = [.here, .named "uploads".toList] := by cbv
  refine ⟨hname, hmoment, ?_, happart (-7) 421 none "./uploads//" hmoment⟩
  have hparts := hright "./uploads//"
  rwa [hdir, show photoFileName (-7) 42 (some "../x.php/..//.Me.JPG/.") = "-7_42.jpg" from hname] at hparts

end DirectChat
