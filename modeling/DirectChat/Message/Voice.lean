/-!
# Addresses of voice notes

The configured public address of the server comes first, then the host that the client asked for,
then an address relative to the host.
-/

namespace DirectChat

/-- The address of a voice note, none for an empty file name. -/
def voiceUrl (base host : Option String) (file : String) : Option String :=
  if file = "" then none
  else
    let site := match base, host with
      | some base, _ => base
      | none, some host => if host = "" then "" else "http://" ++ host
      | none, none => ""
    some (site ++ "/uploads/voices/" ++ file)

end DirectChat
