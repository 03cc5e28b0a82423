import DirectChat.Table
/-!
# The request limiter

Requests that guess at passwords are limited: an address that has used up its ten requests is turned
away. Used requests come back with real time, which does not pass here.
-/

namespace DirectChat

/-- How many requests each address has used. -/
abbrev Limiter := Table String Nat

namespace Limiter

/-- How many requests an address may use. -/
def burst : Nat := 10

/-- Takes one request of an address, if it has one left. -/
def grant? (l : Limiter) (peer : String) : Option Limiter :=
  let used := (l.get? peer).getD 0
  if used < burst then some (l.insert peer (used + 1)) else none

end Limiter

end DirectChat
