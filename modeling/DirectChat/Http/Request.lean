import DirectChat.Http.Header
import DirectChat.Json.Value
/-!
# Requests and responses
-/

namespace DirectChat

/-- A request. -/
structure Request where
  method : String
  /-- The path and, behind a question mark, the query. -/
  target : String
  headers : Headers
  body : ByteArray
  /-- The address that the request comes from. -/
  peer : Option String

namespace Request

/-- The path of a request. -/
def path (r : Request) : List Char := r.target.toList.takeWhile (· ≠ '?')

/-- The query of a request, empty if there is none. -/
def query (r : Request) : List Char := (r.target.toList.dropWhile (· ≠ '?')).drop 1

end Request

/-- What a response carries. -/
inductive Payload
  | json (value : Json)
  | text (s : String)
  /-- The bytes of a file under its name. -/
  | file (name : String) (bytes : ByteArray)

/-- A response. -/
structure Response where
  status : Nat
  payload : Payload

namespace Response

/-- A response without a body. -/
def empty (status : Nat) : Response := ⟨status, .text ""⟩

/-- A response with a text. -/
def text (status : Nat) (s : String) : Response := ⟨status, .text s⟩

/-- A response with a JSON value. -/
def json (status : Nat) (v : Json) : Response := ⟨status, .json v⟩

/-- The response to a request that asks for the head only. -/
def withoutBody (r : Response) : Response :=
  match r.payload with
  | .json _ => { r with payload := .json .null }
  | .text _ => { r with payload := .text "" }
  | .file name _ => { r with payload := .file name ByteArray.empty }

instance : Inhabited Response := ⟨empty 200⟩

end Response

end DirectChat
