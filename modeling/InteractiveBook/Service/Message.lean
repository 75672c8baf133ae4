import InteractiveBook.Error
import InteractiveBook.Json.Value

/-!
# Requests and responses

What the service is sent and what it answers, as plain data. A request carries its body as bytes and,
if the body is a form, also the parts of the form.
-/

namespace InteractiveBook.Service

/-- A part of a form. -/
structure Part where
  /-- The name of the part. -/
  name : String
  /-- The name of the file that it holds, if it was given one. -/
  fileName : Option String := none
  /-- What it holds. -/
  data : ByteArray

/-- A request. -/
structure Request where
  /-- The method, in capital letters. -/
  method : String
  /-- The path, without a query. -/
  path : String
  /-- The parts of the body, if it is a form. -/
  form : Option (List Part) := none
  /-- The bytes of the body. -/
  body : ByteArray := .empty

/-- What a response carries. -/
inductive Payload where
  /-- Nothing. -/
  | empty
  /-- A text for people. -/
  | text (message : String)
  /-- A value. -/
  | json (value : Json)
  /-- A package, with the name under which it is to be saved. -/
  | package (bytes : ByteArray) (fileName : String)

namespace Payload

/-- The type of the content, if there is any. -/
def contentType : Payload → Option String
  | empty => none
  | text _ => some "text/plain; charset=utf-8"
  | json _ => some "application/json"
  | package _ _ => some "application/zip"

/-- What the receiver is asked to do with the content. -/
def disposition : Payload → Option String
  | package _ fileName => some ("attachment; filename=\"" ++ fileName ++ "\"")
  | _ => none

end Payload

/-- A response. -/
structure Response where
  /-- The status. -/
  status : Nat
  /-- What it carries. -/
  payload : Payload := .empty
  /-- Only what is said about the content is sent, not the content. -/
  headOnly : Bool := false

/-- Why a request is refused. -/
inductive Refusal where
  /-- The body should have been a form. -/
  | noForm
  /-- The form has no source. -/
  | noSource
  /-- The source is no text. -/
  | sourceNotText
  /-- There is a template neither in the body nor by default. -/
  | noTemplate
  /-- The body that should have been a template is empty. -/
  | emptyTemplate
  /-- The source or the template cannot be used, or the package not be made. -/
  | failed (cause : BookError)
  deriving DecidableEq, Repr

/-- The status for a failure: what was sent is at fault, or the service is. -/
def failureStatus : BookError → Nat
  | .noChaptersFound => 422
  | .template _ => 422
  | .package _ => 500
  | .io _ => 500

namespace Refusal

/-- The status for a refusal. -/
def status : Refusal → Nat
  | failed cause => failureStatus cause
  | _ => 400

/-- The wording of a refusal. -/
def message : Refusal → String
  | noForm => "Invalid `boundary` for `multipart/form-data` request"
  | noSource => "No source provided"
  | sourceNotText => "Source must be UTF-8 text"
  | noTemplate => "No template provided and no default template configured"
  | emptyTemplate => "No template provided"
  | failed cause => cause.message

/-- The response to a request that is refused. -/
def response (r : Refusal) : Response := { status := r.status, payload := .text r.message }

end Refusal

end InteractiveBook.Service
