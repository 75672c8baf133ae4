import InteractiveBook.Compiler
import InteractiveBook.Service.Message

/-!
# Resources of the service

The service compiles sources, reports on templates and says that it is well. Each resource has one
path and one method. A source is compiled against the template that comes with it, or else against
the default template, if there is one.
-/

namespace InteractiveBook.Service

open Content Package

/-- The version of the service. -/
def serviceVersion : String := "0.1.0"

/-- How the service is set up. -/
structure Settings where
  /-- The template for requests that bring none. -/
  defaultTemplate : Option Template := none
  /-- How books are compiled. -/
  options : CompileOptions := {}

/-- What can be asked of the service. -/
inductive Resource where
  /-- Whether it is well. -/
  | health
  /-- The package of a source. -/
  | compile
  /-- A report on a template. -/
  | inspect
  /-- A report on the default template. -/
  | defaultTemplate
  deriving DecidableEq, Repr

namespace Resource

/-- The path of a resource. -/
def path : Resource → String
  | health => "/health"
  | compile => "/api/v1/compile"
  | inspect => "/api/v1/templates/inspect"
  | defaultTemplate => "/api/v1/templates/default"

/-- All resources. -/
def all : List Resource := [health, compile, inspect, defaultTemplate]

/-- The resource at a path. -/
def ofPath? (path : String) : Option Resource := all.find? fun r => r.path = path

/-- The method of a resource. -/
def method : Resource → String
  | health => "GET"
  | compile => "POST"
  | inspect => "POST"
  | defaultTemplate => "GET"

end Resource

/-- The last part of a name in a form. -/
def lastPart? (form : List Part) (name : String) : Option Part :=
  form.reverse.find? fun p => p.name = name

/-- The longest name under which a package is to be saved. -/
def longestFileName : Nat := 100

/-- A name without the characters that mean something in a header. -/
def safeFileName (name : String) : String :=
  String.ofList (Text.trimChars ((name.toList.take longestFileName).filter fun c =>
    Text.isAlphanumeric c || c == ' ' || c == '-' || c == '_' || c == '.'))

/-- The name under which the package of a source is to be saved. -/
def savedName (source : Part) : String :=
  safeFileName (packageName (source.fileName.getD "book.md"))

/-- The template for a form: the one in its last part for templates, or else the default one. -/
def templateFor (s : Settings) (form : List Part) : Except Refusal Template :=
  match lastPart? form "template" with
  | some p => (Template.ofBytes p.data).mapError fun fault => .failed (.template fault)
  | none => match s.defaultTemplate with
    | some t => .ok t
    | none => .error .noTemplate

/-- The package of the source in a form, with the name under which it is to be saved. -/
def compileForm (s : Settings) (lanes : IdLanes) (form : List Part) :
    Except Refusal (ByteArray × String) := do
  match lastPart? form "source" with
  | none => throw .noSource
  | some part => match Text.decodeUtf8 part.data with
    | .error _ => throw .sourceNotText
    | .ok source => do
      let t ← templateFor s form
      let bytes ← ((Compiler.ofTemplate t s.options).compile source lanes).mapError .failed
      return (bytes, savedName part)

/-- The report on a template. -/
def inspectBody (body : ByteArray) : Except Refusal TemplateReport :=
  if body.size = 0 then .error .emptyTemplate
  else match Template.ofBytes body with
    | .error fault => .error (.failed (.template fault))
    | .ok t => .ok t.report

/-- What the service says of itself when it is well. -/
def healthJson : Json := .object [("status", .string "ok"), ("version", .string serviceVersion)]

/-- The response of a resource. -/
def Resource.respond (s : Settings) (lanes : IdLanes) (r : Request) : Resource → Response
  | health => { status := 200, payload := .json healthJson }
  | compile => match r.form with
    | none => Refusal.response .noForm
    | some form => match compileForm s lanes form with
      | .error refusal => refusal.response
      | .ok (bytes, name) => { status := 200, payload := .package bytes name }
  | inspect => match inspectBody r.body with
    | .error refusal => refusal.response
    | .ok report => { status := 200, payload := .json report.json }
  | defaultTemplate => match s.defaultTemplate with
    | none => { status := 404 }
    | some t => { status := 200, payload := .json t.report.json }

/-- The response to a request. Every path may be asked for its options, and where a resource can be
got, so can its head alone. -/
def respond (s : Settings) (lanes : IdLanes) (r : Request) : Response :=
  if r.method = "OPTIONS" then { status := 200 }
  else match Resource.ofPath? r.path with
    | none => { status := 404 }
    | some resource =>
      if r.method = resource.method then resource.respond s lanes r
      else if r.method = "HEAD" ∧ resource.method = "GET" then
        { resource.respond s lanes r with headOnly := true }
      else { status := 405 }

end InteractiveBook.Service
