import InteractiveBook.Content.Build
import InteractiveBook.Markdown.Html
import InteractiveBook.Package.Assembly
import InteractiveBook.Package.Template
import InteractiveBook.Text.Path

/-!
# Compiling a book

A compiler holds a template that has been checked and the libraries found in it. It turns any number
of sources into packages. A source is first decoded into chapters, the chapters are built, and the
package is assembled from the template and what was built.
-/

namespace InteractiveBook

open Content Library Package Source

/-- The extension of package files. -/
def packageExtension : String := "h5p"

/-- The compression level of packages unless another is asked for. -/
def defaultLevel : Int := 6

/-- How a book is compiled. -/
structure CompileOptions where
  /-- The extensions of the language of the source. -/
  extensions : Markdown.Extensions := {}
  /-- The compression level of the package. -/
  level : Int := defaultLevel
  /-- The chapters are built independently of each other. -/
  parallel : Bool := true
  deriving DecidableEq, Repr

/-- The options with a compression level, the nearest one from zero to nine. -/
def CompileOptions.withLevel (o : CompileOptions) (level : Int) : CompileOptions :=
  { o with level := max 0 (min 9 level) }

/-- A template that sources can be compiled against. -/
structure Compiler where
  /-- The template. -/
  template : Template
  /-- For each content type the library that the template has for it. -/
  libraries : LibraryTable
  /-- The function from Markdown to HTML. -/
  render : Renderer
  /-- How books are compiled. -/
  options : CompileOptions

namespace Compiler

/-- The compiler of a template. -/
def ofTemplate (t : Template) (o : CompileOptions) : Compiler :=
  ⟨t, t.libraries, Markdown.toHtml o.extensions, o⟩

/-- What building needs. -/
def context (c : Compiler) : BuildContext := ⟨c.libraries, c.render⟩

/-- The columns of the chapters of a source. -/
def buildChapters (c : Compiler) (source : String) (lanes : IdLanes) :
    Except BookError (List ContentObject) := do
  let chapters ← decodeSource source
  return Content.buildChapters c.context chapters c.options.parallel lanes

/-- The bytes of the package of a source. -/
def compile (c : Compiler) (source : String) (lanes : IdLanes) : Except BookError ByteArray := do
  let chapters ← c.buildChapters source lanes
  assemblePackage c.template.bytes chapters c.options.level

/-- What the log says of finding libraries. -/
def log (c : Compiler) : List LogLine := resolutionLog c.libraries

/-- What the log says of decoding a source. -/
def decodeLog (source : String) : List LogLine :=
  match splitChapters source with
  | .error _ => []
  | .ok chapters => [⟨.debug, "Split source into " ++ toString chapters.length ++ " chapters"⟩]

/-- What the log says of building the chapters of a source one after the other. -/
def buildLog (c : Compiler) (source : String) : List LogLine :=
  decodeLog source ++ match decodeSource source with
    | .error _ => []
    | .ok chapters => ⟨.debug, "Decoded " ++ toString chapters.length ++ " chapters"⟩
        :: chaptersLog c.context chapters

/-- What the log says of compiling a source. -/
def compileLog (c : Compiler) (source : String) (lanes : IdLanes) : List LogLine :=
  c.buildLog source ++ match c.buildChapters source lanes with
    | .error _ => []
    | .ok chapters => assemblyLog c.template.bytes chapters c.options.level
        ++ match c.compile source lanes with
          | .error _ => []
          | .ok bytes => [⟨.info, "Compiled " ++ toString chapters.length ++ " chapters into "
              ++ toString bytes.size ++ " byte package"⟩]

end Compiler

/-- The bytes of the package of a source, from the bytes of a template. -/
def compileWith (options : CompileOptions) (source : String) (template : ByteArray)
    (lanes : IdLanes) : Except BookError ByteArray := do
  let t ← (Template.ofBytes template).mapError .template
  (Compiler.ofTemplate t options).compile source lanes

/-- The bytes of the package of a source that is compiled in the usual way. -/
def compileBook (source : String) (template : ByteArray) (lanes : IdLanes) :
    Except BookError ByteArray :=
  compileWith {} source template lanes

/-- The name of the package of a source file: that of the file with another extension. -/
def packageName (path : String) : String :=
  match Text.lastName? path with
  | some name => String.ofList (Text.stem name) ++ "." ++ packageExtension
  | none => "book." ++ packageExtension

end InteractiveBook
