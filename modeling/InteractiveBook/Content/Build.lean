import InteractiveBook.Content.Object
import InteractiveBook.Html.Escape
import InteractiveBook.Html.Postprocess
import InteractiveBook.Log
import InteractiveBook.Source.BlockPart
import InteractiveBook.Source.Chapter

/-!
# Building content objects

Each block of a chapter becomes one content object, made with the library that the table has for
the content type of the block. A block whose library is missing becomes a text that says so and
shows the block's lines as prose. A chapter becomes a column of its objects; one without blocks
holds a single blank text. The log warns of every use of a default library and of every block whose
library is missing, and says the size of each chapter.
-/

namespace InteractiveBook.Content

open Library Source

/-- A function from Markdown to HTML. -/
abbrev Renderer := String → String

/-- What building needs besides the blocks. -/
structure BuildContext where
  /-- For each content type the library that provides it. -/
  libraries : LibraryTable
  /-- The Markdown renderer. -/
  render : Renderer

/-- The library for text where the table has none. -/
def defaultTextLibrary : LibraryId := ⟨ContentType.advancedText, 1, 1⟩

/-- The library for columns where the table has none. -/
def defaultColumnLibrary : LibraryId := ⟨"H5P.Column", 1, 18⟩

namespace BuildContext

/-- Rendered and prepared text. -/
def html (ctx : BuildContext) (markdown : String) : String := Html.postprocess (ctx.render markdown)

/-- The library for text. -/
def textLibrary (ctx : BuildContext) : LibraryId :=
  (ctx.libraries.get .text).getD defaultTextLibrary

/-- The library for columns. -/
def columnLibrary (ctx : BuildContext) : LibraryId :=
  (ctx.libraries.get .column).getD defaultColumnLibrary

end BuildContext

/-- A leaf with a fresh identifier. -/
def newLeaf (library : LibraryId) (title : String) (contentType : ContentType)
    (params : LeafParams) : Draw ContentObject := do
  let id ← drawId
  return .leaf (.new library id title contentType) params

/-- A text object with a fresh identifier. -/
def newText (library : LibraryId) (title html : String) : Draw ContentObject :=
  newLeaf library title .text (.text html)

/-- The panels of an accordion, each with a text object of its rendered body. -/
def buildPanels (ctx : BuildContext) (panels : List Panel) : Draw (List (String × ContentObject)) :=
  panels.mapM fun p => do
    let content ← newText ctx.textLibrary p.title (ctx.html (Text.joinLines p.body))
    return (p.title, content)

/-- The questions of a single choice set, each with a fresh identifier. -/
def buildChoices (questions : List Question) : Draw (List Choice) :=
  questions.mapM fun q => do
    let id ← drawId
    return ⟨id, q.text, q.answers⟩

/-- The paragraphs of the lines that are not blank. -/
def blankParagraphs (lines : List String) : List String :=
  ((lines.map Text.trim).filter (· ≠ "")).map fun line => "<p>" ++ line ++ "</p>"

/-- The path of the one image that a book shows, below the content root. -/
def placeholderPath : String := "images/placeholder.png"

/-- An image that shows the placeholder, with an alternative text. -/
def placeholderParams (alt : String) : LeafParams :=
  .image "Image" ⟨placeholderPath, "image/png", undisclosed⟩ alt false

/-- The alternative text of an image without one. -/
def defaultAlt : String := "Image"

/-- The alternative text of an image block: that of its first line, if it has one. -/
def imageAlt (lines : List String) : String :=
  match lines.head?.bind ImageLine.ofLine? with
  | some image => if image.alt = "" then defaultAlt else image.alt
  | none => defaultAlt

/-- The object of a block, made with a given library. -/
def buildWith (ctx : BuildContext) (library : LibraryId) (b : Block) : Draw ContentObject :=
  match b.kind with
  | .text => newText library "Text" (ctx.html b.source)
  | .accordion => do
    let panels ← buildPanels ctx (splitPanels b.lines)
    let id ← drawId
    return .accordion (.new library id "Accordion" .accordion) panels "h2"
  | .quiz => do
    let choices ← buildChoices (parseQuestions b.lines)
    newLeaf library "Quiz" .singleChoiceSet (.singleChoiceSet choices {} [⟨0, 100⟩])
  | .image => newLeaf library (imageAlt b.lines) .image (placeholderParams (imageAlt b.lines))
  | .video => newLeaf library "Video" .video (.video {})
  | .fillBlanks =>
    newLeaf library "Fill in the blanks" .blanks
      (.blanks "<p>Fill in the missing words.</p>" (blankParagraphs b.lines) {})
  | .dragWords =>
    newLeaf library "Drag the words" .dragText
      (.dragText "Drag the words into the correct boxes." b.source {})

/-- What the text of a missing library says, with the lines of the block below it. -/
def fallbackHtml (ctx : BuildContext) (b : Block) : String :=
  "<p><strong>[" ++ Html.escape b.kind.label ++ ": library missing]</strong></p>\n"
    ++ (if b.isBlank then "" else ctx.html b.source)

/-- The text object that stands for a block whose library is missing. -/
def buildFallback (ctx : BuildContext) (b : Block) : Draw ContentObject :=
  newText ctx.textLibrary (b.kind.label ++ " (library missing)") (fallbackHtml ctx b)

/-- The library that a block is built with, if the table has it. -/
def blockLibrary? (ctx : BuildContext) (b : Block) : Option LibraryId :=
  ctx.libraries.get (ContentType.ofBlockKind b.kind)

/-- The object of a block, none when its library is missing. -/
def buildBlock? (ctx : BuildContext) (b : Block) : Option (Draw ContentObject) :=
  (blockLibrary? ctx b).map fun library => buildWith ctx library b

/-- The object of a block, a fallback when its library is missing. -/
def buildBlock (ctx : BuildContext) (b : Block) : Draw ContentObject :=
  (buildBlock? ctx b).getD (buildFallback ctx b)

/-- The items of a chapter: one for each block, or a single blank text. -/
def buildItems (ctx : BuildContext) (blocks : List Block) : Draw (List ContentObject) :=
  match blocks with
  | [] => do return [← newText ctx.textLibrary "Text" Html.blankParagraph]
  | blocks => blocks.mapM (buildBlock ctx)

/-- The column of a chapter. -/
def buildChapter (ctx : BuildContext) (c : DecodedChapter) : Draw ContentObject := do
  let items ← buildItems ctx c.blocks
  let id ← drawId
  return .column (.new ctx.columnLibrary id c.title .column) items

/-- The columns of chapters built one after the other from one supply. -/
def buildInTurn (ctx : BuildContext) (chapters : List DecodedChapter) (ids : IdSource) :
    List ContentObject :=
  Draw.run' (chapters.mapM (buildChapter ctx)) ids

/-- The columns of chapters built independently of each other, each from a supply of its own. -/
def buildApart (ctx : BuildContext) (chapters : List DecodedChapter) (lanes : IdLanes) :
    List ContentObject :=
  chapters.zipIdx.map fun (c, lane) => Draw.run' (buildChapter ctx c) (lanes lane)

/-- The columns of chapters, in source order. -/
def buildChapters (ctx : BuildContext) (chapters : List DecodedChapter) (parallel : Bool)
    (lanes : IdLanes) : List ContentObject :=
  if parallel then buildApart ctx chapters lanes else buildInTurn ctx chapters (lanes 0)

/-! ### What the log says of building -/

open Library Source

/-- The warning that a default library is used, when the table has none. -/
def defaultLibraryLog (ctx : BuildContext) (t : ContentType) (library : LibraryId) :
    List LogLine :=
  match ctx.libraries.get t with
  | some _ => []
  | none => [⟨.warn, "Using default " ++ t.displayName ++ " library " ++ library.text⟩]

/-- What the log says when the library for text is needed. -/
def textLibraryLog (ctx : BuildContext) : List LogLine :=
  defaultLibraryLog ctx .text defaultTextLibrary

/-- What the log says of a block that its own builder makes: each panel needs the library for
text. -/
def builtLog (ctx : BuildContext) (b : Block) : List LogLine :=
  match b.kind with
  | .accordion => (splitPanels b.lines).flatMap fun _ => textLibraryLog ctx
  | _ => []

/-- What the log says of a block of a chapter. -/
def blockLog (ctx : BuildContext) (title : String) (b : Block) : List LogLine :=
  match blockLibrary? ctx b with
  | some _ => builtLog ctx b
  | none =>
    ⟨.warn, "Chapter '" ++ title ++ "': no " ++ (ContentType.ofBlockKind b.kind).displayName
      ++ " library in template, using text fallback for " ++ b.kind.label ++ " block"⟩
      :: textLibraryLog ctx

/-- What the log says of a chapter. -/
def chapterLog (ctx : BuildContext) (c : DecodedChapter) : List LogLine :=
  (if c.blocks = [] then textLibraryLog ctx else c.blocks.flatMap (blockLog ctx c.title))
    ++ [⟨.debug, "Assembled chapter '" ++ c.title ++ "' with "
      ++ toString (max 1 c.blocks.length) ++ " items"⟩]
    ++ defaultLibraryLog ctx .column defaultColumnLibrary

/-- What the log says of the chapters of a book. -/
def chaptersLog (ctx : BuildContext) (chapters : List DecodedChapter) : List LogLine :=
  chapters.flatMap (chapterLog ctx)

end InteractiveBook.Content
