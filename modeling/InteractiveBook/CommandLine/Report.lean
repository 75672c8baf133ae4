import InteractiveBook.Json.Printer
import InteractiveBook.Library.Table
import InteractiveBook.Package.Template
import InteractiveBook.Source.Chapter

/-!
# Reports

What the commands that only look at things print: the libraries of a template, and the structure of
a source with the blocks that a template cannot build.
-/

namespace InteractiveBook.CommandLine

open Library Package Source

/-- A text filled up with blanks to a width. -/
def padRight (width : Nat) (s : String) : String :=
  s ++ String.ofList (List.replicate (width - s.length) ' ')

/-- A library in a report: its name and version, or that text takes its place. -/
def libraryText (id? : Option LibraryId) : String :=
  match id? with
  | some id => id.text
  | none => "(missing, text fallback)"

/-- The report of a template as lines. -/
def templateLines (r : TemplateReport) : List String :=
  r.title.toList.map ("Title:        " ++ ·)
    ++ ["Main library: " ++ r.mainLibrary,
      "Text:         " ++ (if r.libraries.advancedText then "advanced" else "plain"),
      "Libraries:"]
    ++ r.libraries.entries.map fun e =>
      "  " ++ padRight 18 e.1.displayName ++ " " ++ libraryText e.2

/-- What a check finds. -/
structure CheckReport where
  /-- The chapters of the source. -/
  chapters : List ChapterOutline
  /-- The chapter and the kind of every block that would become plain text. -/
  fallbacks : List String

/-- The blocks of chapters that a table has no library for. -/
def fallbacks (chapters : List ChapterOutline) (table : LibraryTable) : List String :=
  chapters.flatMap fun c =>
    (c.blocks.filter fun b => (table.get (ContentType.ofBlockKind b.kind)).isNone).map fun b =>
      c.title ++ ": " ++ b.kind.label

namespace CheckReport

/-- A chapter in a report as JSON. -/
def chapterJson (c : ChapterOutline) : Json :=
  .object [("title", .string c.title),
    ("blocks", .array (c.blocks.map fun b =>
      .object [("kind", .string b.kind.key), ("lines", .ofNat b.lineCount)]))]

/-- The report as JSON. -/
def json (r : CheckReport) : Json :=
  .object [("chapters", .array (r.chapters.map chapterJson)),
    ("fallbacks", .array (r.fallbacks.map .string))]

/-- A chapter in a report as lines. -/
def chapterLines (c : ChapterOutline) : List String :=
  ("  " ++ c.title) :: c.blocks.map fun b =>
    "    " ++ padRight 20 b.kind.label ++ " " ++ toString b.lineCount ++ " lines"

/-- The report as lines. -/
def lines (r : CheckReport) : List String :=
  (toString r.chapters.length ++ " chapters") :: r.chapters.flatMap chapterLines
    ++ r.fallbacks.map ("Fallback: " ++ ·)

end CheckReport

end InteractiveBook.CommandLine
