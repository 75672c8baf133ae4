import InteractiveBook.Source.Block

/-!
# Content types

The eight kinds of element that a book can hold, in their fixed order, with the names under which
installed libraries provide them.
-/

namespace InteractiveBook.Library

/-- The kinds of element that a book can hold. -/
inductive ContentType where
  /-- A vertical sequence of elements; each chapter is one. -/
  | column
  /-- Formatted text. -/
  | text
  /-- Panels that open one at a time. -/
  | accordion
  /-- Questions with one right answer. -/
  | singleChoiceSet
  /-- An image. -/
  | image
  /-- A video. -/
  | video
  /-- Sentences with words left out. -/
  | blanks
  /-- Sentences whose words are dragged into place. -/
  | dragText
  deriving DecidableEq, Repr

namespace ContentType

/-- All content types in their fixed order. -/
def all : List ContentType :=
  [column, text, accordion, singleChoiceSet, image, video, blanks, dragText]

/-- The name of a content type in reports. -/
def key : ContentType → String
  | column => "column"
  | text => "text"
  | accordion => "accordion"
  | singleChoiceSet => "single-choice-set"
  | image => "image"
  | video => "video"
  | blanks => "blanks"
  | dragText => "drag-text"

/-- The name that a reader of the book sees for a content type. -/
def displayName : ContentType → String
  | column => "Column"
  | text => "Text"
  | accordion => "Accordion"
  | singleChoiceSet => "Single Choice Set"
  | image => "Image"
  | video => "Video"
  | blanks => "Fill in the Blanks"
  | dragText => "Drag the Words"

/-- The name of the rich text library. -/
def advancedText : String := "H5P.AdvancedText"

/-- The names of the libraries that can provide a content type, the preferred one first. -/
def machineNames : ContentType → List String
  | column => ["H5P.Column"]
  | text => [advancedText, "H5P.Text"]
  | accordion => ["H5P.Accordion"]
  | singleChoiceSet => ["H5P.SingleChoiceSet"]
  | image => ["H5P.Image"]
  | video => ["H5P.Video"]
  | blanks => ["H5P.Blanks"]
  | dragText => ["H5P.DragText"]

/-- Every content type is in the fixed order. -/
theorem mem_all (t : ContentType) : t ∈ all := by cases t <;> decide

/-- The fixed order names no content type twice. -/
theorem nodup_all : all.Nodup := by decide

/-- The content type that a block of the given kind is built as. -/
def ofBlockKind : Source.BlockKind → ContentType
  | .text => text
  | .accordion => accordion
  | .quiz => singleChoiceSet
  | .image => image
  | .video => video
  | .fillBlanks => blanks
  | .dragWords => dragText

end ContentType

end InteractiveBook.Library
