import InteractiveBook.Content.Id
import InteractiveBook.Library.Table

/-!
# Content objects

A book is a tree of content objects. Columns and accordions hold further objects; every other
object is a leaf. The kind of an object fixes its parameters.
-/

namespace InteractiveBook.Content

open Library

/-- The license of content whose license is not given. -/
def undisclosed : String := "U"

/-- What every content object carries besides its parameters. -/
structure ObjectInfo where
  /-- The library that runs the object. -/
  library : LibraryId
  /-- The identifier of the object. -/
  id : SubContentId
  /-- The title in the metadata. -/
  title : String
  /-- The content type in the metadata. -/
  contentType : ContentType
  /-- The license in the metadata. -/
  license : String
  deriving DecidableEq, Repr

/-- What a new object carries: its license is not given. -/
def ObjectInfo.new (library : LibraryId) (id : SubContentId) (title : String)
    (contentType : ContentType) : ObjectInfo :=
  ⟨library, id, title, contentType, undisclosed⟩

/-- A question of a single choice set. -/
structure Choice where
  /-- The identifier of the question. -/
  id : SubContentId
  /-- The text of the question. -/
  question : String
  /-- The answers, the right one first. -/
  answers : List String
  deriving DecidableEq, Repr

/-- How a single choice set behaves. -/
structure ChoiceBehaviour where
  /-- Whether an answer leads on to the next question. -/
  autoContinue : Bool := true
  /-- How many milliseconds pass after a right answer. -/
  timeoutCorrect : UInt32 := 2000
  /-- How many milliseconds pass after a wrong answer. -/
  timeoutWrong : UInt32 := 3000
  /-- Whether answers make a sound. -/
  soundEffects : Bool := true
  /-- Whether the set can be tried again. -/
  retry : Bool := true
  /-- Whether the solutions can be shown. -/
  solutionsButton : Bool := true
  /-- How many of a hundred points are needed to pass. -/
  passPercentage : UInt8 := 100
  deriving DecidableEq, Repr

/-- A range of scores that shares its feedback. -/
structure FeedbackRange where
  /-- The lowest score, of a hundred. -/
  low : UInt8
  /-- The highest score. -/
  high : UInt8
  deriving DecidableEq, Repr

/-- A file that an image shows. -/
structure ImageFile where
  /-- The path below the content root. -/
  path : String
  /-- The media type. -/
  mime : String
  /-- The license of the file. -/
  license : String
  deriving DecidableEq, Repr

/-- A file that a video plays. -/
structure VideoSource where
  /-- The path of the file. -/
  path : String
  /-- The media type. -/
  mime : String
  deriving DecidableEq, Repr

/-- The parameters of a video. -/
structure VideoParams where
  /-- Whether the video fills its place. -/
  fit : Bool := true
  /-- Whether the controls are shown. -/
  controls : Bool := true
  /-- Whether the video starts by itself. -/
  autoplay : Bool := false
  /-- Whether the video starts again at its end. -/
  loop : Bool := false
  /-- What the video plays; without any of these it is an empty slot. -/
  sources : List VideoSource := []
  deriving DecidableEq, Repr

/-- How sentences with words left out behave. -/
structure BlanksBehaviour where
  /-- Whether they can be tried again. -/
  retry : Bool := true
  /-- Whether the solutions can be shown. -/
  solutionsButton : Bool := true
  /-- Whether the answers can be checked. -/
  checkButton : Bool := true
  /-- Whether answers are checked at once. -/
  autoCheck : Bool := true
  /-- Whether the case of letters matters. -/
  caseSensitive : Bool := false
  /-- Whether solutions are shown only when all is filled in. -/
  requiresInput : Bool := true
  /-- Whether blanks stand on lines of their own. -/
  separateLines : Bool := false
  /-- Whether spelling errors are accepted. -/
  spellingErrors : Bool := false
  deriving DecidableEq, Repr

/-- How sentences behave whose words are dragged into place. -/
structure DragTextBehaviour where
  /-- Whether they can be tried again. -/
  retry : Bool := true
  /-- Whether the solutions can be shown. -/
  solutionsButton : Bool := true
  /-- Whether the answers can be checked. -/
  checkButton : Bool := true
  /-- Whether every word is checked at once. -/
  instantFeedback : Bool := false
  deriving DecidableEq, Repr

/-- The parameters of an object that holds no further objects. -/
inductive LeafParams where
  /-- Formatted text as HTML. -/
  | text (html : String)
  /-- Questions with one right answer. -/
  | singleChoiceSet (choices : List Choice) (behaviour : ChoiceBehaviour)
    (feedback : List FeedbackRange)
  /-- An image with a name and an alternative text. -/
  | image (name : String) (file : ImageFile) (alt : String) (decorative : Bool)
  /-- A video. -/
  | video (params : VideoParams)
  /-- Sentences with words left out, one graded paragraph each. -/
  | blanks (task : String) (questions : List String) (behaviour : BlanksBehaviour)
  /-- Sentences whose words are dragged into place. -/
  | dragText (task textField : String) (behaviour : DragTextBehaviour)
  deriving DecidableEq, Repr

/-- The content type that parameters belong to. -/
def LeafParams.contentType : LeafParams → ContentType
  | text .. => .text
  | singleChoiceSet .. => .singleChoiceSet
  | image .. => .image
  | video .. => .video
  | blanks .. => .blanks
  | dragText .. => .dragText

/-- A content object. -/
inductive ContentObject where
  /-- A vertical sequence of objects. -/
  | column (info : ObjectInfo) (items : List ContentObject)
  /-- Titled panels, each with an object; the titles are headings of one kind. -/
  | accordion (info : ObjectInfo) (panels : List (String × ContentObject)) (headingTag : String)
  /-- An object that holds no further objects. -/
  | leaf (info : ObjectInfo) (params : LeafParams)
  deriving Repr

namespace ContentObject

/-- What an object carries besides its parameters. -/
def info : ContentObject → ObjectInfo
  | column info _ => info
  | accordion info _ _ => info
  | leaf info _ => info

/-- The content type that the shape of an object belongs to. -/
def shape : ContentObject → ContentType
  | column _ _ => .column
  | accordion _ _ _ => .accordion
  | leaf _ params => params.contentType

mutual

/-- An object and every object inside it, parents first and siblings in order. -/
def walk : ContentObject → List ContentObject
  | column info items => column info items :: walkItems items
  | accordion info panels headingTag => accordion info panels headingTag :: walkPanels panels
  | leaf info params => [leaf info params]

/-- The objects of the items of a column. -/
def walkItems : List ContentObject → List ContentObject
  | [] => []
  | item :: rest => item.walk ++ walkItems rest

/-- The objects of the panels of an accordion. -/
def walkPanels : List (String × ContentObject) → List ContentObject
  | [] => []
  | (_, content) :: rest => content.walk ++ walkPanels rest

end

/-- The identifiers of the questions that an object itself holds. -/
def choiceIds : ContentObject → List SubContentId
  | leaf _ (.singleChoiceSet choices _ _) => choices.map (·.id)
  | _ => []

/-- All identifiers of an object and of the objects and questions inside it. -/
def ids (o : ContentObject) : List SubContentId :=
  o.walk.flatMap fun inner => inner.info.id :: inner.choiceIds

end ContentObject

end InteractiveBook.Content
