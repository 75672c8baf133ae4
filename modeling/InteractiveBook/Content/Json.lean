import InteractiveBook.Content.Object
import InteractiveBook.Json.Value

/-!
# Content objects as JSON

The form in which the content document holds an object: its library, its parameters, its
identifier and its metadata.
-/

namespace InteractiveBook.Content

/-- An object whose settings are truth values. -/
def switches (settings : List (String × Bool)) : Json :=
  .object (settings.map fun s => (s.1, .bool s.2))

/-- A question of a single choice set. -/
def Choice.json (c : Choice) : Json :=
  .object [("subContentId", .string c.id.text), ("question", .string c.question),
    ("answers", .array (c.answers.map .string))]

/-- The behaviour of a single choice set. -/
def ChoiceBehaviour.json (b : ChoiceBehaviour) : Json :=
  .object [("autoContinue", .bool b.autoContinue),
    ("timeoutCorrect", .ofNat b.timeoutCorrect.toNat),
    ("timeoutWrong", .ofNat b.timeoutWrong.toNat), ("soundEffectsEnabled", .bool b.soundEffects),
    ("enableRetry", .bool b.retry), ("enableSolutionsButton", .bool b.solutionsButton),
    ("passPercentage", .ofNat b.passPercentage.toNat)]

/-- A range of scores. -/
def FeedbackRange.json (r : FeedbackRange) : Json :=
  .object [("from", .ofNat r.low.toNat), ("to", .ofNat r.high.toNat)]

/-- The file of an image. -/
def ImageFile.json (f : ImageFile) : Json :=
  .object [("path", .string f.path), ("mime", .string f.mime),
    ("copyright", .object [("license", .string f.license)])]

/-- A file that a video plays. -/
def VideoSource.json (s : VideoSource) : Json :=
  .object [("path", .string s.path), ("mime", .string s.mime)]

/-- The parameters of an object that holds no further objects. -/
def LeafParams.json : LeafParams → Json
  | text html => .object [("text", .string html)]
  | singleChoiceSet choices behaviour feedback =>
    .object [("choices", .array (choices.map Choice.json)), ("behaviour", behaviour.json),
      ("overallFeedback", .array (feedback.map FeedbackRange.json))]
  | image name file alt decorative =>
    .object [("contentName", .string name), ("file", file.json), ("alt", .string alt),
      ("decorative", .bool decorative)]
  | video v =>
    .object [("visuals", switches [("fit", v.fit), ("controls", v.controls)]),
      ("playback", switches [("autoplay", v.autoplay), ("loop", v.loop)]),
      ("sources", .array (v.sources.map VideoSource.json))]
  | blanks task questions b =>
    .object [("text", .string task), ("questions", .array (questions.map .string)),
      ("behaviour", switches [("enableRetry", b.retry),
        ("enableSolutionsButton", b.solutionsButton), ("enableCheckButton", b.checkButton),
        ("autoCheck", b.autoCheck), ("caseSensitive", b.caseSensitive),
        ("showSolutionsRequiresInput", b.requiresInput), ("separateLines", b.separateLines),
        ("acceptSpellingErrors", b.spellingErrors)])]
  | dragText task textField b =>
    .object [("taskDescription", .string task), ("textField", .string textField),
      ("behaviour", switches [("enableRetry", b.retry),
        ("enableSolutionsButton", b.solutionsButton), ("enableCheckButton", b.checkButton),
        ("instantFeedback", b.instantFeedback)])]

/-- An object with the given parameters. -/
def ObjectInfo.json (info : ObjectInfo) (params : Json) : Json :=
  .object [("library", .string info.library.text), ("params", params),
    ("subContentId", .string info.id.text),
    ("metadata", .object [("license", .string info.license), ("title", .string info.title),
      ("contentType", .string info.contentType.displayName)])]

namespace ContentObject

mutual

/-- An object as JSON. -/
def json : ContentObject → Json
  | column info items => info.json (.object [("content", .array (jsonItems items))])
  | accordion info panels headingTag =>
    info.json (.object [("panels", .array (jsonPanels panels)), ("hTag", .string headingTag)])
  | leaf info params => info.json params.json

/-- The items of a column, each with a separator where one is due. -/
def jsonItems : List ContentObject → List Json
  | [] => []
  | item :: rest =>
    .object [("content", item.json), ("useSeparator", .string "auto")] :: jsonItems rest

/-- The panels of an accordion. -/
def jsonPanels : List (String × ContentObject) → List Json
  | [] => []
  | (title, content) :: rest =>
    .object [("content", content.json), ("title", .string title)] :: jsonPanels rest

end

end ContentObject

end InteractiveBook.Content
