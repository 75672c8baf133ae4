import InteractiveBook.Html.Tag

/-!
# Preparing HTML for a book

Rendered text is prepared in three steps: each image gives way to a placeholder that names its
file, each table gets a class, and a rendering without any visible content becomes one paragraph
with a no-break space.
-/

namespace InteractiveBook.Html

/-- The class of every table. -/
def tableClass : String := "h5pbook-table"

/-- The paragraph that stands for a blank rendering. -/
def blankParagraph : String := "<p>&nbsp;</p>"

/-- The style of an image placeholder. -/
def placeholderStyle : String :=
  "display:block;border:2px dashed #9e9e9e;padding:1em;margin:0.5em 0;text-align:center;"
    ++ "color:#616161;background:#fafafa"

/-- The placeholder of an image file. -/
def imagePlaceholder (file : String) : String :=
  "<span class=\"h5pbook-image-placeholder\" style=\"" ++ placeholderStyle ++ "\">[Image: "
    ++ file ++ "]</span>"

/-- The name of the file that an address leads to: the part before any query or fragment and after
the last slash of either kind. -/
def fileName (address : List Char) : List Char :=
  let path := address.takeWhile fun c => c ≠ '?' ∧ c ≠ '#'
  (path.reverse.takeWhile fun c => c ≠ '/' ∧ c ≠ '\\').reverse

/-- The name of an image without an address. -/
def defaultImageName : List Char := "image".toList

/-- The name of the file that an image tag shows. -/
def imageName (m : TagMatch) : List Char :=
  match findAttribute? ['s', 'r', 'c'] false m.written with
  | some a => if fileName a.value = [] then defaultImageName else fileName a.value
  | none => defaultImageName

/-- What an image tag is replaced with. -/
def replaceImage (m : TagMatch) : List Char :=
  (imagePlaceholder (String.ofList (imageName m))).toList

/-- What a table tag is replaced with: its class gets one more word, or it gets a class. -/
def classifyTable (m : TagMatch) : List Char :=
  match findAttribute? ['c', 'l', 'a', 's', 's'] false m.inside with
  | some a => "<table".toList ++ a.before ++ "class=\"".toList ++ a.value ++ [' ']
      ++ tableClass.toList ++ ['"'] ++ a.after ++ ['>']
  | none => "<table class=\"".toList ++ tableClass.toList ++ ['"'] ++ m.inside ++ ['>']

/-- The HTML with every image replaced by its placeholder. -/
def replaceImages (html : String) : String :=
  String.ofList (replaceTags .image replaceImage 0 html.toList)

/-- The HTML with the table class on every table. -/
def addTableClasses (html : String) : String :=
  String.ofList (replaceTags .table classifyTable 0 html.toList)

/-- The HTML, or the paragraph that stands for a blank one. -/
def nonEmpty (html : String) : String := if Text.isBlank html then blankParagraph else html

/-- The HTML prepared for a book. -/
def postprocess (html : String) : String := nonEmpty (addTableClasses (replaceImages html))

end InteractiveBook.Html
