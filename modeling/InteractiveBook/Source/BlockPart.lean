import InteractiveBook.Text.Line

/-!
# Questions and panels

A quiz is made of questions, and an accordion of panels.

A line that starts with a question mark opens a question. A line that starts with an asterisk
puts a right answer in front of the answers so far, and one that starts with a hyphen puts a
wrong answer behind them. All other lines, and answers before the first question, are ignored.

Each line that starts with three plus signs, after white space, opens a panel. The lines up to
the next such line are its body, verbatim; lines before the first one belong to no panel.
-/

namespace InteractiveBook.Source

/-! ### Questions -/

/-- A question and its answers, the right one first. -/
structure Question where
  /-- The text of the question. -/
  text : String
  /-- The answers in the order in which they are stored. -/
  answers : List String
  deriving DecidableEq, Repr

/-- What one line of a quiz says. -/
inductive QuizLine where
  /-- A question. -/
  | question (text : String)
  /-- A right answer. -/
  | right (text : String)
  /-- A wrong answer. -/
  | wrong (text : String)
  /-- Nothing. -/
  | other
  deriving DecidableEq, Repr

/-- What a line says, by the first character of the trimmed line. -/
def QuizLine.ofLine (line : String) : QuizLine :=
  match Text.trimChars line.toList with
  | '?' :: rest => question (String.ofList (Text.trimChars rest))
  | '*' :: rest => right (String.ofList (Text.trimChars rest))
  | '-' :: rest => wrong (String.ofList (Text.trimChars rest))
  | _ => other

/-- The answers of a question after one more line. -/
def addAnswer (answers : List String) : QuizLine → List String
  | .right text => text :: answers
  | .wrong text => answers ++ [text]
  | _ => answers

/-- The questions of a list of lines, given the question in progress. -/
def questionsFrom (open? : Option Question) : List QuizLine → List Question
  | [] => open?.toList
  | .question text :: rest => open?.toList ++ questionsFrom (some ⟨text, []⟩) rest
  | line :: rest =>
    questionsFrom (open?.map fun q => { q with answers := addAnswer q.answers line }) rest

/-- The questions of a quiz block. -/
def parseQuestions (lines : List String) : List Question :=
  questionsFrom none (lines.map QuizLine.ofLine)

/-! ### Panels -/

/-- A panel of an accordion. -/
structure Panel where
  /-- The trimmed text after the marker. -/
  title : String
  /-- The lines of the body, verbatim. -/
  body : List String
  deriving DecidableEq, Repr

/-- The title of a panel whose marker has no text. -/
def defaultPanelTitle : String := "Panel"

/-- The title on a marker line, if the line is one. -/
def panelTitle? (line : String) : Option String :=
  (Text.dropStart? "+++" (Text.trimStart line)).map fun rest =>
    if Text.trim rest = "" then defaultPanelTitle else Text.trim rest

/-- The panel with one more line at the end of its body. -/
def Panel.pushLine (p : Panel) (line : String) : Panel := { p with body := p.body ++ [line] }

/-- The panels so far, and one more line: a marker opens a panel, and any other line is added to the
last panel, if there is one. -/
def addPanelLine (panels : List Panel) (line : String) : List Panel :=
  match panelTitle? line with
  | some title => panels ++ [⟨title, []⟩]
  | none =>
    match panels.getLast? with
    | some p => panels.dropLast ++ [p.pushLine line]
    | none => panels

/-- The panels of an accordion block. -/
def splitPanels (lines : List String) : List Panel := lines.foldl addPanelLine []

end InteractiveBook.Source
