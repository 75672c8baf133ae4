import InteractiveBook.Text.Trim

/-!
# Finding tags and attributes

An opening tag is a less-than sign, a name in letters of either case, a stretch without
greater-than sign and the sign itself. What the stretch may start with depends on the tag. An
attribute is found inside a tag by its name, an equals sign and a value in quotation marks.
-/

namespace InteractiveBook.Html

/-- Whether a character is a small letter up to case. The long s is a form of the letter s. -/
def isLetter (small c : Char) : Bool :=
  c == small || c == small.toUpper || (small == 's' && c == 'ſ')

/-- The rest of a list after a name in letters of either case. -/
def afterName? : List Char → List Char → Option (List Char)
  | [], cs => some cs
  | _ :: _, [] => none
  | l :: ls, c :: cs => if isLetter l c then afterName? ls cs else none

/-- A kind of opening tag. -/
structure TagKind where
  /-- The name in small letters. -/
  name : List Char
  /-- Which stretches may follow the name. -/
  admits : List Char → Bool

/-- Image tags: the name is followed by something else than a word character. -/
def TagKind.image : TagKind where
  name := ['i', 'm', 'g']
  admits
    | [] => true
    | c :: _ => !Text.isWord c

/-- Table tags: the name is followed by white space or by nothing. -/
def TagKind.table : TagKind where
  name := ['t', 'a', 'b', 'l', 'e']
  admits
    | [] => true
    | c :: _ => Text.isWhiteSpace c

/-- An opening tag at the start of a list. -/
structure TagMatch where
  /-- The sign and the name as they are written. -/
  opening : List Char
  /-- The stretch between the name and the closing sign. -/
  inside : List Char

/-- The number of characters that a tag takes, its closing sign included. -/
def TagMatch.length (m : TagMatch) : Nat := m.opening.length + m.inside.length + 1

/-- The tag as it is written, with its closing sign. -/
def TagMatch.written (m : TagMatch) : List Char := m.opening ++ m.inside ++ ['>']

/-- The opening tag of a kind at the start of a list. -/
def tagAt? (kind : TagKind) (cs : List Char) : Option TagMatch :=
  match cs with
  | '<' :: rest =>
    match afterName? kind.name rest with
    | some rest =>
      let inside := rest.takeWhile (· ≠ '>')
      if kind.admits inside && inside.length < rest.length then
        some ⟨cs.take (kind.name.length + 1), inside⟩
      else none
    | none => none
  | _ => none

/-- A list with every opening tag of a kind replaced, from the left and without overlap. The
number says how many characters of a tag are still to be passed over. -/
def replaceTags (kind : TagKind) (replacement : TagMatch → List Char) : Nat → List Char → List Char
  | _, [] => []
  | skip + 1, _ :: cs => replaceTags kind replacement skip cs
  | 0, c :: cs =>
    match tagAt? kind (c :: cs) with
    | some m => replacement m ++ replaceTags kind replacement (m.length - 1) cs
    | none => c :: replaceTags kind replacement 0 cs

/-- An attribute inside a list: what stands before it, its value, and what stands after it. -/
structure AttributeMatch where
  /-- What stands before the attribute. -/
  before : List Char
  /-- The value between the quotation marks. -/
  value : List Char
  /-- What stands after the closing quotation mark. -/
  after : List Char

/-- The value and the rest of an attribute that starts a list. -/
def attributeAt? (name : List Char) (cs : List Char) : Option (List Char × List Char) :=
  match afterName? name cs with
  | none => none
  | some rest =>
    match Text.trimStartChars rest with
    | '=' :: rest =>
      match Text.trimStartChars rest with
      | '"' :: rest =>
        match rest.dropWhile (· ≠ '"') with
        | '"' :: after => some (rest.takeWhile (· ≠ '"'), after)
        | _ => none
      | _ => none
    | _ => none

/-- The first attribute of a name in a list, where the name does not continue a word. The flag
says whether the character before the list is a word character. -/
def findAttribute? (name : List Char) (inWord : Bool) : List Char → Option AttributeMatch
  | [] => none
  | c :: cs =>
    match (if inWord then none else attributeAt? name (c :: cs)) with
    | some (value, after) => some ⟨[], value, after⟩
    | none => (findAttribute? name (Text.isWord c) cs).map
        fun m => { m with before := c :: m.before }

end InteractiveBook.Html
