import InteractiveBook.Proofs.Html.Tag

/-!
# The attributes of a tag

What stands in a tag behind its name is read from the left, one character after the other. At each
place it is known what the next character belongs to: to the name of an attribute, to its value, or
to what is between two attributes. A name ends at white space, at an equals sign or at a slash. A
value stands in quotation marks of either kind, and is then over at the next mark of that kind, or
is over at white space.
-/

namespace InteractiveBook.Html

/-- An attribute of a tag. One without a value has the empty value. -/
structure Attribute where
  /-- The name as it is written. -/
  name : List Char
  /-- The value as it is written, without its quotation marks. -/
  value : List Char
deriving DecidableEq, Repr

/-- A place in a tag: what has been read of the attribute that it is in. -/
inductive Place where
  /-- Between two attributes. -/
  | between
  /-- In a name. -/
  | name (name : List Char)
  /-- In the white space behind a name. -/
  | behindName (name : List Char)
  /-- Behind an equals sign. -/
  | beforeValue (name : List Char)
  /-- In a value that ends at a quotation mark. -/
  | quoted (name : List Char) (mark : Char) (value : List Char)
  /-- In a value without quotation marks. -/
  | bare (name value : List Char)
deriving DecidableEq, Repr

namespace Place

/-- The place behind a character, and the attribute that is over with it. -/
def step : Place → Char → Place × Option Attribute
  | between, c => if Text.isWhiteSpace c || c == '/' then (between, none) else (name [c], none)
  | name n, c =>
    if Text.isWhiteSpace c then (behindName n, none)
    else if c == '/' then (between, some ⟨n, []⟩)
    else if c == '=' then (beforeValue n, none)
    else (name (n ++ [c]), none)
  | behindName n, c =>
    if Text.isWhiteSpace c then (behindName n, none)
    else if c == '/' then (between, some ⟨n, []⟩)
    else if c == '=' then (beforeValue n, none)
    else (name [c], some ⟨n, []⟩)
  | beforeValue n, c =>
    if Text.isWhiteSpace c then (beforeValue n, none)
    else if c == '"' || c == '\'' then (quoted n c [], none)
    else (bare n [c], none)
  | quoted n mark v, c =>
    if c == mark then (between, some ⟨n, v⟩) else (quoted n mark (v ++ [c]), none)
  | bare n v, c =>
    if Text.isWhiteSpace c then (between, some ⟨n, v⟩) else (bare n (v ++ [c]), none)

/-- The attribute that is over with the end of the tag. -/
def finish : Place → Option Attribute
  | between => none
  | name n | behindName n | beforeValue n => some ⟨n, []⟩
  | quoted n _ v | bare n v => some ⟨n, v⟩

/-- A place that belongs to a value. -/
def InValue : Place → Prop
  | between | name _ | behindName _ => False
  | beforeValue _ | quoted _ _ _ | bare _ _ => True

instance : DecidablePred InValue
  | between | name _ | behindName _ => inferInstanceAs (Decidable False)
  | beforeValue _ | quoted _ _ _ | bare _ _ => inferInstanceAs (Decidable True)

/-- The part of a name that has been read at a place at which the name may go on. -/
def begun : Place → List Char
  | name n => n
  | _ => []

/-- The attribute without a value that is over when a name begins. -/
def overtaken : Place → Option Attribute
  | behindName n => some ⟨n, []⟩
  | _ => none

end Place

/-- The place behind a text. -/
def placeAfter (p : Place) (cs : List Char) : Place := cs.foldl (fun p c => (p.step c).1) p

/-- The attributes that are over in a text or with its end. -/
def attributesFrom : Place → List Char → List Attribute
  | p, [] => p.finish.toList
  | p, c :: cs => (p.step c).2.toList ++ attributesFrom (p.step c).1 cs

/-- The attributes of a tag. -/
def TagMatch.attributes (m : TagMatch) : List Attribute := attributesFrom .between m.inside

example : (TagMatch.mk "<table".toList " a=\"x y\"b = z c/d='w'".toList).attributes =
    [⟨['a'], "x y".toList⟩, ⟨['b'], ['z']⟩, ⟨['c'], []⟩, ⟨['d'], ['w']⟩] := by decide

/-- A text that is cut in two has the attributes of the first part and those that the second part
has from the place behind the first. -/
theorem exists_attributesFrom_append (p : Place) (cs : List Char) :
    ∃ first, ∀ rest, attributesFrom p (cs ++ rest) =
      first ++ attributesFrom (placeAfter p cs) rest := by
  induction cs generalizing p with
  | nil => exact ⟨[], fun _ => rfl⟩
  | cons c cs ih =>
    obtain ⟨first, hfirst⟩ := ih (p.step c).1
    refine ⟨(p.step c).2.toList ++ first, fun rest => ?_⟩
    rw [List.cons_append, attributesFrom, hfirst, List.append_assoc]
    rfl

/-! ### Reading an attribute in quotation marks -/

/-- A character that goes on with a name. -/
def IsNameChar (c : Char) : Prop := Text.isWhiteSpace c = false ∧ c ≠ '/' ∧ c ≠ '='

instance : DecidablePred IsNameChar := fun c =>
  inferInstanceAs (Decidable (Text.isWhiteSpace c = false ∧ c ≠ '/' ∧ c ≠ '='))

/-- Outside values a letter begins a name or goes on with it. -/
theorem attributesFrom_letter {p : Place} (hp : ¬p.InValue) {c : Char} (hc : IsNameChar c)
    (rest : List Char) : attributesFrom p (c :: rest) =
      p.overtaken.toList ++ attributesFrom (.name (p.begun ++ [c])) rest := by
  obtain ⟨hspace, hslash, hequals⟩ := hc
  rw [attributesFrom]
  cases p with
  | between | name _ | behindName _ =>
    simp [Place.step, Place.overtaken, Place.begun, hspace, hslash, hequals]
  | beforeValue _ | quoted _ _ _ | bare _ _ => exact absurd trivial hp

/-- The letters of a name are put together. -/
theorem attributesFrom_letters {letters : List Char} (h : ∀ c ∈ letters, IsNameChar c)
    (n rest : List Char) :
    attributesFrom (.name n) (letters ++ rest) = attributesFrom (.name (n ++ letters)) rest := by
  induction letters generalizing n with
  | nil => rw [List.nil_append, List.append_nil]
  | cons c letters ih =>
    have hc := h c List.mem_cons_self
    rw [List.cons_append, attributesFrom_letter id hc, ih fun d hd => h d (List.mem_cons_of_mem c hd),
      ← List.append_cons]
    rfl

/-- An equals sign behind a name and white space is followed by the value. -/
theorem attributesFrom_equals {space : List Char}
    (h : ∀ c ∈ space, Text.isWhiteSpace c = true) (n rest : List Char) :
    attributesFrom (.name n) (space ++ '=' :: rest) = attributesFrom (.beforeValue n) rest ∧
      attributesFrom (.behindName n) (space ++ '=' :: rest) =
        attributesFrom (.beforeValue n) rest := by
  have hsign : Text.isWhiteSpace '=' = false := by decide
  induction space with
  | nil => simp [attributesFrom, Place.step, hsign]
  | cons c space ih =>
    have hc := h c List.mem_cons_self
    obtain ⟨-, hrest⟩ := ih fun d hd => h d (List.mem_cons_of_mem c hd)
    simp [attributesFrom, Place.step, hc, hrest]

/-- White space before a quotation mark is no part of a value. -/
theorem attributesFrom_mark {space : List Char}
    (h : ∀ c ∈ space, Text.isWhiteSpace c = true) (n rest : List Char) :
    attributesFrom (.beforeValue n) (space ++ '"' :: rest) =
      attributesFrom (.quoted n '"' []) rest := by
  have hmark : Text.isWhiteSpace '"' = false := by decide
  induction space with
  | nil => simp [attributesFrom, Place.step, hmark]
  | cons c space ih =>
    have hc := h c List.mem_cons_self
    simp [attributesFrom, Place.step, hc, ih fun d hd => h d (List.mem_cons_of_mem c hd)]

/-- A value goes up to the next mark of its kind. -/
theorem attributesFrom_value {mark : Char} {value : List Char} (h : mark ∉ value)
    (n v rest : List Char) : attributesFrom (.quoted n mark v) (value ++ mark :: rest) =
      ⟨n, v ++ value⟩ :: attributesFrom .between rest := by
  induction value generalizing v with
  | nil => simp [attributesFrom, Place.step]
  | cons c value ih =>
    obtain ⟨hc, hvalue⟩ := List.ne_and_not_mem_of_not_mem_cons h
    simp [attributesFrom, Place.step, hc.symm, ih hvalue]

/-- An attribute that is written outside values is read as it is written. Its name begins with what
has been read of a name before. -/
theorem attributesFrom_quotedAttribute {p : Place} (hp : ¬p.InValue)
    {letters space space' value : List Char} (hletters : ∀ c ∈ letters, IsNameChar c)
    (hne : letters ≠ []) (hspace : ∀ c ∈ space, Text.isWhiteSpace c = true)
    (hspace' : ∀ c ∈ space', Text.isWhiteSpace c = true) (hvalue : '"' ∉ value)
    (rest : List Char) :
    attributesFrom p (quotedAttribute letters space space' value ++ rest) =
      p.overtaken.toList ++ ⟨p.begun ++ letters, value⟩ :: attributesFrom .between rest := by
  obtain ⟨c, letters, rfl⟩ := List.exists_cons_of_ne_nil hne
  calc attributesFrom p (quotedAttribute (c :: letters) space space' value ++ rest)
      = p.overtaken.toList ++ attributesFrom (.name (p.begun ++ [c]))
          (letters ++ (space ++ '=' :: (space' ++ '"' :: (value ++ '"' :: rest)))) := by
        rw [quotedAttribute_append, List.cons_append,
          attributesFrom_letter hp (hletters c List.mem_cons_self)]
    _ = p.overtaken.toList ++ attributesFrom (.name (p.begun ++ c :: letters))
          (space ++ '=' :: (space' ++ '"' :: (value ++ '"' :: rest))) := by
        rw [attributesFrom_letters fun d hd => hletters d (List.mem_cons_of_mem c hd),
          ← List.append_cons]
    _ = p.overtaken.toList ++ attributesFrom (.quoted (p.begun ++ c :: letters) '"' [])
          (value ++ '"' :: rest) := by
        rw [(attributesFrom_equals hspace _ _).1, attributesFrom_mark hspace']
    _ = p.overtaken.toList ++ ⟨p.begun ++ c :: letters, value⟩ ::
          attributesFrom .between rest := by rw [attributesFrom_value hvalue, List.nil_append]

end InteractiveBook.Html
