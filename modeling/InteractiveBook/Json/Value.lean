import InteractiveBook.Json.Binary64

/-!
# JSON values

A JSON value with the members of its objects in order. The canonical form of a value has the
members of every object in ascending order of their keys and no key twice.
-/

namespace InteractiveBook

/-- A JSON number: an integer or a binary number of double precision. -/
inductive Json.Number where
  /-- An integer. -/
  | int (n : Int)
  /-- A finite number of double precision. -/
  | real (x : Json.Binary64)
  deriving DecidableEq, Repr

/-- A JSON value. -/
inductive Json where
  /-- The null value. -/
  | null
  /-- A truth value. -/
  | bool (b : Bool)
  /-- A number. -/
  | number (n : Json.Number)
  /-- A text. -/
  | string (s : String)
  /-- A sequence of values. -/
  | array (items : List Json)
  /-- Named values, in order. -/
  | object (members : List (String × Json))
  deriving Repr, Inhabited

namespace Json

/-- A natural number as a value. -/
def ofNat (n : Nat) : Json := number (.int n)

/-- A text, or null when there is none. -/
def ofOption (s? : Option String) : Json :=
  match s? with
  | some s => string s
  | none => null

/-- Members with one more, which replaces an earlier one of the same key. The members are in
ascending order of their keys. -/
def insertMember (key : String) (value : Json) : List (String × Json) → List (String × Json)
  | [] => [(key, value)]
  | (k, v) :: rest =>
    if key = k then (key, value) :: rest
    else if key < k then (key, value) :: (k, v) :: rest
    else (k, v) :: insertMember key value rest

/-- Members in ascending order of their keys, the last one of each key. -/
def sortMembers (members : List (String × Json)) : List (String × Json) :=
  members.foldl (fun sorted m => insertMember m.1 m.2 sorted) []

mutual

/-- The value with the members of every object sorted. -/
def canonical : Json → Json
  | array items => array (canonicalItems items)
  | object members => object (sortMembers (canonicalMembers members))
  | null => null
  | bool b => bool b
  | number n => number n
  | string s => string s

/-- The items of an array in canonical form. -/
def canonicalItems : List Json → List Json
  | [] => []
  | item :: rest => item.canonical :: canonicalItems rest

/-- The members of an object with their values in canonical form, in unchanged order. -/
def canonicalMembers : List (String × Json) → List (String × Json)
  | [] => []
  | (key, value) :: rest => (key, value.canonical) :: canonicalMembers rest

end

/-- The value of the member of a key, if there is one. -/
def member? (key : String) : Json → Option Json
  | object members => (members.find? fun m => m.1 = key).map (·.2)
  | _ => none

end Json

end InteractiveBook
