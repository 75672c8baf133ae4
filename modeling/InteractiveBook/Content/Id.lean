import InteractiveBook.Text.Decimal

/-!
# Identifiers of content objects

Every content object carries an identifier that no other object of the book has. Building draws
identifiers one after the other from an endless supply; how many were drawn is all the state that
building needs.
-/

namespace InteractiveBook.Content

/-- The identifier of a content object. -/
structure SubContentId where
  /-- The written form. -/
  text : String
  deriving DecidableEq, Repr

/-- An endless supply of identifiers. -/
abbrev IdSource := Nat → SubContentId

/-- Building that draws identifiers: from a supply and the number drawn so far it gives a result
and the number drawn afterwards. -/
abbrev Draw := ReaderT IdSource (StateM Nat)

/-- Draws the next identifier. -/
def drawId : Draw SubContentId := do
  let n ← get
  set (n + 1)
  return (← read) n

/-- The result of building from the start of a supply. -/
def Draw.run' {α : Type} (d : Draw α) (ids : IdSource) : α := (ReaderT.run d ids 0).1

/-- The supply behind the first identifiers of another one. -/
def IdSource.drop (ids : IdSource) (n : Nat) : IdSource := fun k => ids (n + k)

/-- Supplies for parts that are built independently of each other: one for each part. -/
abbrev IdLanes := Nat → IdSource

/-- A number written with small hexadecimal digits, at least so many. -/
def hexDigits (width n : Nat) : String := Text.paddedDigits 16 width n

/-- The supplies of a run. An identifier has the form of a random one: five groups of hexadecimal
digits, the version digit four and the variant digit eight. The first group numbers the part, the
last one the draws, and the rest is the seed of the run. -/
def IdLanes.ofSeed (seed : Nat) : IdLanes := fun lane n =>
  ⟨hexDigits 8 lane ++ "-" ++ hexDigits 4 (seed / 0x1000000 % 0x10000) ++ "-4"
    ++ hexDigits 3 (seed / 0x1000 % 0x1000) ++ "-8" ++ hexDigits 3 (seed % 0x1000) ++ "-"
    ++ hexDigits 12 n⟩

end InteractiveBook.Content
