import ShadeBake.Binary.Written
import ShadeBake.Document.Basic

/-! Names for the children of a document: nodes outside all graphs, and graphs. -/

namespace ShadeBake

namespace Document

/-- The names of all children. -/
def childNames (document : Document) : List String :=
  document.nodes.map (·.name) ++ document.graphs.map (·.name)

/-- A name has a character where names may have it. -/
def isNameCharacter (c : Char) : Bool :=
  c.isAlphanum || c = '_'

/-- A text made into a name: other characters become underscores, and one is put before a digit or
nothing. -/
def nameBase (text : List Char) : List Char :=
  -- Each character is judged alone, so the length stays but for the one in front.
  let chars := text.map fun c => if isNameCharacter c then c else '_'
  match chars with
  | [] => ['_']
  | c :: _ => if c.isDigit then '_' :: chars else chars

/-- The name without the digits at its end. -/
def nameStem (base : List Char) : List Char :=
  (base.reverse.dropWhile Char.isDigit).reverse

/-- The names that are tried for a taken base, one more than there are children. -/
def candidates (stem : List Char) (count : Nat) : List String :=
  (List.range (count + 1)).map fun n => String.ofList (stem ++ Decimal.digitsOf (n + 2))

/-- A valid name that no child has: the text made into a name if that is free, and else its stem with the
first free number from two on. -/
def freshName (document : Document) (text : String) : String :=
  let base := nameBase text.toList
  let taken := document.childNames
  if String.ofList base ∈ taken then
    -- There are more candidates than children, so one of them is free.
    ((candidates (nameStem base) taken.length).find? (· ∉ taken)).getD (String.ofList base)
  else String.ofList base

/-- The document with a new graph under a valid name that no child has. -/
def addGraph (document : Document) (name : String) : Document :=
  { document with graphs := document.graphs ++ [{ name := document.freshName name }] }

end Document

end ShadeBake
