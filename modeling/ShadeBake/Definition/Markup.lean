import ShadeBake.Definition.Entity
import ShadeBake.Dict
import ShadeBake.Text.Blank

/-! Tags and their attributes in the text of a definition file. -/

namespace ShadeBake

namespace Markup

/-- The rest of a tag after a quote that is still open, around its closing bracket. -/
def splitTagIn : Option Char → List Char → Option (List Char × List Char)
  | _, [] => none
  -- In quotes a bracket is text.
  | some quote, c :: rest =>
    (splitTagIn (if c = quote then none else some quote) rest).map fun (tag, after) => (c :: tag, after)
  | none, c :: rest =>
    if c = '>' then some ([], rest)
    else
      let quote := if c = '"' || c = '\'' then some c else none
      (splitTagIn quote rest).map fun (tag, after) => (c :: tag, after)

/-- A text cut at the bracket that closes its first tag; brackets within quotes do not count. -/
def splitTag (text : List Char) : Option (List Char × List Char) :=
  splitTagIn none text

/-- The two parts of a cut tag and its bracket make up the text. -/
theorem length_splitTagIn {quote : Option Char} {text tag after : List Char}
    (found : splitTagIn quote text = some (tag, after)) :
    tag.length + after.length + 1 = text.length := by
  induction text generalizing quote tag with
  | nil => cases quote <;> simp [splitTagIn] at found
  | cons c rest ih =>
    cases quote with
    -- Within quotes no bracket closes the tag.
    | some q =>
      simp only [splitTagIn, Option.map_eq_some_iff, Prod.mk.injEq, Prod.exists] at found
      obtain ⟨inner, later, cut, rfl, rfl⟩ := found
      have shorter := ih cut
      simp only [List.length_cons]
      omega
    | none =>
      simp only [splitTagIn] at found
      split at found
      -- The closing bracket itself is in neither part.
      · simp only [Option.some.injEq, Prod.mk.injEq] at found
        obtain ⟨rfl, rfl⟩ := found
        simp
      · simp only [Option.map_eq_some_iff, Prod.mk.injEq, Prod.exists] at found
        obtain ⟨inner, later, cut, rfl, rfl⟩ := found
        have shorter := ih cut
        simp only [List.length_cons]
        omega

/-- What follows a cut tag is shorter than the text. -/
theorem length_splitTag_lt {text tag after : List Char} (cut : splitTag text = some (tag, after)) :
    after.length < text.length := by
  -- The closing bracket at least is missing.
  have parts := length_splitTagIn cut
  omega

/-- The name that stands right before an equals sign: the last piece of the text there. -/
def nameBefore (text : List Char) : List Char :=
  -- Blanks may stand between the name and the equals sign.
  let trimmed := Text.trimEnd text
  (trimmed.reverse.takeWhile fun c => !Text.isBlank c).reverse

/-- What follows a value in quotes is shorter than the text that it was found in. -/
theorem length_afterValue_lt {text value inner rest : List Char} {quote : Char}
    (opened : Text.trimStart text = quote :: value)
    (closed : Text.splitAt? [quote] value = some (inner, rest)) : rest.length < text.length := by
  -- The value lies within the trimmed text, and trimming only shortens.
  have within := Text.length_splitAt?_lt (List.cons_ne_nil quote []) closed
  have trimmed : (quote :: value).length ≤ text.length := by
    rw [← opened]
    exact (List.dropWhile_sublist _).length_le
  simp only [List.length_cons] at trimmed
  omega

/-- The attributes in the body of a tag, in order, with their values as written. An equals sign that no
quote follows is passed over, and a quote that is not closed ends the tag. -/
def writtenAttributes (tag : List Char) : List (List Char × List Char) :=
  match found : Text.splitAt? ['='] tag with
  | none => []
  | some (before, after) =>
    have short : after.length < tag.length :=
      Text.length_splitAt?_lt (List.cons_ne_nil _ _) found
    match opened : Text.trimStart after with
    | [] => []
    | quote :: value =>
      if quote = '"' || quote = '\'' then
        match closed : Text.splitAt? [quote] value with
        | none => []
        | some (inner, rest) =>
          have : rest.length < tag.length := Nat.lt_trans (length_afterValue_lt opened closed) short
          (nameBefore before, inner) :: writtenAttributes rest
      -- A value without quotes is passed over, and so is its name.
      else writtenAttributes after
  termination_by tag.length

/-- The attributes in the body of a tag by name, decoded; of attributes with one name the last counts. -/
def attributes (tag : List Char) : Dict String :=
  Dict.ofList <| ((writtenAttributes tag).filter (·.1 ≠ [])).map fun (name, value) =>
    (String.ofList name, String.ofList (Entity.decode value))

/-- The name of a tag ends here: at a blank, a slash or a bracket. -/
def endsName : List Char → Bool
  | [] => false
  | c :: _ => Text.isBlank c || c = '/' || c = '>'

/-- The attributes of every tag with a name, in order; a tag that is not closed runs to the end. -/
def tags (name text : List Char) : List (Dict String) :=
  match found : Text.splitAt? ('<' :: name) text with
  | none => []
  | some (_, body) =>
    have shorter : body.length < text.length :=
      Text.length_splitAt?_lt (List.cons_ne_nil _ _) found
    if endsName body then
      match cut : splitTag body with
      | none => [attributes body]
      | some (tag, after) =>
        have : after.length < text.length := Nat.lt_trans (length_splitTag_lt cut) shorter
        attributes tag :: tags name after
    -- The name goes on, so it is that of another element.
    else tags name body
  termination_by text.length

end Markup

end ShadeBake
