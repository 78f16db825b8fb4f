import ShadeBake.Text.Search

/-! The five named entities of markup. -/

namespace ShadeBake

namespace Entity

/-- The entities and the characters that they stand for, the ampersand last. -/
def all : List (List Char × Char) :=
  [(['&', 'l', 't', ';'], '<'),
    (['&', 'g', 't', ';'], '>'),
    (['&', 'q', 'u', 'o', 't', ';'], '"'),
    (['&', 'a', 'p', 'o', 's', ';'], '\''),
    (['&', 'a', 'm', 'p', ';'], '&')]

/-- The text with its entities replaced, one kind after the other. The ampersand comes last, so no
replacement makes up an entity for a later one. -/
def decode (text : List Char) : List Char :=
  all.foldl (fun text entity => Text.replaceAll entity.1 [entity.2] text) text

end Entity

end ShadeBake
