/-! White space as the Unicode property `White_Space` has it, and the trimming and splitting done at it. -/

namespace ShadeBake

namespace Text

/-- The ranges of the property `White_Space`, ends included. -/
def blankRanges : List (Nat × Nat) :=
  [(0x09, 0x0D), (0x20, 0x20), (0x85, 0x85), (0xA0, 0xA0), (0x1680, 0x1680), (0x2000, 0x200A),
    (0x2028, 0x2029), (0x202F, 0x202F), (0x205F, 0x205F), (0x3000, 0x3000)]

/-- A character is blank when it has the property `White_Space`. -/
def isBlank (c : Char) : Bool :=
  blankRanges.any fun range => range.1 ≤ c.toNat && c.toNat ≤ range.2

/-- The text from its first character that is not blank. -/
def trimStart (text : List Char) : List Char :=
  text.dropWhile isBlank

/-- The text up to its last character that is not blank. -/
def trimEnd (text : List Char) : List Char :=
  (text.reverse.dropWhile isBlank).reverse

/-- The text without the blanks at its two ends. -/
def trim (text : List Char) : List Char :=
  trimEnd (trimStart text)

/-- The string without the blanks at its two ends. -/
def trimmed (text : String) : String :=
  String.ofList (trim text.toList)

/-- The pieces of a text between the characters that a test picks, empty pieces included. -/
def splitOn (cut : Char → Bool) : List Char → List (List Char)
  | [] => [[]]
  | c :: rest =>
    if cut c then [] :: splitOn cut rest
    else
      match splitOn cut rest with
      -- The rest always has a piece, so this is for the sake of the match.
      | [] => [[c]]
      | piece :: pieces => (c :: piece) :: pieces

/-- There is always a piece, if only an empty one. -/
theorem splitOn_ne_nil (cut : Char → Bool) (text : List Char) : splitOn cut text ≠ [] := by
  -- A cut opens a piece of its own, and any other character joins the piece behind it.
  cases text with
  | nil => simp [splitOn]
  | cons c rest =>
    simp only [splitOn]
    split
    · simp
    · split <;> simp

/-- The words of a text: its longest pieces without blanks. -/
def words (text : List Char) : List (List Char) :=
  (splitOn isBlank text).filter (· ≠ [])

/-- A line without the carriage return that stood before its line feed. -/
def dropReturn (line : List Char) : List Char :=
  if line.getLast? = some '\r' then line.dropLast else line

/-- The lines of pieces cut at line feeds: only a piece that a line feed ended can lose a carriage
return, and an empty last piece is no line. -/
def linesOfPieces : List (List Char) → List (List Char)
  | [] => []
  | [last] => if last = [] then [] else [last]
  | piece :: next :: rest => dropReturn piece :: linesOfPieces (next :: rest)

/-- The lines of a text, each without its line feed and the carriage return before that. -/
def lines (text : List Char) : List (List Char) :=
  linesOfPieces (splitOn (· = '\n') text)

end Text

end ShadeBake
