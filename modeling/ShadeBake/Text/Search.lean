/-! Finding, removing and replacing a fixed piece of text. -/

namespace ShadeBake

namespace Text

/-- The text after a given beginning, if it begins so. -/
def after? : (beginning text : List Char) → Option (List Char)
  | [], text => some text
  | _ :: _, [] => none
  | b :: beginning, c :: text => if b = c then after? beginning text else none

/-- What is after a beginning makes up the text with it. -/
theorem after?_eq_some_iff {beginning text rest : List Char} :
    after? beginning text = some rest ↔ text = beginning ++ rest := by
  -- Both texts lose one character at every step.
  induction beginning generalizing text with
  | nil => simp [after?, eq_comm]
  | cons b beginning ih =>
    cases text with
    | nil => simp [after?]
    | cons c text =>
      by_cases same : b = c
      · simp [after?, same, ih]
      -- Different first characters leave nothing to compare.
      · simp [after?, same, Ne.symm same]

/-- The text around the first place where a piece occurs: what is before it and what is after it. -/
def splitAt? (piece : List Char) : List Char → Option (List Char × List Char)
  | [] => (after? piece []).map ([], ·)
  | c :: rest =>
    match after? piece (c :: rest) with
    | some tail => some ([], tail)
    | none => (splitAt? piece rest).map fun (before, tail) => (c :: before, tail)

/-- The parts around a found piece make up the text with it. -/
theorem eq_append_of_splitAt? {piece text before rest : List Char}
    (found : splitAt? piece text = some (before, rest)) : text = before ++ piece ++ rest := by
  -- The search moves on one character at a time, which goes to the part in front.
  induction text generalizing before with
  | nil =>
    simp only [splitAt?, Option.map_eq_some_iff, Prod.mk.injEq] at found
    obtain ⟨tail, located, rfl, rfl⟩ := found
    simpa using after?_eq_some_iff.1 located
  | cons c text ih =>
    simp only [splitAt?] at found
    split at found
    -- The piece begins right here.
    · rename_i tail located
      simp only [Option.some.injEq, Prod.mk.injEq] at found
      obtain ⟨rfl, rfl⟩ := found
      simpa using after?_eq_some_iff.1 located
    -- The piece lies further on, and this character is in front of it.
    · simp only [Option.map_eq_some_iff, Prod.mk.injEq, Prod.exists] at found
      obtain ⟨earlier, tail, located, rfl, rfl⟩ := found
      rw [ih located]
      simp

/-- The lengths of the parts around a found piece and of the piece add up to that of the text. -/
theorem length_splitAt? {piece text before rest : List Char}
    (found : splitAt? piece text = some (before, rest)) :
    before.length + piece.length + rest.length = text.length := by
  -- The text is what stands before the piece, the piece, and what follows.
  rw [eq_append_of_splitAt? found]
  simp only [List.length_append]

/-- What follows a found piece is shorter than the text, unless the piece is empty. -/
theorem length_splitAt?_lt {piece text before rest : List Char} (nonempty : piece ≠ [])
    (found : splitAt? piece text = some (before, rest)) : rest.length < text.length := by
  -- The piece itself is missing from what follows it.
  have whole := length_splitAt? found
  have long := List.length_pos_iff.2 nonempty
  omega

/-- A text contains a piece when the piece occurs somewhere in it. -/
def containsPiece (piece text : List Char) : Bool :=
  (splitAt? piece text).isSome

/-- The text with each occurrence of a piece replaced, from the left and without looking at what was
put in; an empty piece replaces nothing. -/
def replaceAll (piece new text : List Char) : List Char :=
  match found : splitAt? piece text with
  | some (before, rest) =>
    if nonempty : piece = [] then text
    else
      have : rest.length < text.length := length_splitAt?_lt nonempty found
      before ++ new ++ replaceAll piece new rest
  | none => text
  termination_by text.length

/-- The text before the last occurrence of a character, and the text after it. -/
def splitLast? (c : Char) (text : List Char) : Option (List Char × List Char) :=
  -- A text without the character is all tail.
  let tail := (text.reverse.takeWhile (· ≠ c)).reverse
  if tail.length < text.length then some (text.take (text.length - tail.length - 1), tail) else none

end Text

end ShadeBake
