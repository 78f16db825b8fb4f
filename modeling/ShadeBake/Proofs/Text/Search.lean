import ShadeBake.Text.Search

/-! Where a piece of text is found, and what is replaced: a search passes over whatever the piece does not
begin in. -/

namespace ShadeBake

namespace Text

variable {marker : Char} {piece front middle rest : List Char}

/-- A search passes over a front when it finds the same as in the rest alone, behind the front. -/
def Passes (piece front rest : List Char) : Prop :=
  splitAt? piece (front ++ rest) = (splitAt? piece rest).map fun (before, after) => (front ++ before, after)

/-- A search that does not succeed at once goes on behind the first character. -/
theorem splitAt?_cons {c : Char} {text : List Char} (away : after? piece (c :: text) = none) :
    splitAt? piece (c :: text) = (splitAt? piece text).map fun (before, after) => (c :: before, after) := by
  -- The piece does not begin here, so the search goes on.
  rw [splitAt?, away]

/-- A piece is found at the front of a text that begins with it. -/
theorem splitAt?_self (piece rest : List Char) : splitAt? piece (piece ++ rest) = some ([], rest) := by
  -- The piece is found at once.
  have here : after? piece (piece ++ rest) = some rest := after?_eq_some_iff.2 rfl
  cases text : piece ++ rest with
  | nil => rw [splitAt?, ← text, here, Option.map_some]
  | cons c later => rw [splitAt?, ← text, here]

/-- Nothing is after a beginning exactly if the text does not begin so. -/
theorem after?_eq_none_iff {text : List Char} : after? piece text = none ↔ ¬piece <+: text := by
  -- A text that begins with the piece has something behind it.
  rw [Option.eq_none_iff_forall_ne_some]
  constructor
  · rintro absent ⟨later, rfl⟩
    exact absent later (after?_eq_some_iff.2 rfl)
  · exact fun away later found => away ⟨later, (after?_eq_some_iff.1 found).symm⟩

/-- A text begins with no piece whose first character is another one. -/
theorem after?_of_ne {c : Char} (other : c ≠ marker) (piece text : List Char) :
    after? (marker :: piece) (c :: text) = none := by
  -- The first characters differ already.
  rw [after?, if_neg (Ne.symm other)]

namespace Passes

/-- A search passes over nothing. -/
theorem nil : Passes piece [] rest := by
  -- There is no place before an empty text at which the piece could begin.
  simp [Passes]

/-- A search that passes over two texts, one after the other, passes over both. -/
theorem append (first : Passes piece front (middle ++ rest)) (second : Passes piece middle rest) :
    Passes piece (front ++ middle) rest := by
  -- The search passes the first text and then the second.
  unfold Passes at *
  rw [List.append_assoc, first, second, Option.map_map]
  simp [Function.comp_def]

/-- A search passes over a character that the piece does not begin at, and then over others. -/
theorem cons {c : Char} (away : after? piece (c :: (front ++ rest)) = none) (passes : Passes piece front rest) :
    Passes piece (c :: front) rest := by
  -- The piece is not found at the first character, so the search goes on behind it.
  unfold Passes at *
  rw [List.cons_append, splitAt?_cons away, passes, Option.map_map]
  rfl

/-- The piece itself is found behind what a search for it passes over. -/
theorem found (passes : Passes piece front (piece ++ rest)) :
    splitAt? piece (front ++ (piece ++ rest)) = some (front, rest) := by
  -- The piece is found at the beginning of what follows.
  rw [passes, splitAt?_self]
  simp

end Passes

/-- A search passes over a text without the piece's marker. -/
theorem passes_of_not_mem (absent : marker ∉ front) (piece rest : List Char) :
    Passes (marker :: piece) front rest := by
  -- The piece begins with the marker, so it is not found at any character.
  induction front with
  | nil => exact .nil
  | cons c front ih =>
    rw [List.mem_cons, not_or] at absent
    exact .cons (after?_of_ne (Ne.symm absent.1) piece (front ++ rest)) (ih absent.2)

/-- A piece that begins with a marker is not found where the marker does not occur. -/
theorem splitAt?_of_not_mem (absent : marker ∉ front) (piece : List Char) :
    splitAt? (marker :: piece) front = none := by
  -- Behind the text there is nothing to be found either.
  have passes := passes_of_not_mem absent piece []
  rwa [Passes, List.append_nil, splitAt?, after?, Option.map_none, Option.map_none] at passes

/-- A search passes over a text that has the piece's marker at the front alone and does not begin with the
piece. -/
theorem passes_of_away (away : after? piece (front ++ rest) = none) (absent : marker ∉ front) :
    Passes (marker :: piece) (marker :: front) rest := by
  -- Only the marker in front could begin the piece, and it does not.
  refine .cons ?_ (passes_of_not_mem absent piece rest)
  rw [after?, if_pos rfl, away]

/-- A piece that a text does not begin with cannot begin there and reach on into a text that begins with a
marker that the piece lacks. -/
theorem after?_append (single : marker ∉ piece) (away : after? piece front = none)
    (begins : ∀ c ∈ rest.head?, c = marker) : after? piece (front ++ rest) = none := by
  -- The piece is compared character by character, and the text differs from it or ends before it.
  induction piece generalizing front with
  | nil => simp [after?] at away
  | cons p piece ih =>
    rw [List.mem_cons, not_or] at single
    cases front with
    -- What follows begins with the marker, or is empty.
    | nil =>
      cases rest with
      | nil => rfl
      | cons c rest =>
        have same : c = marker := begins c rfl
        rw [List.nil_append, same]
        exact after?_of_ne single.1 piece rest
    | cons c front =>
      rw [List.cons_append, after?]
      by_cases same : p = c
      · rw [if_pos same]
        rw [after?, if_pos same] at away
        exact ih single.2 away
      · rw [if_neg same]

/-- A search passes over a text that does not contain the piece, when what follows begins with the piece's
marker. -/
theorem passes_of_free (single : marker ∉ piece) (free : splitAt? (marker :: piece) front = none)
    (begins : ∀ c ∈ rest.head?, c = marker) : Passes (marker :: piece) front rest := by
  induction front with
  | nil => exact .nil
  | cons c front ih =>
    -- Nothing is found in the front, so nothing is found at its first character.
    have away : after? (marker :: piece) (c :: front) = none := by
      cases here : after? (marker :: piece) (c :: front) with
      | none => rfl
      | some later => simp [splitAt?, here] at free
    rw [splitAt?_cons away, Option.map_eq_none_iff] at free
    refine .cons ?_ (ih free)
    -- The piece does not begin at this character, whatever follows.
    by_cases same : marker = c
    · subst same
      rw [after?, if_pos rfl] at away ⊢
      exact after?_append single away begins
    · exact after?_of_ne (Ne.symm same) piece _

/-- A piece is found in a text exactly if it occurs there. -/
theorem splitAt?_eq_none_iff {text : List Char} : splitAt? piece text = none ↔ ¬piece <:+: text := by
  constructor
  · intro free
    rintro ⟨before, after, rfl⟩
    -- By induction on what stands before the piece: the search stops there or goes on.
    induction before with
    | nil => simp [splitAt?_self] at free
    | cons c before ih =>
      cases here : after? piece (c :: before ++ piece ++ after) with
      | none =>
        simp only [List.cons_append] at here free
        rw [splitAt?_cons here, Option.map_eq_none_iff] at free
        exact ih free
      | some later =>
        simp only [List.cons_append] at here free
        rw [splitAt?, here] at free
        simp at free
  -- Where something is found, the text is made of what stands around it.
  · intro absent
    cases found : splitAt? piece text with
    | none => rfl
    | some parts => exact absurd ⟨parts.1, parts.2, (eq_append_of_splitAt? found).symm⟩ absent

/-- What is found in a text is found there too when the text goes on. -/
theorem splitAt?_append {text before after : List Char} (found : splitAt? piece text = some (before, after))
    (rest : List Char) : splitAt? piece (text ++ rest) = some (before, after ++ rest) := by
  induction text generalizing before with
  | nil =>
    -- Only the empty piece is found in nothing.
    have whole := eq_append_of_splitAt? found
    simp only [List.nil_eq, List.append_eq_nil_iff] at whole
    obtain ⟨⟨rfl, rfl⟩, rfl⟩ := whole
    exact splitAt?_self [] rest
  | cons c text ih =>
    cases here : after? piece (c :: text) with
    | some later =>
      rw [splitAt?, here] at found
      cases found
      rw [after?_eq_some_iff.1 here, List.append_assoc]
      exact splitAt?_self piece (after ++ rest)
    | none =>
      rw [splitAt?_cons here, Option.map_eq_some_iff] at found
      obtain ⟨⟨earlier, later⟩, located, same⟩ := found
      cases same
      -- The piece lies within what follows, so it would begin here without what comes behind.
      have away : after? piece (c :: (text ++ rest)) = none := by
        rw [after?_eq_none_iff] at here ⊢
        have long := length_splitAt? located
        exact fun begins => here (List.prefix_of_prefix_length_le begins
          (List.prefix_append (c :: text) rest) (by rw [List.length_cons]; omega))
      rw [List.cons_append, splitAt?_cons away, ih located, Option.map_some]

/-- A piece that does not have a text's last character before its own last one does not reach beyond the text. -/
theorem isPrefix_of_last {last : Char} (inner : last ∉ piece.dropLast)
    (begins : piece <+: front ++ last :: rest) : piece <+: front ++ [last] := by
  -- The piece could go on behind the last character only by having it further in.
  rw [List.append_cons] at begins
  rcases List.prefix_or_prefix_of_prefix begins (List.prefix_append (front ++ [last]) rest) with
    within | ⟨beyond, rfl⟩
  · exact within
  · cases beyond with
    | nil =>
      rewrite [List.append_nil]
      exact List.prefix_refl (front ++ [last])
    | cons c beyond =>
      rw [List.dropLast_append_cons] at inner
      exact absurd (List.mem_append_left _ (List.mem_append_right _ (List.mem_singleton_self last))) inner

/-- A search passes over a text that does not contain the piece, when the piece does not have the text's last
character before its own last one. -/
theorem passes_of_last {last : Char} (inner : last ∉ piece.dropLast) (free : ¬piece <:+: front ++ [last])
    (rest : List Char) : Passes piece (front ++ [last]) rest := by
  -- From no place in the front does the piece begin, as it would end within the text.
  have away : ∀ {back : List Char}, back <:+ front → after? piece (back ++ last :: rest) = none := by
    rintro back ⟨before, rfl⟩
    rw [after?_eq_none_iff]
    intro begins
    have within := (isPrefix_of_last inner begins).isInfix
    exact free (within.trans ⟨before, [], by simp⟩)
  clear free
  induction front with
  | nil => exact .cons (away (List.nil_suffix)) .nil
  | cons c front ih =>
    refine .cons ?_ (ih fun {back} ends => away (ends.trans (List.suffix_cons c front)))
    simpa using away (List.suffix_refl (c :: front))

/-- A piece is found behind a text that does not contain it. -/
theorem splitAt?_found (single : marker ∉ piece) (free : splitAt? (marker :: piece) front = none)
    (rest : List Char) :
    splitAt? (marker :: piece) (front ++ (marker :: piece ++ rest)) = some (front, rest) :=
  -- The front has no piece, and none that begins in it reaches over its end.
  (passes_of_free single free (by simp)).found

/-! ### Replacing -/

/-- A text that does not contain the piece stays. -/
theorem replaceAll_of_none {text : List Char} (new : List Char) (free : splitAt? piece text = none) :
    replaceAll piece new text = text := by
  -- Without the piece the text stays.
  unfold replaceAll
  split
  · rename_i before after found
    rw [free] at found
    simp at found
  · rfl

/-- The first occurrence is replaced, and what follows it in the same way. -/
theorem replaceAll_of_some {text before after : List Char} (nonempty : piece ≠ []) (new : List Char)
    (found : splitAt? piece text = some (before, after)) :
    replaceAll piece new text = before ++ new ++ replaceAll piece new after := by
  -- The first occurrence is replaced, and the search goes on behind it.
  rw [replaceAll]
  split
  · rename_i front behind located
    rw [found] at located
    cases located
    rw [dif_neg nonempty]
  · rename_i missing
    rw [found] at missing
    simp at missing

/-- A piece at the front is replaced. -/
theorem replaceAll_self (nonempty : piece ≠ []) (new rest : List Char) :
    replaceAll piece new (piece ++ rest) = new ++ replaceAll piece new rest := by
  -- The piece is found at the beginning.
  rw [replaceAll_of_some nonempty new (splitAt?_self piece rest), List.nil_append]

/-- A character that the piece does not begin at stays. -/
theorem replaceAll_cons {c : Char} {text : List Char} (nonempty : piece ≠ []) (new : List Char)
    (away : after? piece (c :: text) = none) :
    replaceAll piece new (c :: text) = c :: replaceAll piece new text := by
  -- The first occurrence is the same, only one character later.
  have split := splitAt?_cons away
  cases found : splitAt? piece text with
  | none =>
    rw [found, Option.map_none] at split
    rw [replaceAll_of_none new split, replaceAll_of_none new found]
  | some parts =>
    rw [found, Option.map_some] at split
    rw [replaceAll_of_some nonempty new split, replaceAll_of_some nonempty new found]
    rfl

/-- A beginning without the character that is put in was there before. -/
theorem isPrefix_of_replaceAll {new : Char} {text : List Char} (nonempty : piece ≠ []) (absent : new ∉ front)
    (begins : front <+: replaceAll piece [new] text) : front <+: text := by
  induction front generalizing text with
  | nil => exact List.nil_prefix
  | cons f front ih =>
    rw [List.mem_cons, not_or] at absent
    cases here : after? piece text with
    -- What is put in at the front is not in the beginning.
    | some rest =>
      rw [after?_eq_some_iff.1 here, replaceAll_self nonempty, List.singleton_append] at begins
      exact absurd (List.cons_prefix_cons.1 begins).1.symm absent.1
    | none =>
      cases text with
      | nil =>
        rw [replaceAll_of_none [new] (by rw [splitAt?, here, Option.map_none])] at begins
        exact begins
      | cons c text =>
        -- Nothing is replaced at the first character, so it is compared as it is.
        rw [replaceAll_cons nonempty [new] here] at begins
        obtain ⟨same, further⟩ := List.cons_prefix_cons.1 begins
        exact List.cons_prefix_cons.2 ⟨same, ih absent.2 further⟩

/-- A text without the piece's marker stays. -/
theorem replaceAll_append (absent : marker ∉ front) (piece new rest : List Char) :
    replaceAll (marker :: piece) new (front ++ rest) = front ++ replaceAll (marker :: piece) new rest := by
  induction front with
  | nil => rfl
  -- The first character is not the marker, so nothing is replaced at it.
  | cons c front ih =>
    rw [List.mem_cons, not_or] at absent
    have away := after?_of_ne (Ne.symm absent.1) piece (front ++ rest)
    rw [List.cons_append, replaceAll_cons (List.cons_ne_nil marker piece) new away, ih absent.2,
      List.cons_append]

end Text

end ShadeBake
