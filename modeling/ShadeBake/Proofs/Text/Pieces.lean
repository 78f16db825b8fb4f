import ShadeBake.Text.Blank

/-! The pieces, words and lines of a text: each cut parts them, and blanks around a text are in none of its
words. -/

namespace ShadeBake

namespace Text

variable {cut : Char → Bool} {c : Char}

/-- A text has the pieces of what is before a cut, and then those of what is behind it. -/
theorem splitOn_append_cut (isCut : cut c = true) (front rest : List Char) :
    splitOn cut (front ++ c :: rest) = splitOn cut front ++ splitOn cut rest := by
  induction front with
  | nil => simp [splitOn, isCut]
  | cons head front ih =>
    rw [List.cons_append, splitOn, splitOn, ih]
    split
    · rfl
    -- The head joins the first piece, which is the same in both texts.
    · cases parts : splitOn cut front with
      | nil => exact absurd parts (splitOn_ne_nil cut front)
      | cons piece pieces => rfl

/-- There is one piece more than there are cuts. -/
theorem length_splitOn (cut : Char → Bool) (text : List Char) :
    (splitOn cut text).length = text.countP cut + 1 := by
  -- Each cut opens one more piece.
  induction text with
  | nil => rfl
  | cons head rest ih =>
    rw [splitOn, List.countP_cons]
    split
    · simp only [List.length_cons, ih]
    · cases parts : splitOn cut rest with
      | nil => exact absurd parts (splitOn_ne_nil cut rest)
      | cons piece pieces =>
        rw [parts] at ih
        simp only [List.length_cons] at ih ⊢
        omega

/-- A text that lacks the cut is one piece. -/
theorem splitOn_of_uncut {text : List Char} (uncut : ∀ c ∈ text, cut c = false) : splitOn cut text = [text] := by
  -- No character opens a piece.
  induction text with
  | nil => rfl
  | cons head rest ih =>
    rw [List.forall_mem_cons] at uncut
    simp [splitOn, uncut.1, ih uncut.2]

/-! ### Words -/

/-- A text has the words of what is before a blank, and then those of what is behind it. -/
theorem words_append_blank (blank : isBlank c = true) (front rest : List Char) :
    words (front ++ c :: rest) = words front ++ words rest := by
  -- The pieces are cut at the blank, and a piece is a word on its own.
  unfold words
  rw [splitOn_append_cut blank, List.filter_append]

/-- A text has the words of what is behind the blanks at its front. -/
theorem words_trimStart (text : List Char) : words (trimStart text) = words text := by
  induction text with
  | nil => rfl
  | cons head rest ih =>
    unfold trimStart
    rw [List.dropWhile_cons]
    split
    -- A blank in front is one cut, with no word before it.
    · rename_i blank
      have behind := words_append_blank blank [] rest
      rw [List.nil_append] at behind
      rw [behind]
      exact ih
    · rfl

/-- A text has the words of what is before the blanks at its end. -/
theorem words_trimEnd (text : List Char) : words (trimEnd text) = words text := by
  -- The blanks are taken away from the end.
  rw [← List.reverse_reverse text]
  induction text.reverse with
  | nil => rfl
  | cons last front ih =>
    unfold trimEnd at ih ⊢
    rw [List.reverse_reverse] at ih ⊢
    rw [List.dropWhile_cons]
    split
    · rename_i blank
      rw [ih, List.reverse_cons, words_append_blank blank]
      exact (List.append_nil _).symm
    · rfl

/-- A text has the words of the text that is left without the blanks at its ends. -/
theorem words_trim (text : List Char) : words (trim text) = words text := by
  -- Blanks at the ends cut off empty pieces only, and these are no words.
  unfold trim
  rw [words_trimEnd, words_trimStart]

/-- A text that begins with a character which is not blank has a first word, which begins with it. -/
theorem exists_words_cons (visible : isBlank c = false) (rest : List Char) :
    ∃ word others, words (c :: rest) = (c :: word) :: others := by
  -- The first piece begins with the character, so it is not empty.
  unfold words
  rw [splitOn, if_neg (by simp [visible])]
  cases splitOn isBlank rest with
  | nil => exact ⟨[], [], rfl⟩
  | cons piece pieces => exact ⟨piece, pieces.filter (· ≠ []), rfl⟩

/-- What is left without the blanks at the ends does not begin with a blank. -/
theorem isBlank_head_trim {text : List Char} (begins : (trim text).head? = some c) : isBlank c = false := by
  unfold trim at begins
  cases start : trimStart text with
  | nil => simp [start, trimEnd] at begins
  | cons head rest =>
    -- Only blanks were taken away from the front, and the first character that is none stays at the end too.
    have visible : isBlank head = false := by
      have first := List.head?_dropWhile_not isBlank text
      unfold trimStart at start
      simpa [start] using first
    -- Trimming the end goes no further than to the head, which is no blank.
    have stays : (trimEnd (head :: rest)).head? = some head := by
      unfold trimEnd
      rw [List.reverse_cons, List.dropWhile_append]
      split
      · simp [visible]
      · simp
    rw [start, stays] at begins
    cases begins
    exact visible

/-- A text has no words exactly if nothing is left of it without the blanks at its ends. -/
theorem words_eq_nil_iff {text : List Char} : words text = [] ↔ trim text = [] := by
  -- A trimmed text that is not empty begins with a visible character.
  rw [← words_trim]
  cases left : trim text with
  | nil => simp [words, splitOn]
  | cons head rest =>
    have visible : isBlank head = false := isBlank_head_trim (by rw [left, List.head?_cons])
    obtain ⟨word, others, there⟩ := exists_words_cons visible rest
    simp [there]

/-! ### Lines -/

/-- All pieces but an empty last one are lines. -/
theorem length_linesOfPieces_concat (pieces : List (List Char)) :
    (linesOfPieces (pieces ++ [[]])).length = pieces.length := by
  -- Every piece but the last gives a line.
  induction pieces with
  | nil => rfl
  | cons piece rest ih =>
    cases behind : rest ++ [[]] with
    | nil => simp at behind
    | cons next others =>
      rw [behind] at ih
      rw [List.cons_append, behind, linesOfPieces, List.length_cons, List.length_cons, ih]

/-- A text that ends with a line feed has as many lines as line feeds. -/
theorem length_lines_concat (front : List Char) :
    (lines (front ++ ['\n'])).length = (front ++ ['\n']).count '\n' := by
  unfold lines
  rw [splitOn_append_cut (by simp)]
  have last : splitOn (· = '\n') [] = [[]] := rfl
  rw [last, length_linesOfPieces_concat, length_splitOn, List.count_append]
  -- Line feeds are counted by equality either way.
  have counts : front.countP (· = '\n') = front.count '\n' := by
    unfold List.count
    congr 1
  rw [counts]
  rfl

/-- All pieces in front of others end at a line feed, and so they are lines. -/
theorem linesOfPieces_append (front : List (List Char)) {back : List (List Char)} (nonempty : back ≠ []) :
    linesOfPieces (front ++ back) = front.map dropReturn ++ linesOfPieces back := by
  -- A piece with another one behind it is a line of its own.
  induction front with
  | nil => rfl
  | cons piece rest ih =>
    cases behind : rest ++ back with
    | nil => exact absurd (List.append_eq_nil_iff.1 behind).2 nonempty
    | cons next others => rw [List.cons_append, behind, linesOfPieces, ← behind, ih, List.map_cons, List.cons_append]

/-- A line feed parts the lines of what is before it from those of what is behind it. -/
theorem lines_append_feed (front back : List Char) :
    lines (front ++ '\n' :: back) = (splitOn (· = '\n') front).map dropReturn ++ lines back := by
  -- The text is cut at the line feed, and the lines behind it are read on their own.
  unfold lines
  rw [splitOn_append_cut (by simp), linesOfPieces_append _ (splitOn_ne_nil _ _)]

/-- Lines that hold no line feed and do not end in a carriage return are read back from where each of them is ended by a
line feed. -/
theorem lines_flatMap_append {rows : List (List Char)} (unfed : ∀ row ∈ rows, '\n' ∉ row)
    (kept : ∀ row ∈ rows, dropReturn row = row) (back : List Char) :
    lines (rows.flatMap (· ++ ['\n']) ++ back) = rows ++ lines back := by
  -- Each row is one piece, which loses nothing as a line.
  induction rows with
  | nil => rfl
  | cons row rest ih =>
    rw [List.forall_mem_cons] at unfed kept
    have whole : splitOn (· = '\n') row = [row] :=
      splitOn_of_uncut fun c inside => decide_eq_false fun same => unfed.1 (same ▸ inside)
    rw [List.flatMap_cons, List.append_assoc, List.append_assoc, List.singleton_append, lines_append_feed, whole,
      ih unfed.2 kept.2, List.map_singleton, kept.1, List.singleton_append, List.cons_append]

end Text

end ShadeBake
