import ShadeBake.Proofs.Definition.Markup

/-! Markup as pieces one behind the other, which are texts, tags and comments: a reader of tags that knows no
comments reads the same without them, unless it finds tags in them. -/

namespace ShadeBake

namespace Markup

/-- A text is bracketed when it is empty or ends with a closing bracket. -/
def Bracketed (text : List Char) : Prop :=
  ∀ last ∈ text.getLast?, last = '>'

namespace Bracketed

variable {front text : List Char}

/-- What a bracketed text ends with is bracketed. -/
theorem of_append (bracketed : Bracketed (front ++ text)) : Bracketed text := by
  -- The last character is that of the second text, unless this is empty.
  intro last ends
  exact bracketed last (by rw [List.getLast?_append, ends, Option.some_or]; rfl)

/-- A search for a piece that is not in a bracketed text passes over it, whatever follows, if no bracket stands
in the piece but at its end. -/
theorem passes {piece : List Char} (bracketed : Bracketed text) (inner : '>' ∉ piece.dropLast)
    (free : ¬piece <:+: text) (rest : List Char) : Text.Passes piece text rest := by
  -- A piece that would end in the text would have to end in its last character.
  rcases List.eq_nil_or_concat text with rfl | ⟨front, last, rfl⟩
  · exact .nil
  · rw [List.concat_eq_append] at bracketed free ⊢
    obtain rfl := bracketed last List.getLast?_concat
    exact Text.passes_of_last inner free rest

/-- A bracketed text in which no tag with a name is found adds none to those behind it. -/
theorem tags_append {name : List Char} (bracketed : Bracketed text) (plain : '>' ∉ name)
    (silent : tags name text = []) (rest : List Char) : tags name (text ++ rest) = tags name rest := by
  induction text using tags.induct name with
  | case1 text free =>
    refine Markup.tags_append (bracketed.passes ?_ (Text.splitAt?_eq_none_iff.1 free) rest)
    intro inside
    have member := (List.dropLast_sublist ('<' :: name)).mem inside
    rw [List.mem_cons, or_iff_right (by decide)] at member
    exact plain member
  -- A tag here would be read.
  | case2 text before body found shorter ends open' =>
    rw [tags_of_some found, if_pos ends, open'] at silent
    exact absurd silent (List.cons_ne_nil _ _)
  | case3 text before body found shorter ends tag after cut less ih =>
    rw [tags_of_some found, if_pos ends, cut] at silent
    exact absurd silent (List.cons_ne_nil _ _)
  -- A longer name stands here, and the search goes on behind it.
  | case4 text before body found shorter longer ih =>
    have whole := Text.eq_append_of_splitAt? found
    rw [tags_of_some found, if_neg longer] at silent
    have same : endsName (body ++ rest) = endsName body := by
      cases body with
      | cons c body => rfl
      -- The text ends with a bracket, which the name does not.
      | nil =>
        rw [List.append_nil] at whole
        have nonempty := List.cons_ne_nil '<' name
        have bracket := of_append (whole ▸ bracketed) _ (List.getLast?_eq_some_getLast nonempty)
        have member := List.getLast_mem nonempty
        rw [bracket, List.mem_cons, or_iff_right (by decide)] at member
        exact absurd member plain
    rw [tags_of_some (Text.splitAt?_append found rest), same, if_neg longer]
    exact ih (of_append (whole ▸ bracketed)) silent

end Bracketed

/-- A text is plain when no closing bracket or quote stands in it. -/
def IsPlain (text : List Char) : Prop :=
  ∀ c ∈ text, c ∉ ['>', '"', '\'']

instance (text : List Char) : Decidable (IsPlain text) :=
  List.decidableBAll _ text

/-- The end of a comment. -/
def commentEnd : List Char := ['-', '-', '>']

/-- A piece of markup is text without tags, a tag that its last character closes, or a comment. -/
inductive Piece
  | text (content : List Char) (plain : '<' ∉ content)
  | tag (body : List Char) (closed : splitTag (body ++ ['>']) = some (body, [])) (single : '<' ∉ body)
  | comment (content : List Char) (within : ¬commentEnd <:+: content)

namespace Piece

/-- What a piece is written as. -/
def written : Piece → List Char
  | .text content _ => content
  | .tag body _ _ => '<' :: (body ++ ['>'])
  | .comment content _ => ['<', '!', '-', '-'] ++ (content ++ commentEnd)

/-- Whether a piece is a comment. -/
def isComment : Piece → Bool
  | .comment .. => true
  | _ => false

/-- A comment is bracketed. -/
theorem bracketed {piece : Piece} (comment : piece.isComment = true) : Bracketed piece.written := by
  -- A comment ends in its own closing bracket.
  cases piece with
  | comment content within =>
    intro last ends
    have same : (['<', '!', '-', '-'] ++ (content ++ commentEnd)).getLast? = some '>' := by
      rw [List.getLast?_append, List.getLast?_append]
      rfl
    rw [written, same] at ends
    exact (Option.mem_some_iff.1 ends).symm
  | text content plain => simp [isComment] at comment
  | tag body closed single => simp [isComment] at comment

/-! ### Tags with a name -/

/-- A tag that begins with a name is found at its front. -/
theorem splitAt?_tag (name body rest : List Char) :
    Text.splitAt? ('<' :: name) ('<' :: (name ++ body ++ ['>']) ++ rest) = some ([], body ++ '>' :: rest) := by
  -- The tag is found where the text begins.
  have here := Text.splitAt?_self ('<' :: name) (body ++ '>' :: rest)
  simpa using here

/-- A tag that goes on behind a plain name is cut where it is closed. -/
theorem splitTag_of_closed {name body : List Char} (named : IsPlain name)
    (closed : splitTag (name ++ body ++ ['>']) = some (name ++ body, [])) (rest : List Char) :
    splitTag (body ++ '>' :: rest) = some (body, rest) := by
  -- The name has no quotes, so the tag is cut in the same state behind it, whatever follows.
  unfold splitTag at closed ⊢
  rw [List.append_assoc, splitTagIn_append named, Option.map_eq_some_iff] at closed
  obtain ⟨⟨tag, after⟩, cut, same⟩ := closed
  simp only [Prod.mk.injEq, List.append_cancel_left_eq] at same
  obtain ⟨rfl, rfl⟩ := same
  rw [List.append_cons]
  exact splitTagIn_stable cut rest

/-- A name and the attributes behind it make up a tag, with what may stand between them and its bracket. -/
theorem closed_of_writes {name : List Char} (named : IsPlain name)
    {attributes : List (String × String)} {text : List Char} (writes : WritesAttributes attributes text)
    {tail : List Char} (plain : IsPlain tail) :
    splitTag (name ++ (text ++ tail) ++ ['>']) = some (name ++ (text ++ tail), []) := by
  -- The attributes close their own quotes, so the tag is cut at its last bracket.
  have cut := writes.splitTag_closed plain []
  rw [splitTag] at cut ⊢
  rw [List.append_assoc, splitTagIn_append named, List.append_assoc, cut, Option.map_some]

/-- A tag that begins as one with a name alone is that one. -/
theorem eq_of_isPrefix {name body : List Char} (named : IsPlain name)
    (closed : splitTag (body ++ ['>']) = some (body, [])) (begins : name ++ ['>'] <+: body ++ ['>']) :
    body = name := by
  obtain ⟨back, whole⟩ := begins
  -- The bracket behind the name is the first that closes a tag.
  have cut : splitTag (name ++ ['>'] ++ back) = some (name, back) := by
    rw [splitTag, List.append_assoc, splitTagIn_append named]
    simp [splitTagIn]
  rw [whole, closed] at cut
  exact congrArg Prod.fst (Option.some.inj cut)

/-- A search passes over a tag that does not begin as the piece, if no bracket stands in the piece but at its
end. -/
theorem passes_tag {piece body : List Char} (inner : '>' ∉ piece.dropLast) (single : '<' ∉ body)
    (other : ¬piece <+: body ++ ['>']) (rest : List Char) :
    Text.Passes ('<' :: piece) ('<' :: (body ++ ['>'])) rest := by
  -- The tag could begin only where this one does.
  refine Text.passes_of_away (Text.after?_eq_none_iff.2 fun begins => other ?_) ?_
  · rw [List.append_assoc] at begins
    exact Text.isPrefix_of_last inner begins
  · rw [List.mem_append, not_or]
    exact ⟨single, by decide⟩

/-- A search for a name passes over a tag that does not begin with it. -/
theorem passes_other {name body : List Char} (bracket : '>' ∉ name) (single : '<' ∉ body)
    (other : ¬name <+: body) (rest : List Char) : Text.Passes ('<' :: name) ('<' :: (body ++ ['>'])) rest := by
  refine passes_tag (fun inside => bracket ((List.dropLast_sublist name).mem inside)) single ?_ rest
  intro within
  rcases List.prefix_concat_iff.1 within with all | front
  -- The name would have the bracket that closes the tag.
  · exact bracket (all ▸ List.mem_append_right body (List.mem_singleton_self '>'))
  · exact other front

/-- A piece that is no comment has its tags, whatever follows. -/
theorem exists_tags {piece : Piece} (live : piece.isComment = false) {name : List Char}
    (named : IsPlain name) :
    ∃ own, ∀ rest, tags name (piece.written ++ rest) = own ++ tags name rest := by
  -- Text gives no tag, and another tag gives itself if it has the name and nothing otherwise.
  cases piece with
  | comment content within => simp [isComment] at live
  | text content plain => exact ⟨[], fun rest => Markup.tags_append (Text.passes_of_not_mem plain name rest)⟩
  | tag body closed single =>
    by_cases begins : name <+: body
    · obtain ⟨back, rfl⟩ := begins
      have found := splitAt?_tag name back
      have same (rest : List Char) : endsName (back ++ '>' :: rest) = endsName (back ++ ['>']) := by
        cases back with
        | nil => rfl
        | cons c back => rfl
      by_cases ends : endsName (back ++ ['>']) = true
      · refine ⟨[attributes back], fun rest => ?_⟩
        rw [written, tags_of_some (found rest), same, if_pos ends, splitTag_of_closed named closed rest]
        rfl
      -- The name goes on, and no other tag begins in this one.
      · refine ⟨[], fun rest => ?_⟩
        have absent : '<' ∉ back ++ ['>'] := by
          rw [List.mem_append, not_or] at single ⊢
          exact ⟨single.2, by decide⟩
        rw [written, tags_of_some (found rest), same, if_neg ends, List.append_cons,
          Markup.tags_append (Text.passes_of_not_mem absent name rest), List.nil_append]
    · have bracket : '>' ∉ name := fun inside => named '>' inside (by decide)
      exact ⟨[], fun rest => Markup.tags_append (passes_other bracket single begins rest)⟩

end Piece

/-- What pieces are written as, one behind the other. -/
def write (pieces : List Piece) : List Char :=
  pieces.flatMap Piece.written

/-- The pieces without the comments. -/
def live (pieces : List Piece) : List Piece :=
  pieces.filter (!·.isComment)

/-- The first piece is written before the others. -/
theorem write_cons (piece : Piece) (pieces : List Piece) :
    write (piece :: pieces) = piece.written ++ write pieces :=
  List.flatMap_cons

/-- Pieces behind others are written behind them. -/
theorem write_append (pieces others : List Piece) : write (pieces ++ others) = write pieces ++ write others :=
  List.flatMap_append

/-- The same tags are read without the comments as with them, if none is found in a comment. -/
theorem tags_write_live {name : List Char} (named : IsPlain name) {pieces : List Piece}
    (silent : ∀ piece ∈ pieces, piece.isComment = true → tags name piece.written = []) :
    tags name (write (live pieces)) = tags name (write pieces) := by
  -- A comment is dropped or gives nothing, and each other piece gives its own tags on both sides.
  induction pieces with
  | nil => rfl
  | cons piece pieces ih =>
    rw [List.forall_mem_cons] at silent
    have rest := ih silent.2
    cases comment : piece.isComment with
    | true =>
      have bracket : '>' ∉ name := fun inside => named '>' inside (by decide)
      rw [live, List.filter_cons_of_neg (by simp [comment]), ← live, rest, write_cons,
        (Piece.bracketed comment).tags_append bracket (silent.1 comment)]
    | false =>
      obtain ⟨own, each⟩ := Piece.exists_tags comment named
      rw [live, List.filter_cons_of_pos (by simp [comment]), ← live, write_cons, write_cons, each, each, rest]

end Markup

end ShadeBake
