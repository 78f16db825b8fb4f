import ShadeBake.Proofs.Definition.Declaration
import ShadeBake.Proofs.Definition.Piece

/-! Definitions in a file with comments: the reader knows no comments, so that of a text it reads all that it reads
without the comments, and further definitions exactly if a comment has some in it. -/

namespace ShadeBake

namespace Definition

open Markup (IsPlain Piece)

/-- A text is settled when every definition's tag that opens in it is closed in it. -/
inductive Settled : List Char → Prop
  | free {text : List Char} (free : ¬opening <:+: text) : Settled text
  | tag {text before body tag after : List Char} (found : Text.splitAt? opening text = some (before, body))
      (cut : Markup.splitTag body = some (tag, after)) (rest : Settled after) : Settled text

/-- A text is inert when nothing in it ends a definition or declares a child. -/
def Inert (text : List Char) : Prop :=
  ¬closing <:+: text ∧ ∀ element ∈ childElements, Markup.tags element text = []

/-- A text in which neither the closing tag nor the beginning of a child's tag stands is inert. -/
theorem inert_of_free {text : List Char} (open' : ¬closing <:+: text)
    (childless : ∀ element ∈ childElements, ¬ '<' :: element <:+: text) : Inert text :=
  -- Where no child element begins, none is listed.
  ⟨open', fun element kind => Markup.tags_of_none (Text.splitAt?_eq_none_iff.2 (childless element kind))⟩

/-- The pieces up to a definition's closing tag, or all of them if it has none. -/
def children (pieces : List Piece) : List Piece :=
  pieces.takeWhile (·.written ≠ closing)

/-- A tag that closes itself has no children. -/
def ClosesItself (tag : List Char) : Prop :=
  (Text.trimEnd tag).getLast? = some '/'

/-- A piece stands in a definition when it is one of those behind a definition's tag that has children, up to the
closing tag. -/
def InDefinition (pieces : List Piece) (piece : Piece) : Prop :=
  ∃ front opens behind tag, pieces = front ++ opens :: behind ∧ opens.written = opening ++ (tag ++ ['>']) ∧
    ¬ClosesItself tag ∧ piece ∈ children behind

/-- What stands in a definition still does when there is another piece in front. -/
theorem InDefinition.cons {pieces : List Piece} {piece : Piece} (within : InDefinition pieces piece)
    (first : Piece) : InDefinition (first :: pieces) piece := by
  -- What is put in front leaves the definition and what follows its tag.
  obtain ⟨front, opens, behind, tag, rfl, rest⟩ := within
  exact ⟨first :: front, opens, behind, tag, rfl, rest⟩

/-- What stands in a definition is one of the pieces. -/
theorem InDefinition.mem {pieces : List Piece} {piece : Piece} (within : InDefinition pieces piece) :
    piece ∈ pieces := by
  -- What stands in a definition is one of the pieces behind its tag.
  obtain ⟨front, opens, behind, tag, rfl, _, _, member⟩ := within
  exact List.mem_append_right front (List.mem_cons_of_mem opens ((List.takeWhile_sublist _).mem member))

/-! ### Pieces of a definition -/

/-- A text is written in pieces when some without comments are written as it is. -/
def InPieces (text : List Char) : Prop :=
  ∃ pieces, Markup.write pieces = text ∧ ∀ piece ∈ pieces, piece.isComment = false

namespace InPieces

variable {text later : List Char}

/-- Texts in pieces, one behind the other, are in pieces. -/
theorem append (first : InPieces text) (second : InPieces later) : InPieces (text ++ later) := by
  -- The pieces of the second text follow those of the first.
  obtain ⟨pieces, rfl, shown⟩ := first
  obtain ⟨others, rfl, apart⟩ := second
  exact ⟨pieces ++ others, Markup.write_append pieces others, fun piece member =>
    (List.mem_append.1 member).elim (shown piece) (apart piece)⟩

/-- One piece is in pieces. -/
theorem single (piece : Piece) (shown : piece.isComment = false) : InPieces piece.written :=
  -- The text is that of a single piece.
  ⟨[piece], List.append_nil _, List.forall_mem_singleton.2 shown⟩

/-- A tag with attributes is in pieces. -/
theorem tag {name tail : List Char} {attributes : List (String × String)}
    (named : '<' ∉ name ∧ IsPlain name) (writes : Markup.WritesAttributes attributes text)
    (plain : '<' ∉ tail ∧ IsPlain tail) :
    InPieces ('<' :: (name ++ (text ++ tail) ++ ['>'])) := by
  -- A tag with written attributes has no other bracket in it.
  have absent : '<' ∉ name ++ (text ++ tail) := by
    rw [List.mem_append, List.mem_append, not_or, not_or]
    exact ⟨named.1, writes.not_mem, plain.1⟩
  exact .single (.tag _ (Piece.closed_of_writes named.2 writes plain.2) absent) rfl

end InPieces

/-- No bracket or quote stands among the blanks at the end of a tag and a slash behind them. -/
theorem tagEnd_plain {gap : List Char} (blank : Markup.Blanks gap) :
    '<' ∉ gap ++ ['/'] ∧ IsPlain (gap ++ ['/']) := by
  -- Blanks are no brackets, and neither is the slash.
  refine ⟨?_, Markup.plain_of_blanks blank⟩
  rw [List.mem_append, not_or]
  exact ⟨blank.not_mem (by decide), by decide⟩

/-- A child is in pieces. -/
theorem WritesChild.inPieces {element text : List Char} {own : List (String × String)}
    (child : WritesChild element own text) (kind : element ∈ childElements) : InPieces text := by
  -- A child is a tag that closes itself, and the text behind it.
  have named : ∀ element ∈ childElements, '<' ∉ element ∧ IsPlain element := by decide
  cases child with
  | @mk attributes inner gap between declares writes blank plain =>
    have pieces := (InPieces.tag (named element kind) writes (tagEnd_plain blank)).append
      (.single (.text between plain) rfl)
    simpa [Piece.written] using pieces

/-- All children are in pieces. -/
theorem WritesChildren.inPieces {inputs : List Declaration.Input} {outputs : List (String × String)}
    {text : List Char} (writes : WritesChildren inputs outputs text) : InPieces text := by
  -- The children are written one after the other.
  induction writes with
  | nil => exact ⟨[], rfl, fun piece none => absurd none List.not_mem_nil⟩
  | input child rest ih => exact (child.inPieces (by decide)).append ih
  | output child rest ih => exact (child.inPieces (by decide)).append ih

/-- Every definition is in pieces. -/
theorem WritesDefinition.inPieces {declaration : Declaration} {text : List Char}
    (writes : WritesDefinition declaration text) : InPieces text := by
  -- A definition is one tag that closes itself, or two around its children.
  have named : '<' ∉ opening.tail ∧ IsPlain opening.tail := by decide
  cases writes with
  | @empty attributes inner gap childless declares writes blank =>
    have pieces := InPieces.tag named writes (tagEnd_plain blank)
    simpa [opening_eq] using pieces
  | @around attributes inner gap between children declares writes blank plain writesChildren =>
    have bare := tagEnd_plain blank
    rw [List.mem_append, not_or] at bare
    -- The opening tag, the children and the closing tag are pieces each.
    have opens := InPieces.tag named writes ⟨bare.1.1, fun c inside => bare.2 c (List.mem_append_left _ inside)⟩
    have closes : InPieces closing :=
      .single (.tag closing.tail.dropLast (by decide +kernel) (by decide)) rfl
    have pieces := (opens.append (.single (.text between plain) rfl)).append
      (writesChildren.inPieces.append closes)
    simpa [Piece.written, opening_eq] using pieces

/-! ### What a tag declares -/

/-- A tag declares the same definition before all children with the same tags. -/
theorem ofParts?_congr (tag : List Char) {children others : List Char}
    (same : ∀ element ∈ childElements, Markup.tags element children = Markup.tags element others) :
    ofParts? tag children = ofParts? tag others := by
  -- The children are looked at through their tags only, for each of the two elements.
  unfold ofParts?
  rw [same _ List.mem_cons_self, same _ (List.mem_cons_of_mem _ List.mem_cons_self)]

/-- Whether a tag declares a definition does not depend on its children. -/
theorem length_ofParts? (tag children others : List Char) :
    (ofParts? tag children).toList.length = (ofParts? tag others).toList.length := by
  -- A definition is made if its tag has a name and a node, whatever the children.
  simp only [ofParts?, Option.bind_eq_bind, Option.pure_def]
  cases (Markup.attributes tag).get? "name" with
  | none => rfl
  | some name =>
    cases (Markup.attributes tag).get? "node" with
    | none => rfl
    | some category => rfl

/-- A settled text declares as many definitions when others follow it, and those that follow are read, too. -/
theorem Settled.exists_hidden {text : List Char} (settled : Settled text) (bracketed : Markup.Bracketed text)
    (rest : List Char) :
    ∃ hidden, ofText (text ++ rest) = hidden ++ ofText rest ∧ hidden.length = (ofText text).length := by
  induction settled with
  | free free =>
    refine ⟨[], ofText_append (bracketed.passes (by decide) free rest), ?_⟩
    rw [ofText_of_none (Text.splitAt?_eq_none_iff.2 free)]
  | @tag text before body tag after found cut settled ih =>
    -- What is behind the tag ends as the text does.
    have whole : text = (before ++ opening ++ (tag ++ ['>'])) ++ after := by
      rw [Text.eq_append_of_splitAt? found, Markup.eq_append_of_splitTagIn cut]
      simp
    obtain ⟨hidden, read, count⟩ := ih (.of_append (whole ▸ bracketed))
    -- The definition itself is read or not by its tag, whatever its children are.
    refine ⟨(ofParts? tag (childrenOf tag (after ++ rest))).toList ++ hidden, ?_, ?_⟩
    · rw [ofText_of_some (Text.splitAt?_append found rest)]
      simp only [Markup.splitTag, Markup.splitTagIn_stable cut rest, read, List.append_assoc]
    · rw [ofText_of_some found]
      simp only [cut, List.length_append, count, length_ofParts? tag (childrenOf tag (after ++ rest))
        (childrenOf tag after)]

/-! ### Children among comments -/

/-- A search for the closing tag passes over every other piece in which it does not stand. -/
theorem passes_closing {piece : Piece} (other : piece.written ≠ closing)
    (inert : piece.isComment = true → ¬closing <:+: piece.written) (rest : List Char) :
    Text.Passes closing piece.written rest := by
  -- Each kind of piece is passed for a reason of its own: no bracket, an inert comment, another tag.
  cases piece with
  | text content plain => exact Text.passes_of_not_mem plain closing.tail rest
  | comment content within =>
    have comment : (Piece.comment content within).isComment = true := rfl
    exact (Piece.bracketed comment).passes (by decide) (inert rfl) rest
  | tag body closed single =>
    have named : IsPlain closing.tail.dropLast := by decide
    have inner : '>' ∉ closing.tail.dropLast := by decide
    refine Piece.passes_tag inner single (fun begins => other ?_) rest
    rw [Piece.written, Piece.eq_of_isPrefix named closed begins]
    rfl

/-- A tag that does not close itself has what a search for the closing tag passes over as children. -/
theorem childrenOf_append {tag front rest : List Char} (opens : ¬ClosesItself tag)
    (passes : Text.Passes closing front rest) : childrenOf tag (front ++ rest) = front ++ childrenOf tag rest := by
  -- The children end at the first closing tag, and none ends in the front.
  unfold ClosesItself at opens
  rw [childrenOf, childrenOf, if_neg opens, if_neg opens, passes]
  cases Text.splitAt? closing rest with
  | none => rfl
  | some parts => rfl

/-- The children of a tag that does not close itself are written up to the closing tag. -/
theorem childrenOf_write {tag : List Char} (opens : ¬ClosesItself tag) {pieces : List Piece}
    (inert : ∀ piece ∈ children pieces, piece.isComment = true → ¬closing <:+: piece.written) :
    childrenOf tag (Markup.write pieces) = Markup.write (children pieces) := by
  induction pieces with
  | nil =>
    unfold ClosesItself at opens
    rw [childrenOf, if_neg opens]
    rfl
  | cons piece pieces ih =>
    by_cases ends : piece.written = closing
    -- The first closing tag ends the children.
    · unfold ClosesItself at opens
      rw [Markup.write_cons, ends, childrenOf, if_neg opens, Text.splitAt?_self, children,
        List.takeWhile_cons_of_neg (by simpa using ends)]
      rfl
    -- Another piece is a child, and has no closing tag in it.
    · rw [children, List.takeWhile_cons_of_pos (by simpa using ends), ← children] at inert ⊢
      rw [List.forall_mem_cons] at inert
      rw [Markup.write_cons, Markup.write_cons, childrenOf_append opens (passes_closing ends inert.1 _), ih inert.2]

/-- No comment is a closing tag. -/
theorem written_ne_closing {piece : Piece} (comment : piece.isComment = true) : piece.written ≠ closing := by
  -- A closing tag goes on with a slash, and a comment does not.
  have second : closing[1]? = some '/' := rfl
  intro same
  rw [← same] at second
  cases piece with
  | comment content within => simp [Piece.written] at second
  | text content plain => simp [Piece.isComment] at comment
  | tag body closed single => simp [Piece.isComment] at comment

/-- Without the comments the children are the same without the comments. -/
theorem children_live (pieces : List Piece) : children (Markup.live pieces) = Markup.live (children pieces) := by
  -- A comment is no closing tag, so dropping comments does not change where the children end.
  unfold children Markup.live
  induction pieces with
  | nil => rfl
  | cons piece pieces ih =>
    cases comment : piece.isComment with
    | true =>
      have other := written_ne_closing comment
      rw [List.filter_cons_of_neg (by simp [comment]), ih, List.takeWhile_cons_of_pos (by simpa using other),
        List.filter_cons_of_neg (by simp [comment])]
    -- Any other piece is kept by both, or ends the children for both.
    | false =>
      rw [List.filter_cons_of_pos (by simp [comment]), List.takeWhile_cons, List.takeWhile_cons]
      split
      · rw [List.filter_cons_of_pos (by simp [comment]), ih]
      · rfl

/-- A tag declares the same without the comments behind it, if those among its children are inert. -/
theorem ofParts?_live {tag : List Char} {pieces : List Piece}
    (inert : ¬ClosesItself tag → ∀ piece ∈ children pieces, piece.isComment = true → Inert piece.written) :
    ofParts? tag (childrenOf tag (Markup.write (Markup.live pieces))) =
      ofParts? tag (childrenOf tag (Markup.write pieces)) := by
  by_cases closes : ClosesItself tag
  -- What is behind the tag does not matter.
  · have none (after : List Char) : childrenOf tag after = [] := if_pos closes
    rw [none, none]
  · have quiet := inert closes
    -- No comment is left among the live pieces.
    have gone : ∀ piece ∈ children (Markup.live pieces), piece.isComment = true →
        ¬closing <:+: piece.written := by
      intro piece member comment
      rw [children_live, Markup.live, List.mem_filter, comment] at member
      simp at member
    rw [childrenOf_write closes gone, childrenOf_write closes fun piece member comment =>
      (quiet piece member comment).1, children_live]
    refine ofParts?_congr tag fun element kind => Markup.tags_write_live ?_ fun piece member comment =>
      (quiet piece member comment).2 element kind
    have named : ∀ element ∈ childElements, IsPlain element := by decide
    exact named element kind

/-! ### Definitions among comments -/

/-- A piece that is no comment adds the same definitions to those behind it with the comments as without them, if
those in a definition are inert. -/
theorem exists_own {piece : Piece} (shown : piece.isComment = false) {pieces : List Piece}
    (inert : ∀ other, InDefinition (piece :: pieces) other → other.isComment = true → Inert other.written) :
    ∃ own, ofText (piece.written ++ Markup.write pieces) = own ++ ofText (Markup.write pieces) ∧
      ofText (piece.written ++ Markup.write (Markup.live pieces)) =
        own ++ ofText (Markup.write (Markup.live pieces)) := by
  -- Text without a bracket gives nothing, and a tag gives the definition that it opens or nothing.
  cases piece with
  | comment content within => simp [Piece.isComment] at shown
  | text content plain =>
    have passes (rest : List Char) : Text.Passes opening content rest :=
      Text.passes_of_not_mem plain opening.tail rest
    exact ⟨[], ofText_append (passes _), ofText_append (passes _)⟩
  | tag body closed single =>
    have named : IsPlain opening.tail := by decide
    by_cases begins : opening.tail <+: body
    -- The definition of the tag comes first, and the comments behind it do not change it.
    · obtain ⟨back, rfl⟩ := begins
      have read (rest : List Char) : ofText ('<' :: (opening.tail ++ back ++ ['>']) ++ rest) =
          (ofParts? back (childrenOf back rest)).toList ++ ofText rest := by
        rw [ofText_of_some (Piece.splitAt?_tag opening.tail back rest)]
        simp only [Piece.splitTag_of_closed named closed]
      refine ⟨_, read _, ?_⟩
      rw [← ofParts?_live fun opens other member => inert other ⟨[], _, pieces, back, rfl, ?_, opens, member⟩]
      · exact read _
      · rw [Piece.written, opening_eq]
        simp
    · have bracket : '>' ∉ opening.tail := by decide
      have passes := Piece.passes_other bracket single begins
      exact ⟨[], ofText_append (passes _), ofText_append (passes _)⟩

/-- The definitions of a text with comments have those of the text without them among them, in their order, and are
the same exactly if no comment has one in it, where each comment closes the definitions' tags that it opens and is
inert if it stands in a definition. -/
theorem ofText_live {pieces : List Piece}
    (settled : ∀ piece ∈ pieces, piece.isComment = true → Settled piece.written)
    (inert : ∀ piece, InDefinition pieces piece → piece.isComment = true → Inert piece.written) :
    (ofText (Markup.write (Markup.live pieces))).Sublist (ofText (Markup.write pieces)) ∧
      (ofText (Markup.write pieces) = ofText (Markup.write (Markup.live pieces)) ↔
        ∀ piece ∈ pieces, piece.isComment = true → ofText piece.written = []) := by
  -- A comment puts its own definitions in front of the rest, and any other piece the same ones on both sides.
  induction pieces with
  | nil => exact ⟨List.Sublist.refl _, by simp [Markup.live]⟩
  | cons piece pieces ih =>
    rw [List.forall_mem_cons] at settled
    obtain ⟨sub, same⟩ := ih settled.2 fun other within => inert other (within.cons piece)
    rw [List.forall_mem_cons, ← same, Markup.write_cons]
    cases comment : piece.isComment with
    | true =>
      obtain ⟨hidden, read, count⟩ :=
        (settled.1 comment).exists_hidden (Piece.bracketed comment) (Markup.write pieces)
      rw [Markup.live, List.filter_cons_of_neg (by simp [comment]), ← Markup.live, read]
      refine ⟨sub.trans (List.sublist_append_right hidden _), ?_, ?_⟩
      -- Nothing is left for the comment where the rest alone gives as much.
      · intro equal
        have total := congrArg List.length equal
        rw [List.length_append, count] at total
        have fewer := sub.length_le
        refine ⟨fun _ => List.eq_nil_of_length_eq_zero (by omega), (sub.eq_of_length (by omega)).symm⟩
      · rintro ⟨empty, equal⟩
        rw [empty rfl, List.length_nil, List.length_eq_zero_iff] at count
        rw [count, List.nil_append, equal]
    | false =>
      obtain ⟨own, read, reread⟩ := exists_own comment inert
      rw [Markup.live, List.filter_cons_of_pos (by simp [comment]), ← Markup.live, Markup.write_cons, read, reread]
      refine ⟨List.Sublist.append_left sub own, ?_⟩
      rw [List.append_cancel_left_eq]
      simp

namespace Commented

/-- A definition that closes itself. -/
def former : Declaration :=
  { name := "ND_a", category := "a", type := some "float", inputs := [], outputs := []
    distinct := List.nodup_nil }

/-- The text of the definition. -/
def formerText : List Char :=
  "<nodedef name='ND_a' node='a' type='float'/>".toList

/-- A comment around the definition. -/
def outer : Piece :=
  .comment " <nodedef name='ND_a' node='a' type='float'/> ".toList (by decide +kernel)

/-- A comment with quotes that nothing closes, and a bracket. -/
def inner : Piece :=
  .comment " it's > \" ".toList (by decide +kernel)

/-- The pieces behind the first comment: another definition of the same name, which has the second comment among
its children. -/
def latter : List Piece := [
  .text "\n".toList (by decide +kernel),
  .tag "nodedef name='ND_a' node='a' type='color3'".toList (by decide +kernel) (by decide +kernel),
  inner,
  .tag "input name='in' type='color3'/".toList (by decide +kernel) (by decide +kernel),
  .tag "/nodedef".toList (by decide +kernel) (by decide +kernel)]

/-- The text of the definition writes it. -/
theorem writes : WritesDefinition former formerText := by
  -- The three attributes are written one by one, and the text is then compared.
  have parts : WritesDefinition former _ :=
    .empty [("name", "ND_a"), ("node", "a"), ("type", "float")] [] ⟨rfl, rfl⟩ ⟨[], by simp, by decide⟩
      (.plain [' '] '\'' (by decide) (by decide) (by decide) (by decide) <|
      .plain [' '] '\'' (by decide) (by decide) (by decide) (by decide) <|
      .plain [' '] '\'' (by decide) (by decide) (by decide) (by decide) .nil) (by decide)
  convert parts using 1
  decide +kernel

/-- The definition is read from the comment around it, before those behind it. -/
theorem ofText_outer (later : List Char) :
    ofText (outer.written ++ later) = former.definition :: ofText (" -->".toList ++ later) := by
  -- The text is what stands in front of the definition, the definition, and the end of the comment.
  have front : ¬opening <:+: "<!-- ".toList := by decide +kernel
  have split : outer.written = "<!-- ".toList ++ (formerText ++ " -->".toList) := by decide +kernel
  rw [split, List.append_assoc, List.append_assoc, ofText_of_writes_cons front writes]

/-- A comment closes the definitions' tags that it opens. -/
theorem settled : ∀ piece ∈ outer :: latter, piece.isComment = true → Settled piece.written := by
  -- The outer comment holds a whole tag of a definition, and the inner one holds none.
  have found : Text.splitAt? opening outer.written =
      some ("<!-- ".toList, " name='ND_a' node='a' type='float'/> -->".toList) := by decide +kernel
  have cut : Markup.splitTag " name='ND_a' node='a' type='float'/> -->".toList =
      some (" name='ND_a' node='a' type='float'/".toList, " -->".toList) := by decide +kernel
  have around : Settled outer.written := .tag found cut (.free (by decide +kernel))
  have within : Settled inner.written := .free (by decide +kernel)
  simp [latter, around, within, Piece.isComment]

/-- Neither comment ends a definition or declares a child. -/
theorem inert : ∀ piece, InDefinition (outer :: latter) piece → piece.isComment = true →
    Inert piece.written := by
  -- Neither comment has a closing tag in it, or a tag of a child.
  have around : Inert outer.written := inert_of_free (by decide +kernel) (by decide +kernel)
  have within : Inert inner.written := inert_of_free (by decide +kernel) (by decide +kernel)
  have each : ∀ piece ∈ outer :: latter, piece.isComment = true → Inert piece.written := by
    simp [latter, around, within, Piece.isComment]
  exact fun piece located => each piece located.mem

/-- The definition in the comment is read as well, and before the other of the name. -/
theorem shadows :
    (∀ piece ∈ outer :: latter, piece.isComment = true → Settled piece.written) ∧
    (∀ piece, InDefinition (outer :: latter) piece → piece.isComment = true → Inert piece.written) ∧
    (ofText (Markup.write (Markup.live (outer :: latter)))).Sublist (ofText (Markup.write (outer :: latter))) ∧
    ofText (Markup.write (outer :: latter)) ≠ ofText (Markup.write (Markup.live (outer :: latter))) ∧
    (ofText (Markup.write (outer :: latter))).head? = some former.definition := by
  -- The comment that is outside all definitions gives the first definition of the name.
  obtain ⟨among, same⟩ := ofText_live settled inert
  refine ⟨settled, inert, among, fun equal => ?_, ?_⟩
  · have none := same.1 equal outer List.mem_cons_self rfl
    rw [← List.append_nil outer.written, ofText_outer] at none
    exact absurd none (List.cons_ne_nil _ _)
  · rw [Markup.write_cons, ofText_outer, List.head?_cons]

end Commented

end Definition

end ShadeBake
