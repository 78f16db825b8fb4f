import ShadeBake.Proofs.Shader.Emptied
import ShadeBake.Proofs.Text.Pieces

/-! Strings in the source of a program: a string literal ends where it is meant to and denotes its string, whatever
characters that holds. So the contents of strings have no say in whether a program is emitted, nor in how many lines
its source has. -/

namespace ShadeBake

namespace Quoted

/-- What a literal denotes behind its opening quote, and the text after its closing one: a backslash stands for the
character behind it, in front of `n` for a line feed. -/
def decodeBody : List Char → Option (List Char × List Char)
  | [] => none
  | '"' :: rest => some ([], rest)
  | '\\' :: c :: rest =>
    (decodeBody rest).map fun (text, after) => ((if c = 'n' then '\n' else c) :: text, after)
  -- A backslash with nothing behind it leaves the literal open.
  | c :: rest => (decodeBody rest).map fun (text, after) => (c :: text, after)

/-- What a literal at the front of a text denotes, and the text after it. -/
def decode : List Char → Option (List Char × List Char)
  | '"' :: text => decodeBody text
  | _ => none

/-- An escaped character is read as the character. -/
theorem decodeBody_escape (c : Char) (rest : List Char) :
    decodeBody (escape c ++ rest) = (decodeBody rest).map fun (text, after) => (c :: text, after) := by
  unfold escape
  -- Three characters are escaped, and any other one neither ends the literal nor escapes.
  split
  · rename_i isQuote
    simp [decodeBody, isQuote]
  · rename_i notQuote
    split
    · rename_i isBackslash
      simp [decodeBody, isBackslash]
    · rename_i notBackslash
      split
      · rename_i isFeed
        simp [decodeBody, isFeed]
      -- Such a character is taken as it is.
      · rw [List.singleton_append, decodeBody]
        · exact fun isQuote => notQuote isQuote
        · exact fun _ _ isBackslash => absurd isBackslash notBackslash

/-- The escaped characters of a text are read as the text, up to the quote behind them. -/
theorem decodeBody_flatMap (text rest : List Char) :
    decodeBody (text.flatMap escape ++ '"' :: rest) = some (text, rest) := by
  -- Each character is read back from its own escape.
  induction text with
  | nil => rfl
  | cons c text ih => rw [List.flatMap_cons, List.append_assoc, decodeBody_escape, ih, Option.map_some]

/-- A literal is read as the string that it was written for, and nothing behind it is read. -/
theorem decode_literal (s : String) (rest : List Char) :
    decode ((literal s).toList ++ rest) = some (s.toList, rest) := by
  -- Behind the opening quote stand the escapes and the closing quote.
  unfold literal
  rw [String.toList_ofList, encode, List.cons_append, List.append_assoc, List.singleton_append, decode,
    decodeBody_flatMap]

/-- A literal stays in its line. -/
theorem feed_not_mem_literal (s : String) : '\n' ∉ (literal s).toList := by
  unfold literal encode
  rw [String.toList_ofList, List.mem_cons, List.mem_append, List.mem_flatMap]
  -- A line feed is none of the quotes, and no character is escaped to one.
  rintro (quote | ⟨c, _, escaped⟩ | quote)
  · simp at quote
  -- The escapes are a backslash and a letter or mark, and what is not escaped is no line feed.
  · unfold escape at escaped
    split at escaped
    · simp at escaped
    · split at escaped
      · simp at escaped
      · split at escaped
        · simp at escaped
        · rename_i notFeed
          exact notFeed (List.mem_singleton.1 escaped).symm
  · simp at quote

end Quoted

/-! ### The lines of the source -/

namespace Text

/-- The number of line feeds in a string. -/
def feeds (s : String) : Nat :=
  s.toList.count '\n'

/-- Line feeds are counted in both parts of a string. -/
theorem feeds_append (s t : String) : feeds (s ++ t) = feeds s + feeds t := by
  -- Counting goes over both texts.
  unfold feeds
  rw [String.toList_append, List.count_append]

/-- Line feeds are counted in each of the strings that are joined. -/
theorem feeds_join (list : List String) : feeds (String.join list) = (list.map feeds).sum := by
  -- Counting goes over all texts.
  unfold feeds
  rw [String.toList_join, List.count_flatMap]
  rfl

/-- Line feeds are counted in each of the strings that stand between commas. -/
theorem feeds_intercalate (list : List String) : feeds (", ".intercalate list) = (list.map feeds).sum := by
  unfold feeds
  rw [String.toList_intercalate]
  induction list with
  | nil => rfl
  | cons head rest ih =>
    cases rest with
    | nil => simp [List.intercalate]
    -- A comma and a space hold none.
    | cons next others =>
      rw [List.map_cons, List.map_cons, List.intercalate_cons_cons, List.count_append, List.count_append,
        ← List.map_cons, ih]
      rfl

end Text

open Text (feeds feeds_append)

/-- The text of an emptied constant has as many line feeds. -/
theorem Constant.feeds_emptied (c : Constant) : feeds c.emptied.text = feeds c.text := by
  cases c with
  | string s =>
    -- A literal has none, whatever it is for.
    have none (s : String) : feeds (Quoted.literal s) = 0 := List.count_eq_zero.2 (Quoted.feed_not_mem_literal s)
    exact (none "").trans (none s).symm
  | number x => rfl
  | integer n => rfl
  | construct type parts => rfl
  | color4 red green blue alpha => rfl

/-- The text of an emptied argument has as many line feeds. -/
theorem Argument.feeds_emptied (argument : Argument) : feeds argument.emptied.text = feeds argument.text := by
  -- Only a constant can have a string in it.
  induction argument with
  | read v => rfl
  | constant c => exact c.feeds_emptied
  | zero type => rfl
  | coordinates => rfl
  | flipped source ih => simp only [emptied, text, feeds_append, ih]

/-- The line of an emptied statement has as many line feeds. -/
theorem Statement.feeds_emptied (statement : Statement) : feeds statement.emptied.text = feeds statement.text := by
  -- Only a call has arguments, and each of these keeps its count.
  cases statement with
  | declare type v => rfl
  | result v => rfl
  | call function arguments results =>
    have same : (arguments.map Argument.emptied).map (feeds ∘ Argument.text) =
        arguments.map (feeds ∘ Argument.text) := by
      rw [List.map_map]
      apply List.map_congr_left
      intro argument _
      exact argument.feeds_emptied
    simp only [emptied, text, feeds_append, Text.feeds_intercalate, List.map_append, List.map_map]
    rw [List.map_map, Function.comp_assoc] at same
    rw [same]

namespace Program

/-- The source of an emptied program has as many line feeds. -/
theorem feeds_emptied (program : Program) : feeds program.emptied.text = feeds program.text := by
  have body : ((program.body.map Statement.emptied).map Statement.text).map feeds =
      (program.body.map Statement.text).map feeds := by
    rw [List.map_map, List.map_map, List.map_map]
    apply List.map_congr_left
    intro statement _
    exact statement.feeds_emptied
  unfold text
  simp only [feeds_append, Text.feeds_join]
  -- All else in the source is the same, apart from the body.
  simp only [emptied, body]

/-- The lines of the source of a program. -/
def lines (program : Program) : List (List Char) :=
  Text.lines program.text.toList

/-- The source of a program has as many lines as line feeds. -/
theorem length_lines (program : Program) : program.lines.length = feeds program.text := by
  -- A source ends in a line feed, so it has as many lines as line feeds.
  have ends : ∃ front, program.text.toList = front ++ ['\n'] := by
    have last : "\x7d\n".toList = ['\x7d'] ++ ['\n'] := rfl
    unfold text
    rw [String.toList_append, last, ← List.append_assoc]
    exact ⟨_, rfl⟩
  obtain ⟨front, same⟩ := ends
  unfold lines feeds
  rw [same, Text.length_lines_concat]

end Program

namespace Shader

open Document (Graph Node)

/-- A string literal stays in its line, and is read up to its last character as the string that it was written for,
whatever stands behind it. So of two graphs that differ in the contents of strings alone, both have a program for a
root or neither has, and the two sources have equally many lines. -/
theorem strings_contained :
    (∀ (s : String) (rest : List Char), '\n' ∉ (Quoted.literal s).toList ∧
      Quoted.decode ((Quoted.literal s).toList ++ rest) = some (s.toList, rest)) ∧
    ∀ (options : EmitOptions) (name : String) (graph other : Graph) (root root' : Node),
      graph.emptied = other.emptied → root.emptied = root'.emptied →
      ((∃ program, emit options name graph root = .ok program) ↔
        ∃ program, emit options name other root' = .ok program) ∧
      ∀ program program', emit options name graph root = .ok program →
        emit options name other root' = .ok program' → program.lines.length = program'.lines.length := by
  refine ⟨fun s rest => ⟨Quoted.feed_not_mem_literal s, Quoted.decode_literal s rest⟩, ?_⟩
  intro options name graph other root root' graphs roots
  -- Both have the program of the emptied graph, once that is emptied.
  have same : (emit options name graph root).toOption.map Program.emptied =
      (emit options name other root').toOption.map Program.emptied := by
    rw [← emit_emptied, ← emit_emptied, graphs, roots]
  constructor
  -- There is a program exactly if there is an emptied one.
  · have exists_iff (result : Except EmitError Program) :
        (∃ program, result = .ok program) ↔ (result.toOption.map Program.emptied).isSome = true := by
      rw [Option.isSome_map]
      constructor
      · rintro ⟨program, rfl⟩
        rfl
      · exact ok_of_isSome
    rw [exists_iff, exists_iff, same]
  · intro program program' emits emits'
    rw [emits, emits'] at same
    have emptied : program.emptied = program'.emptied := Option.some.inj same
    rw [Program.length_lines, Program.length_lines, ← program.feeds_emptied, ← program'.feeds_emptied, emptied]

end Shader

namespace Shader.Framed

open Document (Graph Node)

/-- An image of a file. -/
def image (file : String) : Node where
  name := "img"
  category := "image"
  type := "color3"
  inputs := [{ name := "file", type := "filename", value := some (.string file) }]

/-- The graph of the image. -/
def graph (file : String) : Graph where
  name := "NG"
  nodes := [image file]

/-- A file's name that would end a literal, end its line and escape what follows. -/
def unruly : String := "a\"b\n\\"

/-- The program for the image of such a file has as many lines as that for another one. -/
theorem unruly_contained :
    (graph "a.png").emptied = (graph unruly).emptied ∧ (image "a.png").emptied = (image unruly).emptied ∧
    ∃ program program', emit {} "imgShader" (graph "a.png") (image "a.png") = .ok program ∧
      emit {} "imgShader" (graph unruly) (image unruly) = .ok program' ∧
      program.lines.length = program'.lines.length := by
  -- The graphs differ in the content of one string, and one of the two programs is computed.
  have isSome : (emit {} "imgShader" (graph "a.png") (image "a.png")).toOption.isSome = true := by cbv
  obtain ⟨program, emits⟩ := ok_of_isSome isSome
  obtain ⟨both, lines⟩ := strings_contained.2 {} "imgShader" (graph "a.png") (graph unruly) (image "a.png")
    (image unruly) rfl rfl
  obtain ⟨program', emits'⟩ := both.1 ⟨program, emits⟩
  exact ⟨rfl, rfl, program, program', emits, emits', lines program program' emits emits'⟩

end Shader.Framed

end ShadeBake
