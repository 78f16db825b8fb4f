import Mathlib.Data.List.Induction
import ShadeBake.Artifact
import ShadeBake.Proofs.Success
import ShadeBake.Proofs.Text.Pieces

/-! What the text of a compiled shader declares: the last shader that is opened in front of the code section, with the
parameters behind it. Reading fails exactly if a line in front of the code section is at fault or no shader is
opened there. -/

namespace ShadeBake

namespace Artifact

/-- The words of a text. -/
def wordsOf (text : List Char) : List String :=
  (Text.words text).map String.ofList

/-- The lines of a text in front of the first whose first word is `code`. -/
def front (text : String) : List (List Char) :=
  (Text.lines text.toList).takeWhile fun line => (wordsOf line).head? ≠ some "code"

/-- The lines in front of the code section as their words, without those that are empty or comments once they are
trimmed. -/
def declared (text : String) : List (List String) :=
  (((front text).map Text.trim).filter fun line => line ≠ [] ∧ line.head? ≠ some '#').map wordsOf

/-- A line opens a shader when it begins with one of the words for shaders. -/
def Opens (words : List String) : Prop :=
  ∃ kind ∈ shaderWords, ∃ rest, words = kind :: rest

/-- The words that declarations of parameters begin with. -/
def parameterWords : List String :=
  ["param", "oparam"]

/-- A line is for a parameter when it begins with one of the words for parameters. -/
def IsParameter (words : List String) : Prop :=
  ∃ kind ∈ parameterWords, ∃ rest, words = kind :: rest

/-- A line for a parameter lacks the type or the name; the type of a closure takes up two words. -/
def Incomplete (words : List String) : Prop :=
  ∃ kind ∈ parameterWords,
    words = [kind] ∨ (∃ type, words = [kind, type]) ∨ ∃ inner, words = [kind, "closure", inner]

/-- A line of a kind gives the parameter that it names and types. -/
inductive Gives (kind : String) : List String → Parameter → Prop
  | plain {type name : String} {rest : List String} (simple : type ≠ "closure") :
      Gives kind (kind :: type :: name :: rest) ⟨name, type⟩
  | closure {inner name : String} {rest : List String} :
      Gives kind (kind :: "closure" :: inner :: name :: rest) ⟨name, "closure " ++ inner⟩

/-- Lines are faulty when one opens a shader without a name, or is for a parameter and lacks its type or name or has
no line that opens a shader before it. -/
inductive Faulty (lines : List (List String)) : Prop
  | unnamed {kind : String} (isKind : kind ∈ shaderWords) (listed : [kind] ∈ lines)
  | incomplete {words : List String} (lacks : Incomplete words) (listed : words ∈ lines)
  | early {before after : List (List String)} {words : List String} (parameter : IsParameter words)
      (split : lines = before ++ words :: after) (unopened : ∀ earlier ∈ before, ¬Opens earlier)

/-- Lines declare a shader when the last one that opens any gives its name, and the lines for parameters behind that
one give its inputs and outputs in order. -/
inductive Declares (lines : List (List String)) (artifact : Artifact) : Prop
  | last {before after : List (List String)} {kind : String} {rest : List String} (isKind : kind ∈ shaderWords)
      (split : lines = before ++ (kind :: artifact.name :: rest) :: after)
      (isLast : ∀ later ∈ after, ¬Opens later)
      (inputs : List.Forall₂ (Gives "param") (after.filter (·.head? = some "param")) artifact.inputs)
      (outputs : List.Forall₂ (Gives "oparam") (after.filter (·.head? = some "oparam")) artifact.outputs)

/-! ### Lines -/

/-- The words of a line that matters. -/
def Line.words (line : Line) : List String :=
  line.head :: line.rest

/-- A text is a line that matters exactly if it is neither empty nor a comment once it is trimmed. -/
theorem Line.words_ofText? (text : List Char) :
    (Line.ofText? text).map Line.words =
      if Text.trim text ≠ [] ∧ (Text.trim text).head? ≠ some '#' then some (wordsOf (Text.trim text)) else none := by
  -- A comment is dropped first, and what is left is dropped if it has no word.
  unfold Line.ofText?
  dsimp only
  by_cases comment : (Text.trim text).head? = some '#'
  · rw [if_pos comment, if_neg fun matters => matters.2 comment]
    rfl
  · rw [if_neg comment]
    -- A trimmed text without words is empty.
    cases parts : (Text.words (Text.trim text)).map String.ofList with
    | nil =>
      have empty : Text.trim text = [] := by
        rw [List.map_eq_nil_iff, Text.words_trim] at parts
        exact Text.words_eq_nil_iff.1 parts
      rw [if_neg fun matters => matters.1 empty]
      rfl
    | cons head rest =>
      have visible : Text.trim text ≠ [] := by
        intro empty
        rw [empty] at parts
        simp [Text.words, Text.splitOn] at parts
      rw [if_pos ⟨visible, comment⟩, wordsOf, parts]
      rfl

/-- The words of the lines that matter are those of the trimmed texts that are neither empty nor comments. -/
theorem words_filterMap_ofText? (texts : List (List Char)) :
    (texts.filterMap Line.ofText?).map Line.words =
      ((texts.map Text.trim).filter fun line => line ≠ [] ∧ line.head? ≠ some '#').map wordsOf := by
  -- Each text is kept or dropped on its own, by the same test on both sides.
  induction texts with
  | nil => rfl
  | cons text rest ih =>
    have here := Line.words_ofText? text
    rw [List.map_cons, List.filter_cons]
    cases line : Line.ofText? text with
    | none =>
      rw [List.filterMap_cons_none line, ih]
      rw [line] at here
      split at here
      · simp at here
      · rename_i idle
        -- No line was made, so the text is blank or a comment.
        rw [if_neg (by simpa using idle)]
    | some line' =>
      rw [List.filterMap_cons_some line, List.map_cons, ih]
      rw [line] at here
      split at here
      · rename_i matters
        rw [if_pos (by simpa using matters), List.map_cons, Option.some.inj here]
      · simp at here

/-- A comment does not begin with the word that opens the code section. -/
theorem head?_wordsOf_of_comment {text : List Char} (comment : text.head? = some '#') :
    (wordsOf text).head? ≠ some "code" := by
  cases text with
  | nil => simp at comment
  | cons c rest =>
    rw [List.head?_cons, Option.some_inj] at comment
    subst comment
    obtain ⟨word, others, parts⟩ := Text.exists_words_cons (by decide : Text.isBlank '#' = false) rest
    intro same
    rw [wordsOf, parts, List.map_cons, List.head?_cons, Option.some_inj] at same
    -- The first word of a comment has its mark in front.
    have chars := congrArg String.toList same
    rw [String.toList_ofList] at chars
    simp at chars

/-- A text opens the code section exactly if it is a line that matters and does so. -/
theorem head?_wordsOf_iff {text : List Char} :
    (wordsOf text).head? = some "code" ↔ ∃ line, Line.ofText? text = some line ∧ line.head = "code" := by
  -- Trimming changes no words, so the trimmed text is looked at on both sides.
  have words := Line.words_ofText? text
  have same : wordsOf text = wordsOf (Text.trim text) := by
    unfold wordsOf
    rw [Text.words_trim]
  rw [same]
  constructor
  · intro opens
    have visible : Text.trim text ≠ [] := by
      intro empty
      rw [empty] at opens
      simp [wordsOf, Text.words, Text.splitOn] at opens
    -- A line whose first word is this one is no comment.
    have plain : (Text.trim text).head? ≠ some '#' := fun comment => head?_wordsOf_of_comment comment opens
    rw [if_pos ⟨visible, plain⟩] at words
    obtain ⟨line, isLine, parts⟩ := Option.map_eq_some_iff.1 words
    rw [← parts, Line.words, List.head?_cons, Option.some_inj] at opens
    exact ⟨line, isLine, opens⟩
  · intro matters
    obtain ⟨line, isLine, opens⟩ := matters
    rw [isLine, Option.map_some] at words
    split at words
    · rw [← Option.some.inj words, Line.words, List.head?_cons, opens]
    · simp at words

/-- The code section can as well be cut off before the lines that do not matter are dropped. -/
theorem declarationLines_eq (text : String) : declarationLines text = (front text).filterMap Line.ofText? := by
  unfold declarationLines front
  induction Text.lines text.toList with
  | nil => rfl
  | cons text rest ih =>
    rw [List.takeWhile_cons]
    by_cases opens : (wordsOf text).head? = some "code"
    -- Nothing is read from here on.
    · obtain ⟨line, isLine, code⟩ := head?_wordsOf_iff.1 opens
      rw [if_neg (by simp [opens]), List.filterMap_cons_some isLine, List.takeWhile_cons, if_neg (by simp [code])]
      rfl
    · rw [if_pos (by simp [opens])]
      cases line : Line.ofText? text with
      | none => rw [List.filterMap_cons_none line, List.filterMap_cons_none line, ih]
      | some line' =>
        -- A line that is read begins with its first word, which is not the one that ends the declarations.
        have stays : line'.head ≠ "code" := fun code => opens (head?_wordsOf_iff.2 ⟨line', line, code⟩)
        rw [List.filterMap_cons_some line, List.filterMap_cons_some line, List.takeWhile_cons,
          if_pos (by simp [stays]), ih]

/-- The words of the lines that are read are those of the declared lines. -/
theorem words_declarationLines (text : String) : (declarationLines text).map Line.words = declared text := by
  -- Both sides read the same front of the text, line by line.
  rw [declarationLines_eq, words_filterMap_ofText?]
  rfl

/-! ### One line -/

/-- What is declared after one more line: a line that opens a shader starts anew, a parameter is added to the shader
that is open, and other lines are skipped. -/
inductive Step : Option Artifact → List String → Option Artifact → Prop
  | opens {shader : Option Artifact} {kind name : String} {rest : List String} (isKind : kind ∈ shaderWords) :
      Step shader (kind :: name :: rest) (some ⟨name, [], []⟩)
  | input {artifact : Artifact} {words : List String} {parameter : Parameter}
      (gives : Gives "param" words parameter) :
      Step (some artifact) words (some { artifact with inputs := artifact.inputs ++ [parameter] })
  | output {artifact : Artifact} {words : List String} {parameter : Parameter}
      (gives : Gives "oparam" words parameter) :
      Step (some artifact) words (some { artifact with outputs := artifact.outputs ++ [parameter] })
  | other {shader : Option Artifact} {words : List String} (closed : ¬Opens words)
      (unrelated : ¬IsParameter words) : Step shader words shader

/-- A line opens a shader exactly if its first word says so. -/
theorem opens_cons_iff {head : String} {rest : List String} : Opens (head :: rest) ↔ head ∈ shaderWords := by
  -- The head is the only word that the definition looks at.
  constructor
  · rintro ⟨kind, isKind, _, same⟩
    cases same
    exact isKind
  · intro isKind
    exact ⟨head, isKind, rest, rfl⟩

/-- A line is for a parameter exactly if its first word says so. -/
theorem isParameter_cons_iff {head : String} {rest : List String} :
    IsParameter (head :: rest) ↔ head = "param" ∨ head = "oparam" := by
  -- There are two words that announce a parameter.
  constructor
  · rintro ⟨kind, isKind, _, same⟩
    cases same
    simpa [parameterWords] using isKind
  · intro isKind
    exact ⟨head, by simpa [parameterWords] using isKind, rest, rfl⟩

/-- No line opens a shader and is for a parameter as well. -/
theorem not_opens_of_isParameter {words : List String} (parameter : IsParameter words) : ¬Opens words := by
  -- The two tables of first words share none.
  obtain ⟨kind, isKind, rest, rfl⟩ := parameter
  rw [opens_cons_iff]
  have apart : ∀ kind ∈ parameterWords, kind ∉ shaderWords := by decide
  exact apart kind isKind

/-- A line that gives a parameter begins with its kind. -/
theorem Gives.exists_rest {kind : String} {words : List String} {parameter : Parameter}
    (gives : Gives kind words parameter) : ∃ rest, words = kind :: rest := by
  -- Both rules begin with the kind.
  cases gives with
  | plain simple => exact ⟨_, rfl⟩
  | closure => exact ⟨_, rfl⟩

/-- A line gives one parameter only. -/
theorem Gives.unique {kind : String} {words : List String} {first second : Parameter}
    (gives : Gives kind words first) (gives' : Gives kind words second) : first = second := by
  -- The two rules are apart, as only one has the word for a closure behind the kind.
  cases gives with
  | plain simple =>
    cases gives' with
    | plain => rfl
    | closure => exact absurd rfl simple
  | closure =>
    cases gives' with
    | plain simple => exact absurd rfl simple
    | closure => rfl

/-- A line for a parameter that lacks nothing gives one. -/
theorem exists_gives {kind : String} (isKind : kind ∈ parameterWords) {rest : List String}
    (whole : ¬Incomplete (kind :: rest)) : ∃ parameter, Gives kind (kind :: rest) parameter := by
  cases rest with
  | nil => exact absurd ⟨kind, isKind, .inl rfl⟩ whole
  | cons type rest =>
    cases rest with
    | nil => exact absurd ⟨kind, isKind, .inr (.inl ⟨type, rfl⟩)⟩ whole
    | cons word rest =>
      by_cases isClosure : type = "closure"
      · subst isClosure
        -- The word is still part of the type, and the name comes behind it.
        cases rest with
        | nil => exact absurd ⟨kind, isKind, .inr (.inr ⟨word, rfl⟩)⟩ whole
        | cons name rest => exact ⟨_, .closure⟩
      · exact ⟨_, .plain isClosure⟩

/-- A line that gives a parameter lacks nothing. -/
theorem Gives.not_incomplete {kind : String} {words : List String} {parameter : Parameter}
    (gives : Gives kind words parameter) : ¬Incomplete words := by
  -- Each way of being incomplete has fewer words than a rule that gives a parameter.
  intro lacks
  obtain ⟨_, _, only | ⟨_, typed⟩ | ⟨_, inner⟩⟩ := lacks
  · cases gives <;> simp at only
  · cases gives <;> simp at typed
  · cases gives with
    | plain simple =>
      simp only [List.cons.injEq] at inner
      exact simple inner.2.1
    | closure => simp at inner

/-- A line gives a parameter exactly if it is read as one. -/
theorem Line.parameter_eq_ok_iff {line : Line} {parameter : Parameter} :
    line.parameter = .ok parameter ↔ Gives line.head line.words parameter := by
  -- The cases are those of the reader: a missing type, the word for a closure, a missing name.
  obtain ⟨text, head, rest⟩ := line
  constructor
  · intro reads
    unfold Line.parameter at reads
    dsimp only at reads
    split at reads
    · simp at reads
    · split at reads
      · rename_i isClosure
        split at reads
        · simp at reads
        · simp at reads
        · cases reads
          subst isClosure
          exact .closure
      · rename_i simple
        split at reads
        · simp at reads
        · cases reads
          exact .plain simple
  · intro gives
    -- In the other direction each way of giving a parameter takes one branch.
    unfold Line.words at gives
    dsimp only at gives
    cases gives with
    | plain simple => simp [Line.parameter, simple]
    | closure => simp [Line.parameter]

/-- Reading a line succeeds exactly with what is declared after it. -/
theorem readLine_eq_ok_iff {shader next : Option Artifact} {line : Line} :
    readLine shader line = .ok next ↔ Step shader line.words next := by
  -- The reader tells lines apart by their first word, and each of its branches is one rule.
  have gives := @Line.parameter_eq_ok_iff line
  obtain ⟨text, head, rest⟩ := line
  unfold Line.words at gives ⊢
  unfold readLine
  dsimp only at gives ⊢
  constructor
  · intro reads
    split at reads
    · rename_i isKind
      split at reads
      · simp at reads
      · cases reads
        exact .opens isKind
    · rename_i notKind
      split at reads
      · rename_i isParameter
        split at reads
        · simp at reads
        · rename_i artifact
          obtain ⟨parameter, isRead, done⟩ := ok_of_bind reads
          have given := gives.1 isRead
          split at done
          · rename_i isOutput
            cases done
            subst isOutput
            exact .output given
          · rename_i notOutput
            cases done
            have isInput : head = "param" := by simpa [notOutput] using isParameter
            subst isInput
            exact .input given
      · rename_i notParameter
        cases reads
        refine .other (fun opens => notKind (opens_cons_iff.1 opens)) fun parameter => notParameter ?_
        simpa using isParameter_cons_iff.1 parameter
  · intro step
    -- A rule determines the first word, and with it the branch that is taken.
    cases step with
    | opens isKind => rw [if_pos isKind]
    | @input artifact _ parameter given =>
      obtain ⟨_, same⟩ := given.exists_rest
      cases same
      have notKind : "param" ∉ shaderWords := by decide
      rw [if_neg notKind, if_pos (by simp), gives.2 given]
      rfl
    | @output artifact _ parameter given =>
      obtain ⟨_, same⟩ := given.exists_rest
      cases same
      have notKind : "oparam" ∉ shaderWords := by decide
      rw [if_neg notKind, if_pos (by simp), gives.2 given]
      rfl
    | other closed unrelated =>
      rw [opens_cons_iff] at closed
      rw [isParameter_cons_iff] at unrelated
      rw [if_neg closed, if_neg (by simpa using unrelated)]

/-! ### All lines -/

/-- What lines that are not faulty declare: nothing before a shader is opened, and then the last one. -/
def Describes (lines : List (List String)) : Option Artifact → Prop
  | none => ∀ words ∈ lines, ¬Opens words
  | some artifact => Declares lines artifact

variable {lines : List (List String)} {words : List String} {shader next : Option Artifact} {artifact : Artifact}

/-- Lines that declare a shader open one. -/
theorem Declares.exists_opens (declares : Declares lines artifact) : ∃ words ∈ lines, Opens words := by
  -- The line behind which all is read opens the shader.
  cases declares with
  | @last _ _ kind rest isKind split =>
    refine ⟨kind :: artifact.name :: rest, ?_, kind, isKind, _, rfl⟩
    rw [split]
    exact List.mem_append_right _ List.mem_cons_self

/-- Lines that are faulty are so with one more line, too. -/
theorem Faulty.concat (faulty : Faulty lines) (words : List String) : Faulty (lines ++ [words]) := by
  -- A fault is about lines that are there, or about what stands before one, and both stay.
  cases faulty with
  | unnamed isKind listed => exact .unnamed isKind (List.mem_append_left _ listed)
  | incomplete lacks listed => exact .incomplete lacks (List.mem_append_left _ listed)
  | early parameter split unopened =>
    exact .early parameter (by rw [split, List.append_assoc, List.cons_append]) unopened

/-- Where lines are not faulty, each line can be read after those before it. -/
theorem exists_step (faultless : ¬Faulty (lines ++ [words])) (nonempty : words ≠ [])
    (describes : Describes lines shader) : ∃ next, Step shader words next := by
  have listed : words ∈ lines ++ [words] := List.mem_append_right _ List.mem_cons_self
  cases words with
  | nil => exact absurd rfl nonempty
  | cons head rest =>
    by_cases isKind : head ∈ shaderWords
    -- A shader needs a name, and a line that opens one without a name is a fault.
    · cases rest with
      | nil => exact absurd (.unnamed isKind listed) faultless
      | cons name rest => exact ⟨_, .opens isKind⟩
    · by_cases isParameter : IsParameter (head :: rest)
      · cases shader with
        -- Without a shader the parameter comes too early.
        | none => exact absurd (.early isParameter rfl describes) faultless
        | some artifact =>
          have whole : ¬Incomplete (head :: rest) := fun lacks => faultless (.incomplete lacks listed)
          -- With a shader the parameter is added to its inputs or to its outputs.
          rcases isParameter_cons_iff.1 isParameter with rfl | rfl
          · obtain ⟨parameter, gives⟩ := exists_gives (by decide) whole
            exact ⟨_, .input gives⟩
          · obtain ⟨parameter, gives⟩ := exists_gives (by decide) whole
            exact ⟨_, .output gives⟩
      · exact ⟨shader, .other (fun opens => isKind (opens_cons_iff.1 opens)) isParameter⟩

/-- A line that can be read after others is not at fault. -/
theorem Step.not_faulty (step : Step shader words next) (describes : Describes lines shader)
    (faultless : ¬Faulty lines) : ¬Faulty (lines ++ [words]) := by
  -- A line for a parameter is read only where it gives one and a shader is open.
  have opened : IsParameter words → ¬Incomplete words ∧ ∃ earlier ∈ lines, Opens earlier := by
    intro parameter
    cases step with
    | opens isKind => exact absurd (opens_cons_iff.2 isKind) (not_opens_of_isParameter parameter)
    | input gives => exact ⟨gives.not_incomplete, describes.exists_opens⟩
    | output gives => exact ⟨gives.not_incomplete, describes.exists_opens⟩
    | other closed unrelated => exact absurd parameter unrelated
  intro faulty
  cases faulty with
  | @unnamed kind isKind listed =>
    rcases List.mem_append.1 listed with before | here
    · exact faultless (.unnamed isKind before)
    · obtain rfl := List.mem_singleton.1 here
      have opens : Opens [kind] := opens_cons_iff.2 isKind
      cases step with
      | input gives => cases gives
      | output gives => cases gives
      | other closed unrelated => exact closed opens
  | @incomplete faulty lacks listed =>
    rcases List.mem_append.1 listed with before | here
    · exact faultless (.incomplete lacks before)
    · obtain rfl := List.mem_singleton.1 here
      have parameter : IsParameter faulty := by
        obtain ⟨kind, isKind, rfl | ⟨_, rfl⟩ | ⟨_, rfl⟩⟩ := lacks <;> exact ⟨kind, isKind, _, rfl⟩
      exact (opened parameter).1 lacks
  | @early before after faulty parameter split unopened =>
    rcases List.eq_nil_or_concat after with rfl | ⟨others, last, rfl⟩
    -- The new line comes too early, or one that was read before it.
    · obtain ⟨rfl, same⟩ := List.append_inj' split rfl
      obtain rfl := List.singleton_inj.1 same
      obtain ⟨_, earlier, isEarlier, opens⟩ := opened parameter
      exact unopened earlier isEarlier opens
    · rw [List.concat_eq_append, ← List.cons_append, ← List.append_assoc] at split
      obtain ⟨same, _⟩ := List.append_inj' split rfl
      exact faultless (.early parameter same unopened)

/-- Lines go on to declare a shader when one follows that opens none, with the parameter that it gives. -/
theorem Declares.concat (declares : Declares lines artifact) (closed : ¬Opens words) {inputs outputs : List Parameter}
    (given : List.Forall₂ (Gives "param") ([words].filter (·.head? = some "param")) inputs)
    (given' : List.Forall₂ (Gives "oparam") ([words].filter (·.head? = some "oparam")) outputs) :
    Declares (lines ++ [words]) ⟨artifact.name, artifact.inputs ++ inputs, artifact.outputs ++ outputs⟩ := by
  cases declares with
  | @last before after kind rest isKind split isLast earlier earlier' =>
    -- The line that opened the shader stays the last of its kind.
    have split' : lines ++ [words] = before ++ (kind :: artifact.name :: rest) :: (after ++ [words]) := by
      rw [split, List.append_assoc, List.cons_append]
    refine .last isKind split' ?_ ?_ ?_
    · intro later isLater
      rcases List.mem_append.1 isLater with behind | here
      · exact isLast later behind
      · rw [List.mem_singleton.1 here]
        exact closed
    -- The parameters of the new line follow those listed before.
    · rw [List.filter_append]
      exact List.rel_append earlier given
    · rw [List.filter_append]
      exact List.rel_append earlier' given'

/-- What is described before a line is described after it, once the line is read. -/
theorem Step.describes (step : Step shader words next) (describes : Describes lines shader) :
    Describes (lines ++ [words]) next := by
  cases step with
  -- A shader that is opened starts with no parameters.
  | opens isKind => exact .last isKind rfl (by simp) .nil .nil
  | @input artifact _ parameter gives =>
    obtain ⟨rest, rfl⟩ := gives.exists_rest
    have closed : ¬Opens ("param" :: rest) := not_opens_of_isParameter (isParameter_cons_iff.2 (.inl rfl))
    have declares := Declares.concat describes closed (.cons gives .nil) .nil
    rw [List.append_nil] at declares
    exact declares
  | @output artifact _ parameter gives =>
    obtain ⟨rest, rfl⟩ := gives.exists_rest
    have closed : ¬Opens ("oparam" :: rest) := not_opens_of_isParameter (isParameter_cons_iff.2 (.inr rfl))
    have declares := Declares.concat describes closed .nil (.cons gives .nil)
    rw [List.append_nil] at declares
    exact declares
  | other closed unrelated =>
    cases shader with
    | none =>
      intro earlier listed
      rcases List.mem_append.1 listed with before | here
      · exact describes earlier before
      · rw [List.mem_singleton.1 here]
        exact closed
    | some artifact =>
      -- A line of another kind is skipped by both filters, so that nothing is added.
      have skipped (kind : String) (isKind : kind ∈ parameterWords) :
          [words].filter (·.head? = some kind) = [] := by
        rw [List.filter_eq_nil_iff]
        intro line here
        rw [List.mem_singleton.1 here, decide_eq_true_eq]
        intro begins
        obtain ⟨rest, rfl⟩ := List.head?_eq_some_iff.1 begins
        exact unrelated ⟨kind, isKind, rest, rfl⟩
      have input : List.Forall₂ (Gives "param") ([words].filter (·.head? = some "param")) [] := by
        rw [skipped "param" (by decide)]
        exact .nil
      have output : List.Forall₂ (Gives "oparam") ([words].filter (·.head? = some "oparam")) [] := by
        rw [skipped "oparam" (by decide)]
        exact .nil
      have declares := Declares.concat describes closed input output
      rw [List.append_nil, List.append_nil] at declares
      exact declares

/-- Reading lines one by one succeeds exactly if they are not faulty, and then with what they describe. -/
theorem foldlM_readLine (list : List Line) :
    (∀ state, list.foldlM readLine none = .ok state →
      ¬Faulty (list.map Line.words) ∧ Describes (list.map Line.words) state) ∧
    (¬Faulty (list.map Line.words) → ∃ state, list.foldlM readLine none = .ok state) := by
  -- The lines are read from the first on, so the last one is the next.
  induction list using List.reverseRecOn with
  | nil =>
    constructor
    · intro state reads
      cases reads
      refine ⟨?_, by simp [Describes]⟩
      intro faulty
      cases faulty with
      | unnamed _ listed => simp at listed
      | incomplete _ listed => simp at listed
      | early _ split => simp at split
    · intro _
      exact ⟨none, rfl⟩
  | append_singleton front line ih =>
    obtain ⟨sound, complete⟩ := ih
    rw [List.foldlM_append, List.map_append, List.map_singleton]
    constructor
    · intro state reads
      obtain ⟨shader, before, last⟩ := ok_of_bind reads
      rw [List.foldlM_cons] at last
      obtain ⟨next, isRead, done⟩ := ok_of_bind last
      cases done
      obtain ⟨faultless, describes⟩ := sound shader before
      have step := readLine_eq_ok_iff.1 isRead
      exact ⟨step.not_faulty describes faultless, step.describes describes⟩
    -- A faultless list has a faultless front, so there is a state to go on from.
    · intro faultless
      obtain ⟨shader, before⟩ := complete fun faulty => faultless (faulty.concat line.words)
      obtain ⟨next, step⟩ := exists_step faultless (List.cons_ne_nil _ _) (sound shader before).2
      refine ⟨next, ?_⟩
      rw [before]
      simp only [bind, Except.bind, List.foldlM_cons, List.foldlM_nil, readLine_eq_ok_iff.2 step]
      rfl

/-- A list is split in one way only at the last element with a property. -/
theorem last_split_unique {α : Type} {property : α → Prop} {before before' after after' : List α} {a a' : α}
    (same : before ++ a :: after = before' ++ a' :: after') (holds : property a) (holds' : property a')
    (isLast : ∀ later ∈ after, ¬property later) (isLast' : ∀ later ∈ after', ¬property later) :
    a = a' ∧ after = after' := by
  rcases List.append_eq_append_iff.1 same with ⟨between, _, behind⟩ | ⟨between, _, behind⟩
  · cases between with
    | nil =>
      rw [List.nil_append, List.cons.injEq] at behind
      exact behind
    -- The second split would lie behind the first.
    | cons first others =>
      rw [List.cons_append, List.cons.injEq] at behind
      exact absurd holds' (isLast a' (behind.2 ▸ List.mem_append_right _ List.mem_cons_self))
  · cases between with
    | nil =>
      rw [List.nil_append, List.cons.injEq] at behind
      exact ⟨behind.1.symm, behind.2.symm⟩
    | cons first others =>
      rw [List.cons_append, List.cons.injEq] at behind
      exact absurd holds (isLast' a (behind.2 ▸ List.mem_append_right _ List.mem_cons_self))

/-- Lines declare one shader only. -/
theorem Declares.unique {other : Artifact} (declares : Declares lines artifact) (declares' : Declares lines other) :
    artifact = other := by
  -- Both look at the last line that opens, and a line has one last split.
  have gives (kind : String) : Relator.RightUnique (Gives kind) := fun _ _ _ given given' => given.unique given'
  cases declares with
  | last isKind split isLast inputs outputs =>
    cases declares' with
    | last isKind' split' isLast' inputs' outputs' =>
      obtain ⟨line, after⟩ := last_split_unique (split.symm.trans split') (opens_cons_iff.2 isKind)
        (opens_cons_iff.2 isKind') isLast isLast'
      subst after
      -- The one line names both, and what follows it lists the parameters of both.
      have named : artifact.name = other.name := by
        simp only [List.cons.injEq] at line
        exact line.2.1
      have same : artifact.inputs = other.inputs := List.right_unique_forall₂' (gives "param") inputs inputs'
      have same' : artifact.outputs = other.outputs := List.right_unique_forall₂' (gives "oparam") outputs outputs'
      cases artifact
      cases other
      simp only [mk.injEq]
      exact ⟨named, same, same'⟩

/-- Reading a text succeeds exactly with the shader that is open once its lines are read. -/
theorem ofText_eq_ok_iff {text : String} :
    ofText text = .ok artifact ↔ (declarationLines text).foldlM readLine none = .ok (some artifact) := by
  -- Only the last state matters, which has to hold a shader.
  unfold ofText
  constructor
  · intro reads
    obtain ⟨state, read, done⟩ := ok_of_bind reads
    rw [read]
    cases state with
    | none => cases done
    | some found =>
      cases done
      rfl
  · intro reads
    rw [reads]
    rfl

/-- A text is read as a shader exactly if nothing in front of the code section is faulty and the shader is declared
there. -/
theorem ofText_eq_ok_iff_declares {text : String} :
    ofText text = .ok artifact ↔ ¬Faulty (declared text) ∧ Declares (declared text) artifact := by
  obtain ⟨sound, complete⟩ := foldlM_readLine (declarationLines text)
  rw [words_declarationLines] at sound complete
  rw [ofText_eq_ok_iff]
  constructor
  · intro reads
    exact sound (some artifact) reads
  · intro declared
    -- Without a fault the lines are read, to a shader or to none.
    obtain ⟨faultless, declares⟩ := declared
    obtain ⟨state, reads⟩ := complete faultless
    have described := (sound state reads).2
    rw [reads]
    -- What was read is described as well, and a shader that is declared rules out that there is none.
    cases state with
    | none =>
      obtain ⟨words, listed, opens⟩ := declares.exists_opens
      exact absurd opens (described words listed)
    | some read => rw [Declares.unique described declares]

/-- Lines that are not faulty and open a shader declare one. -/
theorem exists_declares {text : String} (faultless : ¬Faulty (declared text))
    (opened : ∃ words ∈ declared text, Opens words) : ∃ artifact, Declares (declared text) artifact := by
  -- Without faults the fold has a state, and a line that opens leaves a shader in it.
  obtain ⟨sound, complete⟩ := foldlM_readLine (declarationLines text)
  rw [words_declarationLines] at sound complete
  obtain ⟨state, reads⟩ := complete faultless
  cases state with
  | none =>
    obtain ⟨words, listed, opens⟩ := opened
    exact absurd opens ((sound none reads).2 words listed)
  | some artifact => exact ⟨artifact, (sound (some artifact) reads).2⟩

/-- Reading succeeds exactly with the shader that is declared in front of the code section, where no line is faulty,
and fails exactly if a line there is faulty or none opens a shader. What comes from the code section on makes no
difference. -/
theorem ofText_reads (text : String) :
    (∀ artifact, ofText text = .ok artifact ↔ ¬Faulty (declared text) ∧ Declares (declared text) artifact) ∧
    ((∃ cause, ofText text = .error cause) ↔
      Faulty (declared text) ∨ ∀ words ∈ declared text, ¬Opens words) ∧
    ∀ other, front other = front text → ofText other = ofText text := by
  refine ⟨fun artifact => ofText_eq_ok_iff_declares, ?_, ?_⟩
  -- Failing is having no result, so the first part decides the second.
  · rw [exists_error_iff]
    constructor
    · intro fails
      by_cases faulty : Faulty (declared text)
      · exact .inl faulty
      · right
        intro words listed opens
        obtain ⟨artifact, declares⟩ := exists_declares faulty ⟨words, listed, opens⟩
        exact fails artifact (ofText_eq_ok_iff_declares.2 ⟨faulty, declares⟩)
    · intro fault artifact reads
      obtain ⟨faultless, declares⟩ := ofText_eq_ok_iff_declares.1 reads
      rcases fault with faulty | unopened
      · exact faultless faulty
      · obtain ⟨words, listed, opens⟩ := declares.exists_opens
        exact unopened words listed opens
  -- The text is looked at through its front only.
  · intro other same
    unfold ofText
    rw [declarationLines_eq, declarationLines_eq, same]

namespace Sample

/-- A text with a first shader that is dropped, a comment, a closure, and lines behind the code section. -/
def text : String :=
  "light a\nparam int b\n# c\nshader d\n param\tint e\noparam closure color f\ncode\nparam\nlight g"

/-- The same text in front of the code section, and another one from there on. -/
def other : String :=
  "light a\nparam int b\n# c\nshader d\n param\tint e\noparam closure color f\ncode h"

/-- What both texts declare. -/
def sample : Artifact :=
  ⟨"d", [⟨"e", "int"⟩], [⟨"f", "closure color"⟩]⟩

/-- The texts agree in front of the code section, where nothing is faulty and the sample is declared, so the second is
read as the sample, too. -/
theorem sample_reads :
    front other = front text ∧ ¬Faulty (declared text) ∧ Declares (declared text) sample ∧
      ofText other = .ok sample := by
  -- Both texts are run, and what is declared is read off the successful run.
  have same : front other = front text := by decide +kernel
  have reads : ofText text = .ok sample := by decide +kernel
  have declared := ((ofText_reads text).1 sample).1 reads
  have ignored : ofText other = ofText text := (ofText_reads text).2.2 other same
  exact ⟨same, declared.1, declared.2, ignored.trans reads⟩

end Sample

end Artifact

end ShadeBake
