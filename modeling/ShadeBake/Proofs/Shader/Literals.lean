import ShadeBake.Document.Description
import ShadeBake.Json.Numeral
import ShadeBake.Proofs.Binary.Numeral
import ShadeBake.Proofs.Shader.Quotation

/-! Literals of the shading language: which texts they are, and that the text of a constant is one of its type
exactly if all numbers in it are finite. -/

namespace ShadeBake

open Decimal (IsNumeral)

/-- The types that are constructed from numbers, with how many numbers they take. -/
def ShaderType.arities : List (ShaderType × Nat) :=
  [(.color, 1), (.color, 3), (.vector, 1), (.vector, 3), (.vector2, 2), (.vector4, 4)]

/-- A text is a literal of a type when it is quotes that are closed by its last character, a numeral, or the
constructor of the type applied to numerals, which for a color4 are those of a colour and one more. -/
inductive IsLiteral : ShaderType → List Char → Prop
  | quoted {text s : List Char} (reads : Quoted.decode text = some (s, [])) (line : '\n' ∉ text) :
      IsLiteral .string text
  | number {text : List Char} (numeral : IsNumeral text) : IsLiteral .float text
  | integer {text : List Char} (numeral : IsNumeral text) (whole : '.' ∉ text) : IsLiteral .int text
  | call {type : ShaderType} {parts : List (List Char)} (known : (type, parts.length) ∈ ShaderType.arities)
      (numerals : ∀ part ∈ parts, IsNumeral part) :
      IsLiteral type (type.name.toList ++ '(' :: (List.intercalate [',', ' '] parts ++ [')']))
  | color4 {parts : List (List Char)} {last : List Char} (three : parts.length = 3)
      (numerals : ∀ part ∈ parts, IsNumeral part) (further : IsNumeral last) :
      IsLiteral .color4 ("color4(color(".toList ++
        (List.intercalate [',', ' '] parts ++ ("), ".toList ++ (last ++ [')']))))

/-! ### Characters of literals -/

/-- A character of a list's text is one of a part, or separates two parts. -/
theorem mem_of_mem_intercalate {separator : List Char} {parts : List (List Char)} {c : Char}
    (inside : c ∈ List.intercalate separator parts) : (∃ part ∈ parts, c ∈ part) ∨ c ∈ separator := by
  -- The list is gone through part by part, with the separator between two of them.
  induction parts with
  | nil => simp [List.intercalate] at inside
  | cons part rest ih =>
    cases rest with
    | nil => exact .inl ⟨part, List.mem_cons_self, by simpa [List.intercalate] using inside⟩
    | cons next others =>
      rw [List.intercalate_cons_cons, List.mem_append, List.mem_append] at inside
      rcases inside with (here | between) | later
      · exact .inl ⟨part, List.mem_cons_self, here⟩
      · exact .inr between
      · exact (ih later).imp_left fun ⟨other, listed, member⟩ => ⟨other, List.mem_cons_of_mem _ listed, member⟩

/-- The characters of a part are in a list's text. -/
theorem mem_intercalate {separator : List Char} {parts : List (List Char)} {part : List Char}
    (listed : part ∈ parts) {c : Char} (inside : c ∈ part) : c ∈ List.intercalate separator parts := by
  -- The part is the first one or one of the others, which the separator comes before.
  induction parts with
  | nil => exact absurd listed List.not_mem_nil
  | cons first rest ih =>
    cases rest with
    | nil => simpa [List.intercalate, List.mem_singleton.1 listed] using inside
    | cons next others =>
      rw [List.intercalate_cons_cons, List.mem_append, List.mem_append]
      rcases List.mem_cons.1 listed with rfl | later
      · exact .inl (.inl inside)
      · exact .inr (ih later)

/-- A letter is stray when it gives away a number without a numeral. -/
def IsStray (letter : Char) : Prop :=
  letter = 'N' ∨ letter = 'f'

/-- No numeral has such a letter. -/
theorem Decimal.IsNumeral.not_mem {text : List Char} (numeral : IsNumeral text) {letter : Char}
    (stray : IsStray letter) : letter ∉ text := by
  -- A numeral has digits, a point and a minus sign, and none is a letter.
  intro inside
  have known := numeral.mem inside
  rcases stray with rfl | rfl
  · simp at known
  · simp at known

/-- Neither has a list of numerals. -/
theorem not_mem_numerals {parts : List (List Char)} (numerals : ∀ part ∈ parts, IsNumeral part) {letter : Char}
    (stray : IsStray letter) : letter ∉ List.intercalate [',', ' '] parts := by
  -- What stands between numerals is a comma and a space.
  intro inside
  rcases mem_of_mem_intercalate inside with ⟨part, listed, member⟩ | separator
  · exact (numerals part listed).not_mem stray member
  · rcases stray with rfl | rfl
    · simp at separator
    · simp at separator

/-- Nor has any literal but a string. -/
theorem IsLiteral.not_mem {type : ShaderType} {text : List Char} (literal : IsLiteral type text)
    (other : type ≠ .string) {letter : Char} (stray : IsStray letter) : letter ∉ text := by
  -- The names of the types and their brackets have neither of the two letters.
  cases literal with
  | quoted reads line => exact absurd rfl other
  | number numeral => exact numeral.not_mem stray
  | integer numeral whole => exact numeral.not_mem stray
  | @call type parts known numerals =>
    have names : ∀ entry ∈ ShaderType.arities, letter ∉ entry.1.name.toList ∧ letter ∉ ['(', ')'] := by
      rcases stray with rfl | rfl
      · decide
      · decide
    obtain ⟨named, brackets⟩ := names _ known
    -- The letters are in no numeral either.
    have listed := not_mem_numerals numerals stray
    simp only [List.mem_append, List.mem_cons, List.not_mem_nil, or_false, not_or] at brackets ⊢
    exact ⟨named, brackets.1, listed, brackets.2⟩
  | @color4 parts last three numerals further =>
    have frame : letter ∉ "color4(color(".toList ∧ letter ∉ "), ".toList ∧ letter ∉ [')'] := by
      rcases stray with rfl | rfl
      · decide
      · decide
    obtain ⟨front, between, back⟩ := frame
    have listed := not_mem_numerals numerals stray
    simp only [List.mem_append, not_or]
    exact ⟨front, listed, between, further.not_mem stray, back⟩

namespace Constant

/-- The numbers in a constant. -/
def numbers : Constant → List Binary
  | .string _ => []
  | .number x => [x]
  | .integer _ => []
  | .construct _ parts => parts
  | .color4 red green blue alpha => [red, green, blue, alpha]

/-- A constant has a type when it is of the kind that the type's literals are. -/
inductive HasType : ShaderType → Constant → Prop
  | string (s : String) : HasType .string (.string s)
  | number (x : Binary) : HasType .float (.number x)
  | integer (n : Int) : HasType .int (.integer n)
  | construct {type : ShaderType} {parts : List Binary} (known : (type, parts.length) ∈ ShaderType.arities) :
      HasType type (.construct type parts)
  | color4 (red green blue alpha : Binary) : HasType .color4 (.color4 red green blue alpha)

/-- The text of a number. -/
theorem toList_numberText (x : Binary) : (numberText x).toList = x.sourceText .single :=
  -- The text is made of the list of its characters.
  String.toList_ofList

/-- The text of numbers is that of each of them, between commas. -/
theorem toList_partsText (parts : List Binary) :
    (partsText parts).toList = List.intercalate [',', ' '] (parts.map (·.sourceText .single)) := by
  -- Each part is written as a number.
  have each : parts.map (String.toList ∘ numberText) = parts.map (·.sourceText .single) :=
    List.map_congr_left fun x _ => toList_numberText x
  rw [partsText, String.toList_intercalate, List.map_map, each]
  rfl

/-- The text of a constructed value. -/
theorem toList_text_construct (type : ShaderType) (parts : List Binary) :
    (construct type parts).text.toList = type.name.toList ++
      '(' :: (List.intercalate [',', ' '] (parts.map (·.sourceText .single)) ++ [')']) := by
  -- The texts are put together from the left, and their characters from the right.
  have joined (a b c d : String) : (a ++ b ++ c ++ d).toList =
      a.toList ++ (b.toList ++ (c.toList ++ d.toList)) := by
    simp only [String.toList_append, List.append_assoc]
  rw [← toList_partsText]
  exact joined ..

/-- The text of a colour with its fourth part. -/
theorem toList_text_color4 (red green blue alpha : Binary) :
    (color4 red green blue alpha).text.toList = "color4(color(".toList ++
      (List.intercalate [',', ' '] ([red, green, blue].map (·.sourceText .single)) ++
        ("), ".toList ++ (alpha.sourceText .single ++ [')']))) := by
  -- The texts are put together from the left, and their characters from the right.
  have joined (a b c d e : String) : (a ++ b ++ c ++ d ++ e).toList =
      a.toList ++ (b.toList ++ (c.toList ++ (d.toList ++ e.toList))) := by
    simp only [String.toList_append, List.append_assoc]
  rw [← toList_partsText, ← toList_numberText]
  exact joined ..

/-- The characters of a number are in the text of a constant that has it. -/
theorem mem_text {constant : Constant} {x : Binary} (listed : x ∈ constant.numbers) {c : Char}
    (inside : c ∈ x.sourceText .single) : c ∈ constant.text.toList := by
  -- The cases are the kinds of constants, and a string or an integer has no numbers.
  have within {parts : List Binary} (listed : x ∈ parts) :
      c ∈ List.intercalate [',', ' '] (parts.map (·.sourceText .single)) :=
    mem_intercalate (List.mem_map_of_mem listed) inside
  cases constant with
  | string s => exact absurd listed List.not_mem_nil
  | integer n => exact absurd listed List.not_mem_nil
  | number y =>
    rw [List.mem_singleton.1 listed] at inside
    exact (toList_numberText y).symm ▸ inside
  | construct type parts =>
    rw [toList_text_construct, List.mem_append, List.mem_cons, List.mem_append]
    exact .inr (.inr (.inl (within listed)))
  -- The colour and its alpha are written apart.
  | color4 red green blue alpha =>
    have split : x ∈ [red, green, blue] ++ [alpha] := listed
    rw [toList_text_color4, List.mem_append, List.mem_append, List.mem_append, List.mem_append]
    rcases List.mem_append.1 split with colour | last
    · exact .inr (.inl (within colour))
    · rw [List.mem_singleton.1 last] at inside
      exact .inr (.inr (.inr (.inl inside)))

/-- The texts of finite numbers are numerals. -/
theorem isNumeral_of_mem_map {parts : List Binary} (finite : ∀ x ∈ parts, x.isFinite = true) :
    ∀ part ∈ parts.map (·.sourceText .single), IsNumeral part := by
  -- Each part is the text of a finite number.
  intro part listed
  obtain ⟨x, member, rfl⟩ := List.mem_map.1 listed
  exact Binary.isNumeral_sourceText .single (finite x member)

/-- The text of a constant with finite numbers is a literal of its type. -/
theorem HasType.isLiteral_text {type : ShaderType} {constant : Constant} (typed : HasType type constant)
    (finite : ∀ x ∈ constant.numbers, x.isFinite = true) : IsLiteral type constant.text.toList := by
  cases typed with
  | string s =>
    have reads := Quoted.decode_literal s []
    rw [List.append_nil] at reads
    exact .quoted reads (Quoted.feed_not_mem_literal s)
  | number x =>
    change IsLiteral .float (numberText x).toList
    rw [toList_numberText]
    exact .number (Binary.isNumeral_sourceText .single (finite x (List.mem_singleton_self x)))
  | integer n =>
    change IsLiteral .int (integerText n).toList
    rw [integerText, String.toList_ofList]
    refine .integer ⟨_, _, .whole (Decimal.isDigits_digitsOf n.natAbs), rfl⟩ ?_
    -- Only digits stand behind the sign.
    have digits : '.' ∉ Decimal.digitsOf n.natAbs := fun inside => by
      simpa using Decimal.isDigit_of_mem_digitsOf inside
    unfold Binary.signed
    split
    · simpa using digits
    · exact digits
  -- The brackets hold as many numerals as the type takes.
  | @construct type parts known =>
    rw [toList_text_construct]
    exact .call (by rwa [List.length_map]) (isNumeral_of_mem_map finite)
  | color4 red green blue alpha =>
    have colour : ∀ x ∈ [red, green, blue], x.isFinite = true :=
      fun x listed => finite x (List.mem_append_left [alpha] listed)
    have last : alpha.isFinite = true :=
      finite alpha (List.mem_append_right [red, green, blue] (List.mem_singleton_self alpha))
    rw [toList_text_color4]
    exact .color4 rfl (isNumeral_of_mem_map colour) (Binary.isNumeral_sourceText .single last)

/-- The text of a constant is a literal of its type exactly if the numbers in it are finite. -/
theorem HasType.isLiteral_text_iff {type : ShaderType} {constant : Constant} (typed : HasType type constant) :
    IsLiteral type constant.text.toList ↔ ∀ x ∈ constant.numbers, x.isFinite = true := by
  refine ⟨fun literal x listed => ?_, typed.isLiteral_text⟩
  have other : type ≠ .string := by
    rintro rfl
    cases typed with
    | string s => exact absurd listed List.not_mem_nil
    | construct known => exact absurd known (by simp [ShaderType.arities])
  cases bounded : x.isFinite with
  | true => rfl
  -- The letter that gives the number away is in the text, where no literal has it.
  | false =>
    rcases Binary.letter_mem_sourceText .single bounded with letter | letter
    · exact absurd (mem_text listed letter) (literal.not_mem other (.inl rfl))
    · exact absurd (mem_text listed letter) (literal.not_mem other (.inr rfl))

end Constant

/-! ### Literals of documents -/

/-- A literal of a document is finite when all numbers in it are. -/
def Literal.isFinite : Literal → Bool
  | .float x => x.isFinite
  | .vector xs => xs.all Binary.isFinite
  | _ => true

/-- An integer of a literal has 64 bits. -/
def Literal.IsWord (value : Literal) : Prop :=
  ∀ n, value = .integer n → n.natAbs ≤ 0x8000000000000000

namespace Constant

/-- The constant of a type that expresses a literal has the type. -/
theorem hasType_of_ofLiteral? {type : ShaderType} {value : Literal} {constant : Constant}
    (expressed : ofLiteral? type value = some constant) : HasType type constant := by
  unfold ofLiteral? at expressed
  split at expressed
  all_goals cases expressed
  · exact .string _
  · exact .number _
  · exact .number _
  · exact .integer _
  · exact .integer _
  case h_12 => exact .color4 ..
  -- All others are constructed from as many numbers as the type takes.
  all_goals exact .construct (by simp [ShaderType.arities])

/-- The numbers in the constant that expresses a literal are finite exactly if those of the literal are. -/
theorem finite_numbers_iff {type : ShaderType} {value : Literal} {constant : Constant}
    (expressed : ofLiteral? type value = some constant) (word : value.IsWord) :
    (∀ x ∈ constant.numbers, x.isFinite = true) ↔ value.isFinite = true := by
  unfold ofLiteral? at expressed
  split at expressed
  all_goals cases expressed
  -- An integer of 64 bits that stands for a number is finite.
  case h_3 => simpa [numbers, Literal.isFinite] using Binary.isFinite_ofInt (word _ rfl)
  all_goals simp [numbers, Literal.isFinite]

end Constant

namespace Shader

open Document (Node)

/-- A literal for an input of a known type is either expressed or refused with an error, and what it is expressed
by is a literal of the shading language of that type exactly if it has no infinity or NaN. -/
theorem literal_isLiteral_iff (node : Node) (name type : String) {value : Literal} {known : ShaderType}
    (typed : inputType node name (if type = "" then value.valueType else type) = .ok known)
    (word : value.IsWord) :
    literal node name type value = .error (.inexpressible value known) ∨
      ∃ constant, literal node name type value = .ok (.constant constant) ∧
        (IsLiteral known constant.text.toList ↔ value.isFinite = true) := by
  -- The literal is expressed or refused, and what is expressed is of the known type.
  have looked : literal node name type value =
      (Constant.ofLiteral? known value).elim (.error (.inexpressible value known)) fun constant =>
        .ok (.constant constant) := by
    simp only [literal, typed, Bind.bind, Except.bind]
    cases Constant.ofLiteral? known value with
    | none => rfl
    | some constant => rfl
  rw [looked]
  -- What is expressed has finite numbers exactly if the value has.
  cases expressed : Constant.ofLiteral? known value with
  | none => exact .inl rfl
  | some constant =>
    refine .inr ⟨constant, rfl, ?_⟩
    rw [(Constant.hasType_of_ofLiteral? expressed).isLiteral_text_iff,
      Constant.finite_numbers_iff expressed word]

end Shader

namespace Shader.Overflowing

open Document (Node)

/-- A constant, whose value is a float. -/
def node : Node where
  name := "c"
  category := "constant"
  type := "float"

/-- The value that is read from `1e39`, which is too large for single precision. -/
def value : Literal :=
  .float (.infinite false)

/-- A number that is too large is expressed by a word that is no literal. -/
theorem no_literal :
    (∃ number, Numeral.read "1e39".toList = some (some number, []) ∧
      Literal.ofParameter? "float" (.plain (.number number)) = some value) ∧
    inputType node "value" "float" = .ok .float ∧ value.IsWord ∧
    ∃ constant, literal node "value" "float" value = .ok (.constant constant) ∧ constant.text = "inf" ∧
      ¬IsLiteral .float constant.text.toList := by
  -- The number is read, narrowed to an infinity and written as a word, which is no numeral.
  have typed : inputType node "value" "float" = .ok .float := by decide
  have word : value.IsWord := fun n same => by cases same
  refine ⟨⟨.real (.ofDecimal .double false 1 39), by decide +kernel, by decide +kernel⟩, typed, word, ?_⟩
  rcases literal_isLiteral_iff node "value" "float" typed word with refused | ⟨constant, expressed, finite⟩
  · have accepted : literal node "value" "float" value ≠ .error (.inexpressible value .float) := by decide +kernel
    exact absurd refused accepted
  · have same : literal node "value" "float" value = .ok (.constant (.number (.infinite false))) := by rfl
    rw [same] at expressed
    cases expressed
    exact ⟨_, same, by decide +kernel, fun literal => absurd (finite.1 literal) (by decide)⟩

end Shader.Overflowing

end ShadeBake
