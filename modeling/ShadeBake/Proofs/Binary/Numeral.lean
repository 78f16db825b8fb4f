import ShadeBake.Binary.Written

/-! Decimal numerals: the text of a number in shader source is one exactly if the number is finite. -/

namespace ShadeBake

namespace Decimal

/-- The digits of a number are digits. -/
theorem isDigit_of_mem_digitsOf {n : Nat} {c : Char} (inside : c ∈ digitsOf n) : c.isDigit = true :=
  -- The base is ten, so no letter is used for a digit.
  Nat.isDigit_of_mem_toDigits (by omega) (by omega) inside

/-- A text is a run of digits when it has some and nothing else. -/
def IsDigits (text : List Char) : Prop :=
  text ≠ [] ∧ ∀ c ∈ text, c.isDigit = true

/-- A text is a numeral without sign when it is a run of digits, or has a second one behind a point. -/
inductive IsUnsigned : List Char → Prop
  | whole {digits : List Char} (whole : IsDigits digits) : IsUnsigned digits
  | pointed {digits places : List Char} (whole : IsDigits digits) (fraction : IsDigits places) :
      IsUnsigned (digits ++ '.' :: places)

/-- A text is a decimal numeral when it has no sign, or a minus sign in front of a numeral without one. -/
def IsNumeral (text : List Char) : Prop :=
  ∃ negative unsigned, IsUnsigned unsigned ∧ text = Binary.signed negative unsigned

/-- The digits of a number are a run of digits. -/
theorem isDigits_digitsOf (n : Nat) : IsDigits (digitsOf n) :=
  -- The decimal form of a number is never empty.
  ⟨Nat.toDigits_ne_nil, fun _ inside => isDigit_of_mem_digitsOf inside⟩

/-- A zero alone is a run of digits. -/
theorem isDigits_zero : IsDigits ['0'] :=
  -- A single character, which is a digit.
  ⟨List.cons_ne_nil _ _, List.forall_mem_singleton.2 (by decide)⟩

/-- Two runs of digits, one of which may be empty, make one run. -/
theorem IsDigits.append {front back : List Char} (digits : IsDigits front ∨ IsDigits back)
    (inFront : ∀ c ∈ front, c.isDigit = true) (inBack : ∀ c ∈ back, c.isDigit = true) :
    IsDigits (front ++ back) := by
  -- Digits on one side are enough for the whole not to be empty.
  refine ⟨fun empty => ?_, fun c inside => (List.mem_append.1 inside).elim (inFront c) (inBack c)⟩
  obtain ⟨noFront, noBack⟩ := List.append_eq_nil_iff.1 empty
  exact digits.elim (·.1 noFront) (·.1 noBack)

/-- Zeros are digits. -/
theorem isDigit_of_mem_zeros {n : Nat} {c : Char} (inside : c ∈ List.replicate n '0') : c.isDigit = true := by
  -- A replicated list has one element only.
  rw [List.eq_of_mem_replicate inside]
  rfl

/-- A plain positional text is a numeral without sign. -/
theorem isUnsigned_positionalText (decimal : Decimal) : IsUnsigned (positionalText .plain decimal) := by
  have digits := isDigits_digitsOf decimal.digits
  unfold positionalText
  split
  -- Zeros take the place of the missing digits, and no point follows.
  · rename_i n _
    have long := IsDigits.append (.inl digits) digits.2 fun c => isDigit_of_mem_zeros (n := n)
    simpa [DecimalLayout.plain] using IsUnsigned.whole long
  · rename_i n _
    simp only
    split
    -- The point falls among the digits, with some of them on either side.
    · rename_i short
      refine .pointed ⟨?_, fun c inside => digits.2 c (List.mem_of_mem_take inside)⟩
        ⟨?_, fun c inside => digits.2 c (List.mem_of_mem_drop inside)⟩
      · exact List.ne_nil_of_length_pos (by rw [List.length_take]; omega)
      · exact List.ne_nil_of_length_pos (by rw [List.length_drop]; omega)
    · exact .pointed isDigits_zero (.append (.inr digits) (fun c => isDigit_of_mem_zeros) digits.2)

/-- A numeral has no other characters than digits, a point and a minus sign. -/
theorem IsNumeral.mem {text : List Char} (numeral : IsNumeral text) {c : Char} (inside : c ∈ text) :
    c.isDigit = true ∨ c = '.' ∨ c = '-' := by
  -- The sign is in front, and what follows are digits with at most one point among them.
  obtain ⟨negative, unsigned, written, rfl⟩ := numeral
  have within : c ∈ unsigned ∨ c = '-' := by
    cases negative with
    | false => exact .inl inside
    | true => exact (List.mem_cons.1 inside).symm
  rcases within with member | sign
  -- An unsigned numeral is whole, or has a point between its digits.
  · cases written with
    | whole whole => exact .inl (whole.2 c member)
    | pointed whole fraction =>
      rw [List.mem_append, List.mem_cons] at member
      rcases member with front | point | back
      · exact .inl (whole.2 c front)
      · exact .inr (.inl point)
      · exact .inl (fraction.2 c back)
  · exact .inr (.inr sign)

end Decimal

namespace Binary

open Decimal (IsNumeral IsUnsigned)

/-- The source text of a finite number is a numeral. -/
theorem isNumeral_sourceText {x : Binary} (format : BinaryFormat) (finite : x.isFinite = true) :
    IsNumeral (x.sourceText format) := by
  unfold sourceText
  split
  -- A whole number has all its digits and one zero behind the point.
  · exact ⟨_, _, .pointed (Decimal.isDigits_digitsOf _) Decimal.isDigits_zero, rfl⟩
  · cases x with
    | nan => simp [isFinite] at finite
    | infinite negative => simp [isFinite] at finite
    | finite negative significand exponent =>
      refine ⟨negative, _, ?_, rfl⟩
      split
      · exact .whole Decimal.isDigits_zero
      · exact Decimal.isUnsigned_positionalText _

/-- The source text of an infinity or of NaN has a letter that gives it away. -/
theorem letter_mem_sourceText {x : Binary} (format : BinaryFormat) (infinite : x.isFinite = false) :
    'N' ∈ x.sourceText format ∨ 'f' ∈ x.sourceText format := by
  -- An infinity ends in the last letter of its word, and the other word has a capital.
  cases x with
  | nan => exact .inl (List.mem_cons_self)
  | infinite negative =>
    right
    cases negative with
    | false => exact (by decide : 'f' ∈ ['i', 'n', 'f'])
    | true => exact (by decide : 'f' ∈ ['-', 'i', 'n', 'f'])
  | finite negative significand exponent => simp [isFinite] at infinite

/-- A quotient that is not out of all proportion rounds to a finite value. -/
theorem isFinite_round {format : BinaryFormat} (negative : Bool) {num den : Nat}
    (small : (num.log2 : Int) - (den.log2 : Int) - format.precision + 2 ≤ format.greatest)
    (wide : format.least + 2 ≤ format.greatest) : (round format negative num den).isFinite = true := by
  unfold round
  -- The unit is at most one step above the guess, and rounding up takes it one step further.
  split
  · rfl
  · extract_lets guess unit
    have fits : guess + 2 ≤ format.greatest := by
      simp only [guess]
      omega
    have near : unit ≤ guess + 1 := by
      simp only [unit]
      split
      · omega
      · exact Int.le_refl _
    clear_value unit
    generalize scale num den (-unit) = scaled
    obtain ⟨n, d⟩ := scaled
    -- Rounding up may carry into one more digit, and even then the exponent fits.
    by_cases carry : roundQuotient n d = Nat.pow 2 format.precision
    · simp only [if_pos carry]
      rw [if_neg (by omega)]
      rfl
    · simp only [if_neg carry]
      rw [if_neg (by omega)]
      rfl

/-- Every integer of 64 bits rounds to a finite value of single precision. -/
theorem isFinite_ofInt {n : Int} (word : n.natAbs ≤ 0x8000000000000000) :
    (ofInt .single n).isFinite = true := by
  -- A machine word is below the greatest power of two of the format by far.
  have log : n.natAbs.log2 ≤ 63 := by
    by_cases zero : n.natAbs = 0
    · simp [zero]
    · exact Nat.le_of_lt_succ ((Nat.log2_lt zero).2 (Nat.lt_of_le_of_lt word (by decide)))
  refine isFinite_round _ ?_ (by decide)
  change (n.natAbs.log2 : Int) - (Nat.log2 1 : Int) - 24 + 2 ≤ 104
  omega

end Binary

end ShadeBake
