import ShadeBake.Definition.Entity
import ShadeBake.Proofs.Text.Search

/-! Decoding undoes every spelling of a value: each kind of entity is replaced in turn, and no replacement
makes up or breaks an entity for a later one. So the replacements together do what a single pass does. -/

namespace ShadeBake

namespace Entity

/-- A text spells a value within quotes when it writes each character by an entity or as it is, and as it is
none that is an ampersand, opens a tag or closes the quotes. -/
inductive Spells (quote : Char) : (value text : List Char) → Prop
  | nil : Spells quote [] []
  | raw {c : Char} {value text : List Char} (plain : c ≠ '&' ∧ c ≠ '<' ∧ c ≠ quote)
      (rest : Spells quote value text) : Spells quote (c :: value) (c :: text)
  | entity {entity : List Char × Char} {value text : List Char} (known : entity ∈ all)
      (rest : Spells quote value text) : Spells quote (entity.2 :: value) (entity.1 ++ text)

/-- A value needs no escapes within quotes. -/
def Plain (quote : Char) (value : List Char) : Prop :=
  ∀ c ∈ value, c ≠ '&' ∧ c ≠ '<' ∧ c ≠ quote

instance (quote : Char) (value : List Char) : Decidable (Plain quote value) :=
  List.decidableBAll _ value

/-- A value that needs no escapes spells itself. -/
theorem spells_of_plain {quote : Char} {value : List Char} (plain : Plain quote value) :
    Spells quote value value := by
  -- No character of a plain value needs an escape.
  induction value with
  | nil => exact .nil
  | cons c value ih =>
    exact .raw (plain c List.mem_cons_self) (ih fun c inside => plain c (List.mem_cons_of_mem _ inside))

/-- A text half decoded: it has the characters that some entities stand for, and still the names of the
others. A character at which no entity begins stands for itself, be it an ampersand. -/
inductive Decoded (done : List (List Char × Char)) : (value text : List Char) → Prop
  | nil : Decoded done [] []
  | raw {c : Char} {value text : List Char} (plain : ∀ entity ∈ all, ¬entity.1 <+: c :: text)
      (rest : Decoded done value text) : Decoded done (c :: value) (c :: text)
  | decoded {entity : List Char × Char} {value text : List Char} (known : entity ∈ done)
      (rest : Decoded done value text) : Decoded done (entity.2 :: value) (entity.2 :: text)
  | named {entity : List Char × Char} {value text : List Char} (known : entity ∈ all) (ahead : entity ∉ done)
      (rest : Decoded done value text) : Decoded done (entity.2 :: value) (entity.1 ++ text)

/-- The name of an entity is an ampersand and then characters that no entity stands for. -/
theorem exists_name {entity : List Char × Char} (known : entity ∈ all) :
    ∃ name, entity.1 = '&' :: name ∧ '&' ∉ name ∧ ∀ other ∈ all, other.2 ∉ name := by
  -- There are five entities, and each is looked at.
  have each : ∀ entity ∈ all, entity.1 = '&' :: entity.1.tail ∧ '&' ∉ entity.1.tail ∧
      ∀ other ∈ all, other.2 ∉ entity.1.tail := by decide
  exact ⟨entity.1.tail, each entity known⟩

/-- No entity begins at a character other than an ampersand. -/
theorem not_isPrefix_of_ne {c : Char} (other : c ≠ '&') (text : List Char) :
    ∀ entity ∈ all, ¬entity.1 <+: c :: text := by
  -- Every entity begins with the ampersand.
  intro entity known begins
  obtain ⟨name, named, _⟩ := exists_name known
  rw [named] at begins
  exact other (List.cons_prefix_cons.1 begins).1.symm

/-- No entity's name begins with that of another. -/
theorem ne_front_of_ne {entity other : List Char × Char} (known : entity ∈ all) (named : other ∈ all)
    (apart : entity ≠ other) : ¬entity.1 <+: other.1 := by
  -- There are five entities, and each pair is looked at.
  have each : ∀ entity ∈ all, ∀ other ∈ all, entity ≠ other → ¬entity.1 <+: other.1 := by decide
  exact each entity known other named apart

/-- A text that begins with the name of an entity does not begin with that of another. -/
theorem after?_of_named {entity other : List Char × Char} (known : entity ∈ all) (named : other ∈ all)
    (apart : entity ≠ other) (text : List Char) : Text.after? entity.1 (other.1 ++ text) = none := by
  cases found : Text.after? entity.1 (other.1 ++ text) with
  | none => rfl
  -- Of two names at one place one would begin with the other.
  | some rest =>
    have front : entity.1 <+: other.1 ++ text := ⟨rest, (Text.after?_eq_some_iff.1 found).symm⟩
    rcases List.prefix_or_prefix_of_prefix front (List.prefix_append other.1 text) with first | second
    · exact absurd first (ne_front_of_ne known named apart)
    · exact absurd second (ne_front_of_ne named known (Ne.symm apart))

/-- Only the last entity stands for an ampersand. -/
theorem ne_ampersand_of_before {done ahead : List (List Char × Char)} {entity : List Char × Char}
    (order : all = done ++ entity :: ahead) : ∀ earlier ∈ done, earlier.2 ≠ '&' := by
  -- The ampersand is the last one to be replaced.
  have each : all.Pairwise fun earlier _ => earlier.2 ≠ '&' := by decide
  rw [order, List.pairwise_append] at each
  exact fun earlier inside => each.2.2 earlier inside entity List.mem_cons_self

/-- Before anything is decoded, the text is as it was spelled. -/
theorem Spells.decoded {quote : Char} {value text : List Char} (spells : Spells quote value text) :
    Decoded [] value text := by
  -- Nothing has been replaced yet, so every entity is still written by its name.
  induction spells with
  | nil => exact .nil
  | raw plain rest ih => exact .raw (not_isPrefix_of_ne plain.1 _) ih
  | entity known rest ih => exact .named known List.not_mem_nil ih

/-- Replacing the name of one more entity decodes that entity and leaves the others. -/
theorem Decoded.replace {done : List (List Char × Char)} {value text : List Char}
    (decoded : Decoded done value text) {entity : List Char × Char} (known : entity ∈ all)
    (plain : ∀ earlier ∈ done, earlier.2 ≠ '&') :
    Decoded (done ++ [entity]) value (Text.replaceAll entity.1 [entity.2] text) := by
  obtain ⟨name, named, single, _⟩ := exists_name known
  have nonempty : entity.1 ≠ [] := by simp [named]
  -- A character at which the name does not begin stays.
  have stays : ∀ {c : Char} (text : List Char), ¬entity.1 <+: c :: text →
      Text.replaceAll entity.1 [entity.2] (c :: text) = c :: Text.replaceAll entity.1 [entity.2] text :=
    fun text away => Text.replaceAll_cons nonempty _ (Text.after?_eq_none_iff.2 away)
  induction decoded with
  | nil =>
    rw [named, Text.replaceAll_of_none _ (Text.splitAt?_of_not_mem List.not_mem_nil name)]
    exact .nil
  | raw away rest ih =>
    rw [stays _ (away entity known)]
    refine .raw (fun other listed begins => away other listed ?_) ih
    -- An entity that begins here now began here before, as its name has no character that is put in.
    obtain ⟨tail, written, _, apart⟩ := exists_name listed
    rw [written] at begins ⊢
    obtain ⟨same, further⟩ := List.cons_prefix_cons.1 begins
    exact List.cons_prefix_cons.2 ⟨same, Text.isPrefix_of_replaceAll nonempty (apart entity known) further⟩
  | decoded earlier rest ih =>
    rw [stays _ (not_isPrefix_of_ne (plain _ earlier) _ entity known)]
    exact .decoded (List.mem_append_left _ earlier) ih
  | @named kind value text listed ahead rest ih =>
    by_cases same : kind = entity
    · subst same
      rw [Text.replaceAll_self nonempty]
      exact .decoded (List.mem_append_right _ List.mem_cons_self) ih
    -- Another name is not found at its front, nor further on, where there is no ampersand.
    · obtain ⟨tail, written, lone, _⟩ := exists_name listed
      have away := after?_of_named known listed (Ne.symm same) text
      have kept : Text.replaceAll entity.1 [entity.2] (kind.1 ++ text) =
          kind.1 ++ Text.replaceAll entity.1 [entity.2] text := by
        rw [written, List.cons_append] at away
        rw [written, List.cons_append, List.cons_append, Text.replaceAll_cons nonempty _ away, named,
          Text.replaceAll_append lone]
      rw [kept]
      refine .named listed ?_ ih
      rw [List.mem_append, List.mem_singleton, not_or]
      exact ⟨ahead, same⟩

/-- Replacing the names of all entities that are left decodes the whole text. -/
theorem Decoded.foldl {done ahead : List (List Char × Char)} (order : all = done ++ ahead)
    {value text : List Char} (decoded : Decoded done value text) :
    Decoded all value (ahead.foldl (fun text entity => Text.replaceAll entity.1 [entity.2] text) text) := by
  -- One more kind of entity is replaced in each round, and the list of those ahead gets shorter.
  induction ahead generalizing done text with
  | nil =>
    rw [order, List.append_nil]
    exact decoded
  | cons entity ahead ih =>
    have known : entity ∈ all := order ▸ List.mem_append_right done List.mem_cons_self
    refine ih ?_ (decoded.replace known (ne_ampersand_of_before order))
    rw [order, List.append_assoc, List.singleton_append]

/-- A text in which all entities are decoded is the value. -/
theorem Decoded.eq {value text : List Char} (decoded : Decoded all value text) : text = value := by
  -- Once all entities have been replaced, none is written by its name.
  induction decoded with
  | nil => rfl
  | raw plain rest ih => rw [ih]
  | decoded known rest ih => rw [ih]
  | named known ahead rest ih => exact absurd known ahead

/-- Decoding gives the value of a text in which nothing is decoded yet. -/
theorem Decoded.decode_eq {value text : List Char} (decoded : Decoded [] value text) : decode text = value :=
  -- One replacement after another goes through all five entities.
  (Decoded.foldl (List.nil_append all).symm decoded).eq

/-- Decoding gives back the value that a text spells. -/
theorem decode_of_spells {quote : Char} {value text : List Char} (spells : Spells quote value text) :
    decode text = value :=
  -- A spelling of the value is a way to decode it.
  spells.decoded.decode_eq

/-- A spelled value neither closes its quotes nor opens a tag. -/
theorem not_mem_of_spells {quote : Char} (quoted : quote = '"' ∨ quote = '\'') {value text : List Char}
    (spells : Spells quote value text) : quote ∉ text ∧ '<' ∉ text := by
  -- Neither quote and no bracket stands in a plain character or in an entity.
  have names : ∀ entity ∈ all, '"' ∉ entity.1 ∧ '\'' ∉ entity.1 ∧ '<' ∉ entity.1 := by decide
  induction spells with
  | nil => exact ⟨List.not_mem_nil, List.not_mem_nil⟩
  | raw plain rest ih =>
    simp only [List.mem_cons, not_or]
    exact ⟨⟨Ne.symm plain.2.2, ih.1⟩, Ne.symm plain.2.1, ih.2⟩
  | @entity entity value text known rest ih =>
    obtain ⟨double, single, opened⟩ := names entity known
    simp only [List.mem_append, not_or]
    refine ⟨⟨?_, ih.1⟩, opened, ih.2⟩
    rcases quoted with rfl | rfl
    · exact double
    · exact single

/-! ### A single pass -/

/-- The text with its entities replaced in a single pass from the left, which never looks at what it put in. -/
def decodeOnce : List Char → List Char
  | '&' :: 'l' :: 't' :: ';' :: rest => '<' :: decodeOnce rest
  | '&' :: 'g' :: 't' :: ';' :: rest => '>' :: decodeOnce rest
  | '&' :: 'q' :: 'u' :: 'o' :: 't' :: ';' :: rest => '"' :: decodeOnce rest
  | '&' :: 'a' :: 'p' :: 'o' :: 's' :: ';' :: rest => '\'' :: decodeOnce rest
  | '&' :: 'a' :: 'm' :: 'p' :: ';' :: rest => '&' :: decodeOnce rest
  | c :: rest => c :: decodeOnce rest
  | [] => []

/-- The text with characters written by their entities: every ampersand, and of the others that have one those
that are chosen. -/
def encode (chosen : Char → Bool) (text : List Char) : List Char :=
  text.flatMap fun c =>
    match all.find? (·.2 = c) with
    | some entity => if c = '&' || chosen c then entity.1 else [c]
    | none => [c]

/-- A single pass finds what each character of a text stands for. -/
theorem decoded_decodeOnce (text : List Char) : Decoded [] (decodeOnce text) text := by
  fun_induction decodeOnce text with
  | case1 rest ih => exact .named (by decide : ("&lt;".toList, '<') ∈ all) List.not_mem_nil ih
  | case2 rest ih => exact .named (by decide : ("&gt;".toList, '>') ∈ all) List.not_mem_nil ih
  | case3 rest ih => exact .named (by decide : ("&quot;".toList, '"') ∈ all) List.not_mem_nil ih
  | case4 rest ih => exact .named (by decide : ("&apos;".toList, '\'') ∈ all) List.not_mem_nil ih
  | case5 rest ih => exact .named (by decide : ("&amp;".toList, '&') ∈ all) List.not_mem_nil ih
  -- None of the five patterns fits, so no entity begins here.
  | case6 c rest notLess notGreater notQuote notApostrophe notAmpersand ih =>
    refine .raw (fun entity known => ?_) ih
    rintro ⟨later, same⟩
    simp only [all, List.mem_cons, List.not_mem_nil, or_false] at known
    rcases known with rfl | rfl | rfl | rfl | rfl
    all_goals
      simp only [List.cons_append, List.nil_append, List.cons.injEq] at same
      obtain ⟨first, further⟩ := same
    -- The first character of the entity and the rest of it are exactly the pattern that was excluded.
    · exact notLess later first.symm further.symm
    · exact notGreater later first.symm further.symm
    · exact notQuote later first.symm further.symm
    · exact notApostrophe later first.symm further.symm
    · exact notAmpersand later first.symm further.symm
  | case7 => exact .nil

/-- Each character of an escaped text is written by its entity, or is no ampersand. -/
theorem decoded_encode (chosen : Char → Bool) (text : List Char) : Decoded [] text (encode chosen text) := by
  -- A character that is written as an entity is decoded from that, and any other stays.
  induction text with
  | nil => exact .nil
  | cons c text ih =>
    rw [encode, List.flatMap_cons, ← encode]
    have ampersand : all.find? (·.2 = '&') = some ("&amp;".toList, '&') := by decide
    split
    · rename_i entity found
      have stands : entity.2 = c := by simpa using List.find?_some found
      split
      · exact stands ▸ .named (List.mem_of_find?_eq_some found) List.not_mem_nil ih
      · rename_i raw
        simp only [Bool.or_eq_true, decide_eq_true_eq, not_or] at raw
        exact .raw (not_isPrefix_of_ne raw.1 _) ih
    -- A character without an entity is no ampersand, and begins none.
    · rename_i missing
      refine .raw (not_isPrefix_of_ne (fun same => ?_) _) ih
      rw [same, ampersand] at missing
      simp at missing

/-- Decoding replaces one kind of entity after the other, and gives for every text what a single pass from the
left gives. So it undoes every escaping, whichever characters besides the ampersand are escaped. -/
theorem decode_singlePass (text : List Char) :
    decode text = decodeOnce text ∧ ∀ chosen, decode (encode chosen text) = text :=
  -- The two decoders agree since each text has one decoded form.
  ⟨(decoded_decodeOnce text).decode_eq, fun chosen => (decoded_encode chosen text).decode_eq⟩

/-- An entity that decoding makes up is not decoded once more. -/
example : decodeOnce "&amp;lt; &&lt;&am&lt;p;".toList = "&lt; &<&am<p;".toList := by
  decide +kernel

end Entity

end ShadeBake
