import ShadeBake.Definition.Markup
import ShadeBake.Dict.Lemmas
import ShadeBake.Proofs.Definition.Entity

/-! Tags read as they are written: the attributes in their order with their values decoded, whatever blanks,
quotes and escapes they are written with. -/

namespace ShadeBake

namespace Markup

/-- A text has nothing but blanks. -/
def Blanks (text : List Char) : Prop :=
  ∀ c ∈ text, Text.isBlank c = true

instance (text : List Char) : Decidable (Blanks text) :=
  List.decidableBAll _ text

/-- A character can stand in a name when it is not blank and has no meaning in a tag. -/
def IsNameChar (c : Char) : Prop :=
  Text.isBlank c = false ∧ c ∉ ['=', '"', '\'', '<', '>']

instance (c : Char) : Decidable (IsNameChar c) :=
  inferInstanceAs (Decidable (Text.isBlank c = false ∧ c ∉ ['=', '"', '\'', '<', '>']))

/-- A text is a name in a tag when it has characters and all of them can stand in one. -/
def IsName (name : List Char) : Prop :=
  name ≠ [] ∧ ∀ c ∈ name, IsNameChar c

instance (name : List Char) : Decidable (IsName name) :=
  let _ : Decidable (∀ c ∈ name, IsNameChar c) := List.decidableBAll _ name
  inferInstanceAs (Decidable (name ≠ [] ∧ ∀ c ∈ name, IsNameChar c))

/-- A text writes attributes when each of them stands behind blanks with its value in quotes of either kind;
there may be more blanks around the equals sign. -/
inductive WritesAttributes : (attributes : List (String × String)) → (text : List Char) → Prop
  | nil : WritesAttributes [] []
  | cons {name value : String} {attributes : List (String × String)}
      (gap before after : List Char) {inner text : List Char} {quote : Char}
      (separated : gap ≠ []) (blank : Blanks gap ∧ Blanks before ∧ Blanks after)
      (named : IsName name.toList)
      (quoted : quote = '"' ∨ quote = '\'') (spells : Entity.Spells quote value.toList inner)
      (rest : WritesAttributes attributes text) :
      WritesAttributes ((name, value) :: attributes)
        (gap ++ name.toList ++ before ++ '=' :: (after ++ quote :: (inner ++ quote :: text)))

/-- A value without characters that must be escaped is written as it is. -/
theorem WritesAttributes.plain {name value : String} {attributes : List (String × String)} {text : List Char}
    (gap : List Char) (quote : Char) (separated : gap ≠ [] ∧ Blanks gap)
    (named : IsName name.toList) (quoted : quote = '"' ∨ quote = '\'')
    (unescaped : Entity.Plain quote value.toList) (rest : WritesAttributes attributes text) :
    WritesAttributes ((name, value) :: attributes)
      (gap ++ name.toList ++ [] ++ '=' :: ([] ++ quote :: (value.toList ++ quote :: text))) :=
  -- A plain value is its own spelling, and there are no blanks around the sign.
  .cons gap [] [] separated.1 ⟨separated.2, by decide, by decide⟩ named quoted
    (Entity.spells_of_plain unescaped) rest

/-- No blank has a meaning in a tag. -/
theorem Blanks.not_mem {text : List Char} (blank : Blanks text) {c : Char} (visible : Text.isBlank c = false) :
    c ∉ text := by
  -- All characters of the text are blanks.
  intro inside
  rw [blank c inside] at visible
  simp at visible

/-- The blanks behind the last visible character are trimmed. -/
theorem trimEnd_append (text : List Char) {back : List Char} {last : Char}
    (visible : Text.isBlank last = false) (blank : Blanks back) :
    Text.trimEnd (text ++ last :: back) = text ++ [last] := by
  -- Read backwards, the blanks are dropped first and the visible character stays.
  have behind : ∀ c ∈ back.reverse, Text.isBlank c = true := fun c inside => blank c (List.mem_reverse.1 inside)
  rw [Text.trimEnd, List.reverse_append, List.reverse_cons, List.append_assoc,
    List.dropWhile_append_of_pos behind]
  simp [visible]

/-- The name before an equals sign is the last one, whatever blanks stand around it. -/
theorem nameBefore_append {gap name before : List Char} (blank : Blanks gap ∧ Blanks before)
    (nonempty : name ≠ []) (visible : ∀ c ∈ name, Text.isBlank c = false) :
    nameBefore (gap ++ name ++ before) = name := by
  -- The blanks behind the name are trimmed, and the name is then the last word.
  have trimmed : Text.trimEnd (gap ++ name ++ before) = gap ++ name := by
    obtain ⟨front, last, same⟩ := (List.eq_nil_or_concat name).resolve_left nonempty
    rw [List.concat_eq_append] at same
    subst same
    have ends := trimEnd_append (gap ++ front) (visible last (by simp)) blank.2
    simpa using ends
  -- Backwards, the name ends where the blanks before it begin.
  have backwards : ∀ c ∈ name.reverse, (!Text.isBlank c) = true := by
    intro c inside
    rw [visible c (List.mem_reverse.1 inside)]
    rfl
  have stops : gap.reverse.takeWhile (fun c => !Text.isBlank c) = [] := by
    cases turned : gap.reverse with
    | nil => rfl
    | cons c rest =>
      have inside : c ∈ gap := List.mem_reverse.1 (turned ▸ List.mem_cons_self)
      rw [List.takeWhile_cons, blank.1 c inside]
      rfl
  rw [nameBefore, trimmed, List.reverse_append, List.takeWhile_append_of_pos backwards, stops, List.append_nil,
    List.reverse_reverse]

/-- No character with a meaning in a tag stands between the beginning of an attribute and its value, but for
the equals sign. -/
theorem not_mem_front {gap name before after : List Char} (blank : Blanks gap ∧ Blanks before ∧ Blanks after)
    (named : IsName name) {c : Char} (special : c ∈ ['"', '\'', '<', '>']) :
    c ∉ gap ++ name ++ before ++ '=' :: after := by
  -- Blanks, names and the equals sign are none of the special characters.
  have each : ∀ c ∈ ['"', '\'', '<', '>'], Text.isBlank c = false ∧ c ≠ '=' := by
    simp only [List.mem_cons, List.not_mem_nil, or_false, forall_eq_or_imp, forall_eq]
    decide
  obtain ⟨visible, other⟩ := each c special
  have unnamed : c ∉ name := fun inside => (named.2 c inside).2 (List.mem_cons_of_mem _ special)
  simp only [List.mem_append, List.mem_cons, not_or]
  exact ⟨⟨⟨blank.1.not_mem visible, unnamed⟩, blank.2.1.not_mem visible⟩, other, blank.2.2.not_mem visible⟩

/-- Behind the last equals sign there are no attributes. -/
theorem writtenAttributes_of_none {tag : List Char} (none : Text.splitAt? ['='] tag = none) :
    writtenAttributes tag = [] := by
  -- Without an equals sign there is no attribute.
  rw [writtenAttributes]
  split
  · rfl
  · rename_i before after found
    rw [none] at found
    simp at found

/-- One attribute is read after the other. -/
theorem writtenAttributes_of_value {tag before after value inner rest : List Char} {quote : Char}
    (found : Text.splitAt? ['='] tag = some (before, after)) (opened : Text.trimStart after = quote :: value)
    (quoted : quote = '"' ∨ quote = '\'') (closed : Text.splitAt? [quote] value = some (inner, rest)) :
    writtenAttributes tag = (nameBefore before, inner) :: writtenAttributes rest := by
  -- Each of the three searches of the reader ends as it is said to.
  rw [writtenAttributes]
  split
  · rename_i missing
    rw [found] at missing
    simp at missing
  · rename_i front behind located
    rw [found] at located
    cases located
    split
    · rename_i empty
      rw [opened] at empty
      simp at empty
    · rename_i mark text begun
      rw [opened] at begun
      cases begun
      -- The value is in quotes, and so it ends at the closing one.
      rw [if_pos (by simpa using quoted)]
      split
      · rename_i missing
        rw [closed] at missing
        simp at missing
      · rename_i content later ended
        rw [closed] at ended
        cases ended
        rfl

/-! ### Where a tag ends -/

/-- A tag goes on through characters that neither close it nor open quotes. -/
theorem splitTagIn_append {front : List Char} (plain : ∀ c ∈ front, c ∉ ['>', '"', '\'']) (rest : List Char) :
    splitTagIn none (front ++ rest) =
      (splitTagIn none rest).map fun (tag, after) => (front ++ tag, after) := by
  -- Outside quotes only a bracket or a quote changes the state, and the front has neither.
  induction front with
  | nil => simp
  | cons c front ih =>
    have away := plain c List.mem_cons_self
    simp only [List.mem_cons, List.not_mem_nil, or_false, not_or] at away
    have later := ih fun c inside => plain c (List.mem_cons_of_mem _ inside)
    simp [splitTagIn, away, later, Function.comp_def]

/-- A tag goes on through quotes, up to those that close them. -/
theorem splitTagIn_quoted {quote : Char} {inner : List Char} (absent : quote ∉ inner) (rest : List Char) :
    splitTagIn (some quote) (inner ++ quote :: rest) =
      (splitTagIn none rest).map fun (tag, after) => (inner ++ quote :: tag, after) := by
  -- Inside quotes only the same quote changes the state.
  induction inner with
  | nil => simp [splitTagIn]
  | cons c inner ih =>
    rw [List.mem_cons, not_or] at absent
    simp [splitTagIn, Ne.symm absent.1, ih absent.2, Function.comp_def]

/-- A tag goes on through a value in quotes. -/
theorem splitTagIn_value {quote : Char} (quoted : quote = '"' ∨ quote = '\'') {inner : List Char}
    (absent : quote ∉ inner) (rest : List Char) :
    splitTagIn none (quote :: (inner ++ quote :: rest)) =
      (splitTagIn none rest).map fun (tag, after) => (quote :: (inner ++ quote :: tag), after) := by
  -- Both quotes are opened and closed in the same way.
  rcases quoted with rfl | rfl
  · simp [splitTagIn, splitTagIn_quoted absent, Function.comp_def]
  · simp [splitTagIn, splitTagIn_quoted absent, Function.comp_def]

/-- The bracket that closes a tag stands between the tag and what follows it. -/
theorem eq_append_of_splitTagIn {quote : Option Char} {text tag after : List Char}
    (cut : splitTagIn quote text = some (tag, after)) : text = tag ++ '>' :: after := by
  -- Each character is kept in the tag, up to the bracket that ends it.
  induction text generalizing quote tag with
  | nil => cases quote <;> simp [splitTagIn] at cut
  | cons c text ih =>
    cases quote with
    | some q =>
      simp only [splitTagIn, Option.map_eq_some_iff, Prod.mk.injEq, Prod.exists] at cut
      obtain ⟨inner, later, within, rfl, rfl⟩ := cut
      rw [ih within, List.cons_append]
    | none =>
      simp only [splitTagIn] at cut
      split at cut
      -- The bracket ends the tag, and is in neither part.
      · rename_i bracket
        cases cut
        rw [bracket, List.nil_append]
      · simp only [Option.map_eq_some_iff, Prod.mk.injEq, Prod.exists] at cut
        obtain ⟨inner, later, within, rfl, rfl⟩ := cut
        rw [ih within, List.cons_append]

/-- A tag that is closed stays the same when the text goes on. -/
theorem splitTagIn_stable {quote : Option Char} {text tag after : List Char}
    (cut : splitTagIn quote text = some (tag, after)) (rest : List Char) :
    splitTagIn quote (text ++ rest) = some (tag, after ++ rest) := by
  -- The cut is made before the end of the text, so that what is added lies behind it.
  induction text generalizing quote tag with
  | nil => cases quote <;> simp [splitTagIn] at cut
  | cons c text ih =>
    cases quote with
    -- Within quotes the search goes on up to the closing one, whatever is added behind.
    | some q =>
      simp only [splitTagIn, Option.map_eq_some_iff, Prod.mk.injEq, Prod.exists] at cut
      obtain ⟨inner, later, within, rfl, rfl⟩ := cut
      rw [List.cons_append, splitTagIn, ih within, Option.map_some]
    | none =>
      simp only [splitTagIn] at cut
      rw [List.cons_append, splitTagIn]
      split at cut
      -- Outside of quotes the cut is made here, or else later in the same text.
      · rename_i bracket
        cases cut
        rw [if_pos bracket]
      · rename_i other
        simp only [Option.map_eq_some_iff, Prod.mk.injEq, Prod.exists] at cut
        obtain ⟨inner, later, within, rfl, rfl⟩ := cut
        rw [if_neg other]
        simp only [ih within, Option.map_some]

/-! ### Written attributes -/

namespace WritesAttributes

variable {attributes : List (String × String)} {text : List Char}

/-- What is written is read, up to a tail without attributes. -/
theorem writtenAttributes (writes : WritesAttributes attributes text) {tail : List Char} (plain : '=' ∉ tail) :
    ((Markup.writtenAttributes (text ++ tail)).filter (·.1 ≠ [])).map
      (fun (name, value) => (String.ofList name, String.ofList (Entity.decode value))) = attributes := by
  -- One attribute is read up to its closing quote, and the others from there on.
  induction writes with
  | nil =>
    rw [List.nil_append, writtenAttributes_of_none (Text.splitAt?_of_not_mem plain [])]
    rfl
  | @cons name value attributes gap before after inner text quote separated blank named quoted spells
      rest ih =>
    have visible : ∀ c ∈ name.toList, Text.isBlank c = false := fun c inside => (named.2 c inside).1
    -- The equals sign is the first one, since the gap and the name have none.
    have absent : '=' ∉ gap ++ name.toList ++ before := by
      simp only [List.mem_append, not_or]
      refine ⟨⟨blank.1.not_mem (by decide), fun inside => ?_⟩, blank.2.1.not_mem (by decide)⟩
      exact (named.2 '=' inside).2 (by simp)
    have found := Text.splitAt?_found (List.not_mem_nil (a := '=')) (Text.splitAt?_of_not_mem absent [])
      (after ++ quote :: (inner ++ quote :: (text ++ tail)))
    have opened : Text.trimStart (after ++ quote :: (inner ++ quote :: (text ++ tail))) =
        quote :: (inner ++ quote :: (text ++ tail)) := by
      rw [Text.trimStart, List.dropWhile_append_of_pos blank.2.2]
      rcases quoted with rfl | rfl
      · rfl
      · rfl
    -- The value has no quote of its kind, so the closing one is the next.
    have closed := Text.splitAt?_found (List.not_mem_nil (a := quote))
      (Text.splitAt?_of_not_mem (Entity.not_mem_of_spells quoted spells).1 []) (text ++ tail)
    have step := writtenAttributes_of_value found opened quoted closed
    rw [nameBefore_append ⟨blank.1, blank.2.1⟩ named.1 visible] at step
    simp only [List.append_assoc, List.cons_append, List.nil_append] at step ⊢
    rw [step, List.filter_cons_of_pos (by simpa using named.1), List.map_cons, ih,
      Entity.decode_of_spells spells, String.ofList_toList, String.ofList_toList]

/-- The attributes of a tag are those that are written in it. -/
theorem attributes_eq (writes : WritesAttributes attributes text) {tail : List Char} (plain : '=' ∉ tail) :
    Markup.attributes (text ++ tail) = Dict.ofList attributes :=
  -- The dictionary is made of the written attributes, which read back.
  congrArg Dict.ofList (writes.writtenAttributes plain)

/-- No tag opens within attributes. -/
theorem not_mem (writes : WritesAttributes attributes text) : '<' ∉ text := by
  -- Names and blanks have no brackets, and in values they are written with escapes.
  induction writes with
  | nil => exact List.not_mem_nil
  | @cons name value attributes gap before after inner text quote separated blank named quoted spells
      rest ih =>
    have front := not_mem_front blank named (c := '<') (by decide)
    have unquoted : '<' ≠ quote := by
      rcases quoted with rfl | rfl
      · decide
      · decide
    have unspelled := (Entity.not_mem_of_spells quoted spells).2
    simp only [List.mem_append, List.mem_cons, not_or] at front ⊢
    exact ⟨front.1, front.2.1, front.2.2, unquoted, unspelled, unquoted, ih⟩

/-- A tag goes on through its attributes. -/
theorem splitTag_append (writes : WritesAttributes attributes text) (tail : List Char) :
    splitTag (text ++ tail) = (splitTag tail).map fun (tag, after) => (text ++ tag, after) := by
  -- The quotes of each attribute are closed, so the tag goes on in the state that it began in.
  unfold splitTag
  induction writes with
  | nil => simp
  | @cons name value attributes gap before after inner text quote separated blank named quoted spells
      rest ih =>
    have plain : ∀ c ∈ gap ++ name.toList ++ before ++ '=' :: after, c ∉ ['>', '"', '\''] := by
      intro c inside special
      refine not_mem_front blank named ?_ inside
      simp only [List.mem_cons, List.not_mem_nil, or_false] at special ⊢
      rcases special with rfl | rfl | rfl
      · simp
      · simp
      · simp
    -- Up to the quote nothing is special, and from there the value is passed over.
    have front := splitTagIn_append plain (quote :: (inner ++ quote :: (text ++ tail)))
    rw [splitTagIn_value quoted (Entity.not_mem_of_spells quoted spells).1, ih] at front
    simpa [Function.comp_def] using front

/-- A tag is cut at the bracket behind its attributes. -/
theorem splitTag_closed (writes : WritesAttributes attributes text) {tail : List Char}
    (plain : ∀ c ∈ tail, c ∉ ['>', '"', '\'']) (after : List Char) :
    splitTag (text ++ (tail ++ '>' :: after)) = some (text ++ tail, after) := by
  -- The bracket behind the tail is the first one outside quotes.
  have closed : splitTag (tail ++ '>' :: after) = some (tail, after) := by
    rw [splitTag, splitTagIn_append plain]
    simp [splitTagIn]
  rw [writes.splitTag_append, closed]
  rfl

/-- The name of an element ends before its attributes. -/
theorem endsName (writes : WritesAttributes attributes text) {tail : List Char} (ends : endsName tail = true) :
    Markup.endsName (text ++ tail) = true := by
  -- Attributes begin with a blank, which ends a name.
  cases writes with
  | nil => exact ends
  | @cons name value attributes gap before after inner text quote separated blank named quoted spells
      rest =>
    cases gap with
    | nil => exact absurd rfl separated
    | cons c gap =>
      have first : Text.isBlank c = true := blank.1 c List.mem_cons_self
      simp [Markup.endsName, first]

/-- Attributes end with a quote. -/
theorem exists_quote (writes : WritesAttributes attributes text) (nonempty : attributes ≠ []) :
    ∃ front quote, text = front ++ [quote] ∧ (quote = '"' ∨ quote = '\'') := by
  -- The last attribute ends in its quote.
  induction writes with
  | nil => exact absurd rfl nonempty
  | @cons name value attributes gap before after inner text quote separated blank named quoted spells
      rest ih =>
    cases rest with
    | nil =>
      exact ⟨gap ++ name.toList ++ before ++ '=' :: (after ++ quote :: inner), quote, by simp, quoted⟩
    | cons =>
      obtain ⟨front, last, same, closing⟩ := ih (List.cons_ne_nil _ _)
      rw [same]
      exact ⟨gap ++ name.toList ++ before ++ '=' :: (after ++ quote :: (inner ++ quote :: front)), last,
        by simp, closing⟩

end WritesAttributes

/-- Neither the blanks at the end of a tag nor a slash behind them close it or open quotes. -/
theorem plain_of_blanks {gap : List Char} (blank : Blanks gap) : ∀ c ∈ gap ++ ['/'], c ∉ ['>', '"', '\''] := by
  -- Neither a blank nor the slash is a bracket or a quote.
  intro c inside special
  have each : ∀ c ∈ ['>', '"', '\''], Text.isBlank c = false ∧ c ≠ '/' := by
    simp only [List.mem_cons, List.not_mem_nil, or_false, forall_eq_or_imp, forall_eq]
    decide
  obtain ⟨visible, other⟩ := each c special
  rcases List.mem_append.1 inside with back | slash
  · exact blank.not_mem visible back
  · exact other (List.mem_singleton.1 slash)

/-! ### Tags in a text -/

/-- Behind the last tag with a name there are none. -/
theorem tags_of_none {name text : List Char} (free : Text.splitAt? ('<' :: name) text = none) :
    tags name text = [] := by
  -- Where the tag does not begin, there is nothing to read.
  rw [tags]
  split
  · rfl
  · rename_i before body found
    rw [free] at found
    simp at found

/-- Where a name stands behind an opening bracket, the text behind it tells the tags. -/
theorem tags_of_some {name text before body : List Char}
    (found : Text.splitAt? ('<' :: name) text = some (before, body)) :
    tags name text =
      if endsName body then
        match splitTag body with
        | none => [attributes body]
        | some (tag, after) => attributes tag :: tags name after
      else tags name body := by
  -- Both sides look for the next tag, for the end of its name, and for the end of the tag.
  rw [tags]
  split
  · rename_i missing
    rw [found] at missing
    simp at missing
  · rename_i front behind located
    rw [found] at located
    cases located
    split
    -- The name of the tag must end there, or else the search goes on.
    · split
      · rename_i missing
        simp only [missing]
      · rename_i tag after cut
        simp only [cut]
    · rfl

/-- What a search for tags with a name passes over has none. -/
theorem tags_append {name front rest : List Char} (passes : Text.Passes ('<' :: name) front rest) :
    tags name (front ++ rest) = tags name rest := by
  -- What is passed holds no tag of the name, so the next one is found behind it.
  unfold Text.Passes at passes
  cases found : Text.splitAt? ('<' :: name) rest with
  | none =>
    rw [found, Option.map_none] at passes
    rw [tags_of_none found, tags_of_none passes]
  | some parts =>
    rw [found, Option.map_some] at passes
    rw [tags_of_some found, tags_of_some passes]

/-- A tag that is closed gives its attributes, and what follows it gives the others. -/
theorem tags_closed (name : List Char) {attributes : List (String × String)} {text gap : List Char}
    (writes : WritesAttributes attributes text) (blank : Blanks gap) (after : List Char) :
    tags name ('<' :: name ++ (text ++ (gap ++ '/' :: '>' :: after))) =
      Dict.ofList attributes :: tags name after := by
  -- The tag begins the text, its name ends with the attributes, and it is cut at its own bracket.
  have found := Text.splitAt?_self ('<' :: name) (text ++ (gap ++ '/' :: '>' :: after))
  have ends : endsName (text ++ (gap ++ '/' :: '>' :: after)) = true := by
    apply writes.endsName
    cases gap with
    | nil => rfl
    | cons c gap =>
      have first : Text.isBlank c = true := blank c List.mem_cons_self
      simp [endsName, first]
  have cut := writes.splitTag_closed (plain_of_blanks blank) after
  rw [List.append_assoc, List.singleton_append] at cut
  -- Behind the attributes there is no further one.
  have unequal : '=' ∉ gap ++ ['/'] := by
    rw [List.mem_append, not_or]
    exact ⟨blank.not_mem (by decide), by decide⟩
  rw [tags_of_some found, if_pos ends, cut]
  exact congrArg (· :: tags name after) (writes.attributes_eq unequal)

end Markup

end ShadeBake
