import ShadeBake.Proofs.Conversion.Outcome

/-! Where the inputs of a terminal end up: each keeps its slot, moves to the adapters' name for it or is
dropped, whatever the compiler makes. -/

namespace ShadeBake

namespace Conversion

variable {σ : Type} {compile : Compiler σ} {document : Document} {searchPaths : List String}
  {registry : Registry} {compiler : σ} {origin : Network} {terminal input : String}
  {conversion next : Conversion σ}

/-- A terminal reads from its inputs when each of its slots reads what that input read on entry, or what an
input read whose name for the adapters it is, if that was converted. -/
def ReadsFromInputs (origin : Network) (terminal : String) (conversion : Conversion σ) : Prop :=
  ∀ slot connection, conversion.network.input? terminal slot = some connection →
    ∃ input, origin.input? terminal input = some connection ∧
      (slot = input ∨ (slot = adapterName input ∧ connection.source ∈ conversion.summary.converted))

/-- After every transition a terminal reads from its inputs. -/
theorem ReadsFromInputs.transition (reads : ReadsFromInputs origin terminal conversion)
    (moves : Transition compile document searchPaths terminal conversion input next) :
    ReadsFromInputs origin terminal next := by
  intro slot connection connected
  -- What a slot read before the transition it still reads from its input.
  have before : conversion.network.input? terminal slot = some connection →
      ∃ input, origin.input? terminal input = some connection ∧
        (slot = input ∨ (slot = adapterName input ∧ connection.source ∈ next.summary.converted)) := by
    intro read
    obtain ⟨earlier, original, place⟩ := reads slot connection read
    exact ⟨earlier, original, place.imp_right fun ⟨renamed, converted⟩ =>
      ⟨renamed, (moves.converts connection.source).1 converted⟩⟩
  rcases moves.slots with ⟨same, _, _⟩ | ⟨source, entry, read, converted, bound, _⟩ | ⟨_, nothing⟩
  · exact before ((same slot).symm.trans connected)
  · rw [bound] at connected
    rcases eq_of_boundSlot connected with ⟨rfl, renamed, _⟩ | ⟨old, _⟩
    -- The slot is the adapters' name for the input, and so for the one that the input got its name from.
    · obtain ⟨earlier, original, rfl | ⟨rfl, _⟩⟩ := reads input connection read
      · exact ⟨input, original, .inr ⟨renamed, converted⟩⟩
      · rw [adapterName_adapterName] at renamed
        exact ⟨earlier, original, .inr ⟨renamed, converted⟩⟩
    · exact before old
  · simp [nothing] at connected

/-- After a run over its inputs, a terminal reads from them. -/
theorem readsFromInputs_run (inputs : List String) (reads : ReadsFromInputs origin terminal conversion) :
    ReadsFromInputs origin terminal
      (Conversion.run compile document searchPaths terminal conversion inputs) := by
  unfold Conversion.run
  -- Every transition leaves slots that read from inputs, whichever the next input is.
  induction inputs generalizing conversion with
  | nil => exact reads
  | cons input rest ih =>
    exact ih (reads.transition (step_transition compile document searchPaths terminal conversion input))

/-- An input is placed when it keeps its slot because its source was not converted, or else stands under the
adapters' name alone or nowhere, with a warning. -/
def Placed (terminal input : String) (connection : Connection) (conversion : Conversion σ) : Prop :=
  (connection.source ∉ conversion.summary.converted ∧
    conversion.network.input? terminal input = some connection) ∨
  (connection.source ∈ conversion.summary.converted ∧
    (adapterName input ≠ input → conversion.network.input? terminal input = none) ∧
    (conversion.network.input? terminal (adapterName input) = some connection ∨
      (conversion.network.input? terminal (adapterName input) = none ∧
        .missingOutput connection.output connection.source ∈ conversion.warnings)))

/-- Binding an input to the shader of its source places it. -/
theorem placed_of_bound {connection : Connection} {entry : ShaderEntry}
    (converted : connection.source ∈ next.summary.converted)
    (bound : ∀ slot, next.network.input? terminal slot =
      boundSlot (some entry) input connection slot (conversion.network.input? terminal slot))
    (free : adapterName input ≠ input → conversion.network.input? terminal (adapterName input) = none)
    (warned : entry.hasOutput connection.output = false →
      .missingOutput connection.output connection.source ∈ next.warnings) :
    Placed terminal input connection next := by
  refine .inr ⟨converted, fun renamed => ?_, ?_⟩
  -- Under a name of its own for the adapters, the input's slot is emptied.
  · rw [bound]
    simp [boundSlot, Ne.symm renamed]
  · rw [bound]
    cases output : entry.hasOutput connection.output with
    | true => exact .inl (by simp [boundSlot, output])
    -- Without the output the adapters' name reads what it read before, unless it is the input's own.
    | false =>
      refine .inr ⟨?_, warned output⟩
      by_cases renamed : adapterName input = input
      · simp [boundSlot, output, renamed]
      · simp [boundSlot, output, renamed, free renamed]

/-- An input stays placed while its slots and what was decided of its source stay. -/
theorem Placed.mono {connection : Connection} (placed : Placed terminal input connection conversion)
    (slots : ∀ slot, slot = input ∨ slot = adapterName input →
      next.network.input? terminal slot = conversion.network.input? terminal slot)
    (decided : connection.source ∈ next.summary.converted ↔
      connection.source ∈ conversion.summary.converted)
    (warns : ∀ warning ∈ conversion.warnings, warning ∈ next.warnings) :
    Placed terminal input connection next := by
  unfold Placed at placed ⊢
  rw [decided, slots input (.inl rfl), slots (adapterName input) (.inr rfl)]
  -- Only the warnings may be more.
  rcases placed with plain | ⟨converted, moved, bound | ⟨dropped, warned⟩⟩
  · exact .inl plain
  · exact .inr ⟨converted, moved, .inl bound⟩
  · exact .inr ⟨converted, moved, .inr ⟨dropped, warns _ warned⟩⟩

/-- A terminal is placed up to the inputs ahead: those read what they read, their names for the adapters are
free, and all others are placed and their sources met. -/
structure PlacedUpTo (origin : Network) (terminal : String) (ahead : List String)
    (conversion : Conversion σ) : Prop where
  pending : ∀ input ∈ ahead,
    conversion.network.input? terminal input = origin.input? terminal input ∧
      (adapterName input ≠ input → conversion.network.input? terminal (adapterName input) = none)
  placed : ∀ input connection, origin.input? terminal input = some connection → input ∉ ahead →
    Placed terminal input connection conversion ∧
      (origin.hasNode connection.source = true → connection.source ∈ Dict.keys conversion.keep)

/-- At the start, all inputs of a clear terminal are ahead. -/
theorem placedUpTo_start (registry : Registry) (compiler : σ) {network : Network} {terminal : String}
    (clear : network.Clear terminal) :
    PlacedUpTo network terminal (network.inputNames terminal)
      ({ network, registry, compiler } : Conversion σ) where
  pending input _ := by
    refine ⟨rfl, fun renamed => ?_⟩
    -- A name that the adapters have for another input is not connected.
    have reserved : renamedInput? input ≠ none := fun free => renamed (adapterName_of_none free)
    obtain ⟨other, found⟩ := Option.ne_none_iff_exists'.1 reserved
    have unconnected := clear (input, other) (Dict.mem_of_lookup found)
    simpa [adapterName, found] using unconnected
  placed _ connection connected done :=
    absurd (Network.mem_inputNames_iff.2 ⟨connection, connected⟩) done

/-- Doing the next input places it. -/
theorem PlacedUpTo.transition {connection : Connection} {ahead : List String} (clear : origin.Clear terminal)
    (unread : ∀ input connection, origin.input? terminal input = some connection →
      connection.source ≠ terminal)
    (accounts : Accounts compile document searchPaths registry compiler origin terminal conversion)
    (upTo : PlacedUpTo origin terminal (input :: ahead) conversion)
    (connected : origin.input? terminal input = some connection) (new : input ∉ ahead)
    (others : ∀ other ∈ ahead, ∃ connection, origin.input? terminal other = some connection)
    (moves : Transition compile document searchPaths terminal conversion input next) :
    PlacedUpTo origin terminal ahead next := by
  have accounts' := accounts.transition unread moves
  have present := accounts.within.derives.present
  obtain ⟨pending, free⟩ := upTo.pending input List.mem_cons_self
  have reads := pending.trans connected
  -- The source of an input that is done was met, so its conversion is decided.
  have decided : ∀ other found, origin.input? terminal other = some found → other ∉ input :: ahead →
      (found.source ∈ next.summary.converted ↔ found.source ∈ conversion.summary.converted) := by
    intro other found original done
    refine ⟨fun converted => ?_, (moves.converts found.source).1⟩
    have there := accounts'.within.present_of_met
      ((accounts'.met _).1 (accounts'.met_of_converted converted))
    exact ((moves.converts found.source).2 converted).resolve_right fun unmet =>
      unmet ((upTo.placed other found original done).2 there)
  have met : ∀ other found, origin.input? terminal other = some found → other ∉ ahead →
      origin.hasNode found.source = true → found.source ∈ Dict.keys next.keep := by
    intro other found original done there
    by_cases same : other = input
    · subst same
      cases connected.symm.trans original
      exact moves.meets reads ((present _).trans there)
    · exact moves.keeps _ ((upTo.placed other found original (by simp [same, done])).2 there)
  rcases moves.slots with ⟨same, converts, plain⟩ | ⟨source, entry, read, converted, bound, warned⟩ |
    ⟨converted, _⟩
  -- Nothing is bound, so the input keeps its slot.
  · refine ⟨fun other inside => ?_, fun other found original done => ⟨?_, met other found original done⟩⟩
    · rw [same, same]
      exact upTo.pending other (List.mem_cons_of_mem _ inside)
    · by_cases here : other = input
      -- Were its source converted, it would exist, be met and have a shader.
      · subst here
        cases connected.symm.trans original
        refine .inl ⟨fun converted => ?_, (same other).trans reads⟩
        rw [converts] at converted
        have old := (accounts.met _).1 (accounts.met_of_converted converted)
        rcases plain connection reads with missing | unmet | nothing
        · rw [present, accounts.within.present_of_met old] at missing
          simp at missing
        · exact unmet old
        · exact accounts.shader?_ne_none converted nothing
      · have before : other ∉ input :: ahead := by simp [here, done]
        exact (upTo.placed other found original before).1.mono (fun slot _ => same slot)
          (decided other found original before) moves.warns
  -- The input is bound, and the slots of all others are apart from its own.
  · cases reads.symm.trans read
    refine ⟨fun other inside => ?_, fun other found original done => ⟨?_, met other found original done⟩⟩
    · obtain ⟨found, original⟩ := others other inside
      have distinct : other ≠ input := fun equal => new (equal ▸ inside)
      obtain ⟨apart, moved, renamed⟩ := clear.slots_apart connected original distinct
      rw [bound, boundSlot_of_ne distinct apart, bound, boundSlot_of_ne moved renamed]
      exact upTo.pending other (List.mem_cons_of_mem _ inside)
    · by_cases here : other = input
      · subst here
        cases connected.symm.trans original
        exact placed_of_bound converted bound free warned
      -- An input done before keeps its place, as neither of its slots is bound.
      · obtain ⟨apart, moved, renamed⟩ := clear.slots_apart connected original here
        have before : other ∉ input :: ahead := by simp [here, done]
        refine (upTo.placed other found original before).1.mono (fun slot own => ?_)
          (decided other found original before) moves.warns
        rcases own with rfl | rfl
        · rw [bound, boundSlot_of_ne here apart]
        · rw [bound, boundSlot_of_ne moved renamed]
  -- The terminal does not read itself, and so it is not converted.
  · exact absurd rfl (accounts'.ne_of_met unread (accounts'.met_of_converted converted))

/-- A run over all inputs of a terminal places them. -/
theorem placedUpTo_run (clear : origin.Clear terminal)
    (unread : ∀ input connection, origin.input? terminal input = some connection →
      connection.source ≠ terminal)
    (inputs : List String) (distinct : inputs.Nodup)
    (connected : ∀ input ∈ inputs, ∃ connection, origin.input? terminal input = some connection)
    (accounts : Accounts compile document searchPaths registry compiler origin terminal conversion)
    (upTo : PlacedUpTo origin terminal inputs conversion) :
    PlacedUpTo origin terminal []
      (Conversion.run compile document searchPaths terminal conversion inputs) := by
  unfold Conversion.run
  induction inputs generalizing conversion with
  | nil => exact upTo
  | cons input rest ih =>
    -- The inputs behind the head are still ahead, and all of them are connected.
    rw [List.nodup_cons] at distinct
    obtain ⟨connection, original⟩ := connected input List.mem_cons_self
    have moves := step_transition compile document searchPaths terminal conversion input
    have others := fun other inside => connected other (List.mem_cons_of_mem input inside)
    exact ih distinct.2 others (accounts.transition unread moves)
      (upTo.transition clear unread accounts original distinct.1 others moves)

/-! ### The reserved inputs -/

/-- None of the names that the adapters have for reserved inputs is reserved itself. -/
theorem reserved_apart {name : String} (reserved : name ∈ reservedInputs.map (·.1)) :
    name ∉ reservedInputs.map (·.2) := by
  -- The table is short, and its two columns share no name.
  revert name
  decide

/-- A reserved input has another name for the adapters. -/
theorem adapterName_ne_of_reserved {name : String} (reserved : name ∈ reservedInputs.map (·.1)) :
    adapterName name ≠ name := by
  -- The table is short, and no row maps a name to itself.
  revert name
  decide

/-- A terminal is vacated up to the inputs ahead when each other reserved input reads what it read on entry,
unless that was converted. -/
def Vacated (origin : Network) (terminal : String) (ahead : List String) (conversion : Conversion σ) :
    Prop :=
  ∀ name ∈ reservedInputs.map (·.1), name ∉ ahead → ∀ connection,
    conversion.network.input? terminal name = some connection ↔
      origin.input? terminal name = some connection ∧ connection.source ∉ conversion.summary.converted

/-- Doing the next input vacates it if its name is reserved. -/
theorem Vacated.transition {ahead : List String}
    (vacated : Vacated origin terminal (input :: ahead) conversion)
    (records : KeepsRecords compile document searchPaths registry compiler origin terminal conversion)
    (visits : Visits origin terminal (input :: ahead) conversion)
    (plain : terminal ∉ next.summary.converted)
    (moves : Transition compile document searchPaths terminal conversion input next) :
    Vacated origin terminal ahead next := by
  intro name reserved done connection
  have own := reserved_apart reserved
  have present := records.within.derives.present
  by_cases here : name = input
  -- The input that is done reads its source on entry, and no more once that is converted.
  · subst here
    have pending := visits.pending name List.mem_cons_self own
    rcases moves.slots with ⟨same, converts, idle⟩ | ⟨source, entry, read, converted, bound, _⟩ |
      ⟨converted, _⟩
    · rw [same, pending, converts]
      refine ⟨fun reads => ⟨reads, fun converted => ?_⟩, And.left⟩
      have met := (records.met _).1 (records.met_of_converted converted)
      rcases idle connection (pending.trans reads) with missing | unmet | nothing
      · rw [present, records.within.present_of_met met] at missing
        simp at missing
      · exact unmet met
      · exact records.shader?_ne_none converted nothing
    · have freed : next.network.input? terminal name = none := by
        rw [bound]
        simp [boundSlot, Ne.symm (adapterName_ne_of_reserved reserved)]
      rw [freed]
      constructor
      · intro reads
        simp at reads
      · rintro ⟨reads, unconverted⟩
        cases (pending.trans reads).symm.trans read
        exact absurd converted unconverted
    · exact absurd converted plain
  -- An input done before was left alone, and what became of its source was decided when it was met.
  · have before : name ∉ input :: ahead := by simp [here, done]
    have same : next.network.input? terminal name = conversion.network.input? terminal name := by
      rcases moves.slots with ⟨same, _, _⟩ | ⟨source, entry, read, converted, bound, _⟩ | ⟨converted, _⟩
      · exact same name
      · have renamed : name ≠ adapterName input := fun equal =>
          (adapterName_eq_or_mem input).elim (fun kept => here (equal.trans kept))
            fun other => own (equal ▸ other)
        rw [bound, boundSlot_of_ne here renamed]
      · exact absurd converted plain
    rw [same, vacated name reserved before connection]
    refine and_congr_right fun reads => not_congr ⟨(moves.converts _).1, fun converted => ?_⟩
    refine ((moves.converts _).2 converted).resolve_right fun unmet => unmet ?_
    have records' := records.transition moves
    exact visits.met name connection reads own before (records'.within.present_of_met
      ((records'.met _).1 (records'.met_of_converted converted)))

/-- A run that does not convert the terminal itself vacates its reserved inputs. -/
theorem vacated_run (inputs : List String) (distinct : inputs.Nodup)
    (records : KeepsRecords compile document searchPaths registry compiler origin terminal conversion)
    (visits : Visits origin terminal inputs conversion)
    (vacated : Vacated origin terminal inputs conversion)
    (plain : terminal ∉
      (Conversion.run compile document searchPaths terminal conversion inputs).summary.converted) :
    Vacated origin terminal []
      (Conversion.run compile document searchPaths terminal conversion inputs) := by
  induction inputs generalizing conversion with
  | nil => exact vacated
  | cons input rest ih =>
    rw [List.nodup_cons] at distinct
    have moves := step_transition compile document searchPaths terminal conversion input
    -- What is not converted in the end is not converted on the way.
    have yet : terminal ∉ (step compile document searchPaths terminal conversion input).summary.converted :=
      fun converted => plain (mem_converted_run compile document searchPaths terminal rest converted)
    exact ih distinct.2 (records.transition moves)
      (visits.transition distinct.1 records.within yet moves)
      (vacated.transition records visits yet moves) plain

/-- Once its inputs are converted, a reserved input of a terminal reads what it read on entry if neither that
nor the terminal was converted, and else nothing. -/
theorem input?_reserved (compile : Compiler σ) (document : Document) (searchPaths : List String)
    (registry : Registry) (compiler : σ) (network : Network) (terminal : String) {name : String}
    (reserved : name ∈ reservedInputs.map (·.1)) (connection : Connection) :
    let rewritten := Conversion.run compile document searchPaths terminal
      ({ network, registry, compiler } : Conversion σ) (network.inputNames terminal)
    rewritten.network.input? terminal name = some connection ↔
      network.input? terminal name = some connection ∧
        connection.source ∉ rewritten.summary.converted ∧ terminal ∉ rewritten.summary.converted := by
  intro rewritten
  have starts := keepsRecords_start compile document searchPaths registry compiler network terminal
  by_cases converted : terminal ∈ rewritten.summary.converted
  -- A terminal that is converted itself reads nothing any more.
  · have nothing : rewritten.network.input? terminal name = none :=
      (starts.run (network.inputNames terminal)).input?_of_converted converted name
    simp [nothing, converted]
  · have vacated := vacated_run (network.inputNames terminal) (network.inputNames_nodup terminal) starts
      (visits_start registry compiler network terminal)
      (fun other _ done read => ⟨fun reads => ⟨reads, List.not_mem_nil⟩, And.left⟩) converted
    simp only [converted, not_false_eq_true, and_true]
    exact vacated name reserved List.not_mem_nil connection

end Conversion

end ShadeBake
