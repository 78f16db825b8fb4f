import ShadeBake.Proofs.Network.Update

/-! What binding an input of a terminal does to the connections of a network. -/

namespace ShadeBake

/-- The name that the adapters have for an input, which is its own unless that is reserved. -/
def adapterName (name : String) : String :=
  (renamedInput? name).getD name

/-- The reserved names and the adapters' names for them. -/
theorem renamedInput?_eq_some_iff {name renamed : String} :
    renamedInput? name = some renamed ↔
      (name = "emission" ∧ renamed = "emission_value") ∨
      (name = "subsurface" ∧ renamed = "subsurface_value") ∨
      (name = "normal" ∧ renamed = "input_normal") := by
  simp only [renamedInput?, reservedInputs, Dict.lookup]
  -- The table is searched from the front, one reserved name after the other.
  split
  · rename_i first
    subst first
    simp [eq_comm]
  · split
    · rename_i second
      subst second
      simp [eq_comm]
    · split
      · rename_i third
        subst third
        simp [eq_comm]
      · rename_i first second third
        simp [Ne.symm first, Ne.symm second, Ne.symm third]

/-- An input that is not reserved keeps its name. -/
theorem adapterName_of_none {name : String} (free : renamedInput? name = none) :
    adapterName name = name := by
  -- A name that is not in the table stays.
  simp [adapterName, free]

/-- An input with a reserved name gets another one. -/
theorem adapterName_ne {name : String} (reserved : renamedInput? name ≠ none) :
    adapterName name ≠ name := by
  obtain ⟨renamed, found⟩ := Option.ne_none_iff_exists'.1 reserved
  rw [adapterName, found, Option.getD_some]
  -- In each row of the table the two names differ.
  rcases renamedInput?_eq_some_iff.1 found with ⟨rfl, rfl⟩ | ⟨rfl, rfl⟩ | ⟨rfl, rfl⟩
  · decide
  · decide
  · decide

/-- Two inputs that the adapters give one name are the same, unless one of them has that name already. -/
theorem adapterName_inj {name other : String} (reserved : renamedInput? name ≠ none)
    (otherReserved : renamedInput? other ≠ none) (same : adapterName name = adapterName other) :
    name = other := by
  obtain ⟨renamed, found⟩ := Option.ne_none_iff_exists'.1 reserved
  obtain ⟨renamed', found'⟩ := Option.ne_none_iff_exists'.1 otherReserved
  simp only [adapterName, found, found', Option.getD_some] at same
  subst same
  -- The adapters' names in the table are distinct.
  rcases renamedInput?_eq_some_iff.1 found with ⟨rfl, rfl⟩ | ⟨rfl, rfl⟩ | ⟨rfl, rfl⟩
  · simpa [eq_comm] using renamedInput?_eq_some_iff.1 found'
  · simpa [eq_comm] using renamedInput?_eq_some_iff.1 found'
  · simpa [eq_comm] using renamedInput?_eq_some_iff.1 found'

namespace Network

/-- A terminal is clear when none of its inputs has a name that the adapters have for another one. -/
def Clear (network : Network) (terminal : String) : Prop :=
  ∀ reserved ∈ reservedInputs, network.input? terminal reserved.2 = none

instance (network : Network) (terminal : String) : Decidable (network.Clear terminal) :=
  inferInstanceAs (Decidable (∀ reserved ∈ reservedInputs, network.input? terminal reserved.2 = none))

/-- No reserved name becomes that of an input of a clear terminal. -/
theorem Clear.adapterName_ne {network : Network} {terminal input other : String} {connection : Connection}
    (clear : network.Clear terminal) (connected : network.input? terminal input = some connection)
    (reserved : renamedInput? other ≠ none) : adapterName other ≠ input := by
  rintro rfl
  obtain ⟨renamed, found⟩ := Option.ne_none_iff_exists'.1 reserved
  -- A new name for the adapters is connected nowhere on a clear terminal.
  have unconnected := clear (other, renamed) (Dict.mem_of_lookup found)
  simp [adapterName, found, unconnected] at connected

/-- Two inputs of a clear terminal and their names for the adapters have nothing in common. -/
theorem Clear.slots_apart {network : Network} {terminal input other : String}
    {connection connection' : Connection} (clear : network.Clear terminal)
    (connected : network.input? terminal input = some connection)
    (connected' : network.input? terminal other = some connection') (apart : other ≠ input) :
    other ≠ adapterName input ∧ adapterName other ≠ input ∧ adapterName other ≠ adapterName input := by
  -- Names change for reserved inputs only, and a new name is that of no input.
  by_cases reserved : renamedInput? input = none
  · rw [adapterName_of_none reserved]
    by_cases reserved' : renamedInput? other = none
    · rw [adapterName_of_none reserved']
      exact ⟨apart, apart, apart⟩
    · have renamed := clear.adapterName_ne connected reserved'
      exact ⟨apart, renamed, renamed⟩
  · have renamed := (clear.adapterName_ne connected' reserved).symm
    by_cases reserved' : renamedInput? other = none
    · rw [adapterName_of_none reserved']
      exact ⟨renamed, apart, renamed⟩
    · exact ⟨renamed, clear.adapterName_ne connected reserved',
        fun same => apart (adapterName_inj reserved' reserved same)⟩

variable (network : Network) (terminal input other slot : String) (connection : Connection)

/-- A connected terminal has the connection under the adapters' name and nothing under a reserved one. -/
theorem input?_connectTerminal (known : terminal ∈ network.nodeNames) :
    (network.connectTerminal terminal input connection).input? other slot
      = if terminal = other ∧ slot = adapterName input then some connection
        else if terminal = other ∧ slot = input then none
        else network.input? other slot := by
  unfold connectTerminal
  cases reserved : renamedInput? input with
  | none =>
    simp only [adapterName_of_none reserved, input?_setInput, known, and_true]
    -- The name is not reserved, so the input is set where it was.
    by_cases here : terminal = other ∧ slot = input
    · simp [here]
    · simp [here, eq_comm (a := input)]
  | some renamed =>
    have name : adapterName input = renamed := by simp [adapterName, reserved]
    have apart : renamed ≠ input := name ▸ adapterName_ne (by simp [reserved])
    simp only [input?_deleteInput, input?_setInput, known, and_true, name]
    -- The new name is set first, and taking the old one away does not touch it.
    by_cases new : terminal = other ∧ slot = renamed
    · simp [new, Ne.symm apart]
    · by_cases old : terminal = other ∧ slot = input
      · simp [old, Ne.symm apart]
      · simp [new, old, eq_comm (a := input), eq_comm (a := renamed)]

variable (entry : ShaderEntry)

/-- A terminal bound to a shader has the connection under the adapters' name, if the shader has the output,
and in any other case nothing under the input. -/
theorem input?_bindConverted (known : terminal ∈ network.nodeNames) :
    (network.bindConverted terminal input connection entry).1.input? other slot
      = if terminal = other ∧ slot = adapterName input ∧ entry.hasOutput connection.output = true then
          some connection
        else if terminal = other ∧ slot = input then none
        else network.input? other slot := by
  unfold bindConverted
  -- With the output the input is bound anew, and else it is disconnected.
  by_cases output : entry.hasOutput connection.output = true
  · simp only [output, if_true, and_true]
    exact input?_connectTerminal network terminal input other slot connection known
  · simp [output, input?_deleteInput, eq_comm (a := input)]

/-- Binding a terminal to a shader changes connections only. -/
theorem reconnected_bindConverted :
    Reconnected network (network.bindConverted terminal input connection entry).1 := by
  unfold bindConverted connectTerminal
  split
  · split
    -- A reserved input is connected under its new name, and then disconnected.
    · exact (reconnected_setInput network terminal _ connection).trans
        (reconnected_deleteInput _ terminal input)
    · exact reconnected_setInput network terminal input connection
  · exact reconnected_deleteInput network terminal input

/-- Binding a terminal to a shader leaves all types. -/
@[simp] theorem typeOf_bindConverted :
    (network.bindConverted terminal input connection entry).1.typeOf other = network.typeOf other :=
  -- Binding changes connections only.
  (reconnected_bindConverted ..).types other

/-- Binding a terminal to a shader makes or takes away no record. -/
@[simp] theorem mem_nodeNames_bindConverted :
    other ∈ (network.bindConverted terminal input connection entry).1.nodeNames ↔
      other ∈ network.nodeNames :=
  -- Binding changes connections only.
  (reconnected_bindConverted ..).records other

/-- Binding a terminal to a shader leaves all parameters. -/
@[simp] theorem parameter?_bindConverted :
    (network.bindConverted terminal input connection entry).1.parameter? other slot
      = network.parameter? other slot :=
  -- Binding changes connections only.
  (reconnected_bindConverted ..).parameters other slot

/-- Binding a terminal to a shader leaves all bindings. -/
@[simp] theorem terminals_bindConverted :
    (network.bindConverted terminal input connection entry).1.terminals = network.terminals :=
  -- The terminals of the material are bound to the same outputs as before.
  (reconnected_bindConverted ..).bindings

/-- Binding warns exactly of an output that the shader lacks. -/
theorem warnings_bindConverted :
    (network.bindConverted terminal input connection entry).2
      = if entry.hasOutput connection.output = true then []
        else [.missingOutput connection.output connection.source] := by
  -- The warning is the one thing that depends on the output.
  unfold bindConverted
  by_cases output : entry.hasOutput connection.output = true
  · simp [output]
  · simp [output]

end Network

end ShadeBake
