import ShadeBake.Proofs.Conversion.Outcome

/-! How far a run comes: which sources of a terminal it meets, how many of those it generates a shader for, and how
many of these are compiled and converted to. -/

namespace ShadeBake

/-- A shader is generated for a node of a document when there is a source for it. -/
def Document.generates (document : Document) (searchPaths : List String) (node : String) : Bool :=
  (Shader.generate document searchPaths (Conversion.shaderNameFor node) (NodePath.leaf node)
    (NodePath.parent node)).toOption.isSome

namespace Conversion

variable {σ : Type} (compile : Compiler σ) (document : Document) (searchPaths : List String)

/-! ### Generated shaders -/

/-- What one step adds to a summary: nothing, or a node that was met, as far as the work on it came. -/
inductive Adds (document : Document) (searchPaths : List String) (before : ConversionSummary) :
    ConversionSummary → Prop
  /-- No node was met. -/
  | nothing : Adds document searchPaths before before
  /-- The node has no source. -/
  | met {node : String} (plain : document.generates searchPaths node = false) :
    Adds document searchPaths before { before with firstLevel := before.firstLevel ++ [node] }
  /-- The node has a source, and the compiler gave no shader for it. -/
  | generated {node : String} (generates : document.generates searchPaths node = true) :
    Adds document searchPaths before
      { before with
        firstLevel := before.firstLevel ++ [node]
        generated := before.generated + 1 }
  /-- The compiler gave a shader that could not be registered. -/
  | compiled {node : String} (generates : document.generates searchPaths node = true) :
    Adds document searchPaths before
      { before with
        firstLevel := before.firstLevel ++ [node]
        generated := before.generated + 1
        compiled := before.compiled + 1 }
  /-- The node was converted to its shader. -/
  | converted {node : String} (generates : document.generates searchPaths node = true) :
    Adds document searchPaths before
      { before with
        firstLevel := before.firstLevel ++ [node]
        converted := before.converted ++ [node]
        generated := before.generated + 1
        compiled := before.compiled + 1 }

/-- A conversion counts the shaders when that many were generated as nodes were met that have one. -/
def CountsShaders (conversion : Conversion σ) : Prop :=
  conversion.summary.generated =
    (conversion.summary.firstLevel.filter (document.generates searchPaths)).length

variable {compile document searchPaths} {terminal input : String} {connection : Connection}
  {conversion : Conversion σ}

/-- Compiling a node that was just met adds it. -/
theorem adds_compileNode :
    Adds document searchPaths conversion.summary
      (compileNode compile document searchPaths (conversion.meet connection.source) terminal input
        connection).summary := by
  cases generated : Shader.generate document searchPaths (shaderNameFor connection.source)
      (NodePath.leaf connection.source) (NodePath.parent connection.source) with
  | error warning =>
    have plain : document.generates searchPaths connection.source = false := by
      simp [Document.generates, generated, Except.toOption]
    simp only [compileNode, generated]
    exact .met plain
  | ok source =>
    have generates : document.generates searchPaths connection.source = true := by
      simp [Document.generates, generated, Except.toOption]
    simp only [compileNode, generated, install]
    -- There may be no shader, or one that cannot be registered.
    split
    · exact .generated generates
    · split
      · exact .compiled generates
      · exact .converted generates

/-- Every step adds to the summary. -/
theorem adds_step (input : String) :
    Adds document searchPaths conversion.summary
      (step compile document searchPaths terminal conversion input).summary := by
  unfold Conversion.step
  split
  · exact .nothing
  · split
    · split
      -- A node that was met before is bound at most.
      · unfold revisit
        split
        · split
          · exact .nothing
          · exact .nothing
        · exact .nothing
      · exact adds_compileNode
    · exact .nothing

/-- The number of generated shaders and the nodes met that have a source grow together. -/
theorem Adds.counts {before after : ConversionSummary} (adds : Adds document searchPaths before after)
    (counts : before.generated = (before.firstLevel.filter (document.generates searchPaths)).length) :
    after.generated = (after.firstLevel.filter (document.generates searchPaths)).length := by
  -- Each case adds to the list and to the count alike, or to neither.
  cases adds with
  | nothing => exact counts
  | met plain => simp [List.filter_append, plain, counts]
  | generated generates => simp [List.filter_append, generates, counts]
  | compiled generates => simp [List.filter_append, generates, counts]
  | converted generates => simp [List.filter_append, generates, counts]

/-- What is counted of a node as converted is counted as compiled, and what is so as generated. -/
theorem Adds.tallies {before after : ConversionSummary} (adds : Adds document searchPaths before after)
    (converted : before.converted.length ≤ before.compiled) (compiled : before.compiled ≤ before.generated) :
    after.converted.length ≤ after.compiled ∧ after.compiled ≤ after.generated := by
  -- Each stage of a visit is counted only after the one before it.
  cases adds with
  | nothing => exact ⟨converted, compiled⟩
  | met plain => exact ⟨converted, compiled⟩
  | generated generates => exact ⟨converted, Nat.le_succ_of_le compiled⟩
  | compiled generates => exact ⟨Nat.le_succ_of_le converted, Nat.succ_le_succ compiled⟩
  | converted generates =>
    refine ⟨?_, Nat.succ_le_succ compiled⟩
    rw [List.length_append]
    exact Nat.succ_le_succ converted

/-- Every step counts the shaders. -/
theorem CountsShaders.step (counts : CountsShaders document searchPaths conversion) (input : String) :
    CountsShaders document searchPaths (step compile document searchPaths terminal conversion input) :=
  -- A step counts a shader exactly if it meets a node that has one.
  (adds_step input).counts counts

/-- A whole run counts the shaders. -/
theorem CountsShaders.run (counts : CountsShaders document searchPaths conversion) (inputs : List String) :
    CountsShaders document searchPaths
      (Conversion.run compile document searchPaths terminal conversion inputs) :=
  -- The count goes from one step to the next.
  List.foldlRecOn (motive := CountsShaders document searchPaths) _ _ counts fun _ counts input _ =>
    counts.step input

/-- At the start no shader was generated. -/
theorem countsShaders_start (network : Network) (registry : Registry) (compiler : σ) :
    CountsShaders document searchPaths ({ network, registry, compiler } : Conversion σ) :=
  -- Nothing is counted, and nothing was added.
  rfl

/-- A conversion is tallied when it compiled as many shaders as it converted nodes or more, and generated as many
as it compiled or more. -/
structure Tallied (conversion : Conversion σ) : Prop where
  converted : conversion.summary.converted.length ≤ conversion.summary.compiled
  compiled : conversion.summary.compiled ≤ conversion.summary.generated

/-- Every step keeps the tallies. -/
theorem Tallied.step (tallied : Tallied conversion) (input : String) :
    Tallied (step compile document searchPaths terminal conversion input) := by
  -- A step does what one of the cases of a visit says.
  have adds : Adds document searchPaths conversion.summary
    (Conversion.step compile document searchPaths terminal conversion input).summary := adds_step input
  obtain ⟨converted, compiled⟩ := adds.tallies tallied.converted tallied.compiled
  exact ⟨converted, compiled⟩

/-- A whole run keeps the tallies. -/
theorem Tallied.run (tallied : Tallied conversion) (inputs : List String) :
    Tallied (Conversion.run compile document searchPaths terminal conversion inputs) :=
  -- What each step keeps, the next one starts from.
  List.foldlRecOn (motive := Tallied) _ _ tallied fun _ tallied input _ => tallied.step input

/-- At the start nothing is counted. -/
theorem tallied_start (registry : Registry) (compiler : σ) (network : Network) :
    Tallied ({ network, registry, compiler } : Conversion σ) :=
  -- All counters are zero.
  ⟨Nat.le_refl _, Nat.le_refl _⟩

end Conversion

/-! ### Sources that are met -/

/-- An input of a terminal is displaced by converted nodes when it is the adapters' name for an input before it
that reads one of them. -/
def Network.Displaced (network : Network) (terminal : String) (converted : List String) (input : String) :
    Prop :=
  ∃ earlier connection, network.input? terminal earlier = some connection ∧ earlier < input ∧
    adapterName earlier = input ∧ connection.source ∈ converted

/-- An input that has another name for the adapters is displaced by no nodes. -/
theorem Network.not_displaced {network : Network} {terminal input : String} {converted : List String}
    (renamed : adapterName input ≠ input) : ¬network.Displaced terminal converted input := by
  -- A renamed input is no name that another is renamed to.
  rintro ⟨earlier, _, _, _, rfl, _⟩
  exact renamed (adapterName_adapterName earlier)

namespace Conversion

section met

variable {σ : Type} (compile : Compiler σ) (document : Document) (searchPaths : List String)
  (registry : Registry) (compiler : σ) {network : Network} {terminal : String}
  (unread : ∀ input connection, network.input? terminal input = some connection →
    connection.source ≠ terminal)

include unread

/-- The sources that exist are met, but for those that are read only at inputs which converted nodes displace. -/
theorem mem_firstLevel_run {input : String} {connection : Connection}
    (connected : network.input? terminal input = some connection)
    (present : network.hasNode connection.source = true) :
    let converted := run compile document searchPaths terminal
      ({ network, registry, compiler } : Conversion σ) (network.inputNames terminal)
    ¬network.Displaced terminal converted.summary.converted input →
      connection.source ∈ converted.summary.firstLevel := by
  -- An input that is not displaced is still connected when its turn comes.
  intro converted stays
  have starts := accounts_start compile document searchPaths registry compiler network terminal
  -- The inputs are done in order, so that only an earlier one can take the name of a later one.
  have apart : (network.inputNames terminal).Pairwise fun input slot =>
      ¬network.Displaced terminal converted.summary.converted slot → slot = adapterName input →
        ¬network.Displaced terminal converted.summary.converted input ∧
          ∀ connection, network.input? terminal input = some connection →
            connection.source ∉ converted.summary.converted := by
    refine (network.inputNames_sorted terminal).imp fun before tracked same =>
      ⟨?_, fun connection reads taken => ?_⟩
    · refine Network.not_displaced fun kept => ?_
      rw [same, kept] at before
      exact String.lt_irrefl _ before
    · exact tracked ⟨_, connection, reads, before, same.symm, taken⟩
  have visits := visitsWhere_run unread (network.inputNames terminal) (network.inputNames_nodup terminal)
    apart starts ⟨fun _ _ _ => rfl, fun _ connection connected _ done _ =>
      absurd (Network.mem_inputNames_iff.2 ⟨connection, connected⟩) done⟩
  have accounts := starts.run unread (network.inputNames terminal)
  exact (accounts.met _).2 (visits.met input connection connected stays List.not_mem_nil present)

/-- Where every source that exists has a shader and is read at an input that is not displaced, there are as many
generated as there are such sources. -/
theorem generated_run
    (generates : ∀ source, network.Reads terminal source → document.generates searchPaths source = true) :
    let converted := run compile document searchPaths terminal
      ({ network, registry, compiler } : Conversion σ) (network.inputNames terminal)
    (∀ source, network.Reads terminal source → ∃ input connection,
      network.input? terminal input = some connection ∧ connection.source = source ∧
        ¬network.Displaced terminal converted.summary.converted input) →
      converted.summary.generated = (network.sources terminal).dedup.length := by
  intro converted covered
  have accounts := (accounts_start compile document searchPaths registry compiler network terminal).run unread
    (network.inputNames terminal)
  have counts : CountsShaders document searchPaths converted :=
    (countsShaders_start network registry compiler).run _
  -- The nodes met are the sources that exist, each once.
  have met : ∀ node, node ∈ converted.summary.firstLevel ↔ network.Reads terminal node := by
    refine fun node => ⟨fun inside => accounts.within.kept _ ((accounts.met _).1 inside), fun reads => ?_⟩
    obtain ⟨input, connection, connected, rfl, stays⟩ := covered node reads
    exact mem_firstLevel_run compile document searchPaths registry compiler unread connected reads.1 stays
  rw [counts, List.filter_eq_self.2 fun node inside => generates node ((met node).1 inside)]
  -- Two lists without repetition and of the same members have one length.
  have listed : ∀ node, node ∈ converted.summary.firstLevel ↔ node ∈ (network.sources terminal).dedup :=
    fun node => (met node).trans (Network.mem_sources_iff.symm.trans List.mem_dedup.symm)
  exact ((List.perm_ext_iff_of_nodup accounts.distinct (List.nodup_dedup _)).2 listed).length_eq

end met

end Conversion

end ShadeBake
