import ShadeBake.Proofs.Conversion.Outcome

/-! Which nodes a conversion prunes. What is collected on the way, while nodes are stripped, is what the
nodes met drew on before anything was stripped. -/

namespace ShadeBake

namespace Network

/-- A name that exists is visited or among the fresh ones. -/
theorem mem_fresh_of_hasNode {network : Network} {visited names : List String} {name : String}
    (present : network.hasNode name = true) (listed : name ∈ names) :
    name ∈ visited ∨ name ∈ network.fresh visited names := by
  induction names generalizing visited with
  | nil => simp at listed
  | cons head rest ih =>
    by_cases new : network.hasNode head = true ∧ head ∉ visited
    -- The head is taken, and counts as visited for the rest.
    · rw [fresh_cons_of_new new.1 new.2]
      rcases List.mem_cons.1 listed with rfl | later
      · exact .inr List.mem_cons_self
      · rcases @ih (visited ++ [head]) later with seen | found
        · rcases List.mem_append.1 seen with old | now
          · exact .inl old
          · exact .inr (List.mem_cons.2 (.inl (List.mem_singleton.1 now)))
        · exact .inr (List.mem_cons_of_mem _ found)
    -- The head is passed over, as it is missing or visited.
    · rw [fresh_cons_of_not fun there => Classical.byContradiction fun unseen => new ⟨there, unseen⟩]
      rcases List.mem_cons.1 listed with rfl | later
      · exact .inl (Classical.byContradiction fun unseen => new ⟨present, unseen⟩)
      · exact ih later

/-- What is found from a stack was not visited before. -/
theorem not_mem_of_mem_gatherFrom {network : Network} {visited stack : List String} {name : String}
    (member : name ∈ (network.gatherFrom visited stack).1) : name ∉ visited := by
  fun_induction network.gatherFrom visited stack with
  | case1 visited => simp at member
  | case2 visited node rest found later warnings result ih =>
    rcases List.mem_append.1 member with now | afterwards
    · exact (mem_fresh now).2.1
    -- What is found later was neither visited nor found before.
    · exact fun seen => ih (by rw [result]; exact afterwards) (List.mem_append_left _ seen)

/-- All that a node on the stack or a found node reads was visited or is found. -/
theorem gatherFrom_closed {network : Network} {visited stack : List String} {reader source : String}
    (looked : reader ∈ stack ∨ reader ∈ (network.gatherFrom visited stack).1)
    (reads : network.Reads reader source) :
    source ∈ visited ∨ source ∈ (network.gatherFrom visited stack).1 := by
  -- The induction is on the search, whose stack holds the readers that are still to be looked at.
  fun_induction network.gatherFrom visited stack with
  | case1 visited => simp at looked
  | case2 visited node rest found later warnings result ih =>
    -- The readers that are left after the node on top are on the next stack or found from it.
    have below : (reader ∈ found.reverse ++ rest ∨ reader ∈ later) →
        source ∈ visited ∨ source ∈ found ++ later := by
      intro pending
      rcases ih (by rw [result]; exact pending) with seen | found'
      · rcases List.mem_append.1 seen with old | now
        · exact .inl old
        · exact .inr (List.mem_append_left _ now)
      · rw [result] at found'
        exact .inr (List.mem_append_right _ found')
    rcases looked with stacked | found'
    · rcases List.mem_cons.1 stacked with rfl | waiting
      · have listed := (List.mem_filter.1 (mem_sources_iff.2 reads)).1
        exact (mem_fresh_of_hasNode reads.1 listed).imp_right (List.mem_append_left _)
      · exact below (.inl (List.mem_append_right _ waiting))
    · rcases List.mem_append.1 found' with now | afterwards
      · exact below (.inl (List.mem_append_left _ (List.mem_reverse.2 now)))
      · exact below (.inr afterwards)

/-- A collection adds the same new nodes to the collected ones and to those met, and meets all that these and
the given one read. -/
theorem gather_adds (network : Network) (node : String) (nodes visited : NameSet) :
    ∃ found : List String,
      (∀ name, name ∈ Dict.keys (network.gather node nodes visited).nodes ↔
        name ∈ found ∨ name ∈ Dict.keys nodes) ∧
      (∀ name, name ∈ Dict.keys (network.gather node nodes visited).visited ↔
        name ∈ found ∨ name ∈ Dict.keys visited) ∧
      (∀ name ∈ found, name ∉ Dict.keys visited) ∧
      ∀ reader, reader = node ∨ reader ∈ found → ∀ source, network.Reads reader source →
        source ∈ Dict.keys (network.gather node nodes visited).visited := by
  -- The search starts from the one node, and what it finds is added to both sets.
  refine ⟨(network.gatherFrom visited.keys [node]).1, fun name => NameSet.mem_keys_foldl_add,
    fun name => NameSet.mem_keys_foldl_add, fun name => not_mem_of_mem_gatherFrom,
    fun reader looked source reads => NameSet.mem_keys_foldl_add.2 ?_⟩
  exact (gatherFrom_closed (looked.imp_left fun same => same ▸ List.mem_cons_self) reads).symm

end Network

namespace Conversion

variable {σ : Type} {compile : Compiler σ} {document : Document} {searchPaths : List String}
  {registry : Registry} {compiler : σ} {origin : Network} {terminal input : String}
  {conversion next : Conversion σ}

/-- A conversion collects when the nodes visited are those met and those collected, and what any of these but
the terminal read on entry was visited too. -/
structure Collects (origin : Network) (terminal : String) (conversion : Conversion σ) : Prop where
  visits : ∀ node, node ∈ Dict.keys conversion.visited ↔
    node ∈ Dict.keys conversion.keep ∨ node ∈ Dict.keys conversion.candidates
  closed : ∀ node ∈ Dict.keys conversion.visited, node ≠ terminal →
    ∀ source, origin.Reads node source → source ∈ Dict.keys conversion.visited

/-- A conversion that starts collects. -/
theorem collects_start (registry : Registry) (compiler : σ) (network : Network) (terminal : String) :
    Collects network terminal ({ network, registry, compiler } : Conversion σ) where
  visits _ := by simp [Dict.keys, Dict.empty]
  closed _ visited := absurd visited List.not_mem_nil

/-- A node other than the terminal that was not met still reads what it read on entry. -/
theorem KeepsRecords.reads_of_unmet
    (records : KeepsRecords compile document searchPaths registry compiler origin terminal conversion)
    {node source : String} (unmet : node ∉ Dict.keys conversion.keep) (apart : node ≠ terminal)
    (reads : origin.Reads node source) : conversion.network.Reads node source := by
  obtain ⟨present, slot, connection, connected, same⟩ := reads
  -- A node that was not met was not converted.
  have plain : node ∉ conversion.summary.converted :=
    fun converted => unmet ((records.met node).1 (records.met_of_converted converted))
  exact ⟨(records.within.derives.present source).trans present, slot, connection,
    (records.input?_of_unconverted apart plain slot).trans connected, same⟩

/-- Meeting a node collects all that it draws on and that was not collected before. -/
theorem Collects.meet (collects : Collects origin terminal conversion)
    (records : KeepsRecords compile document searchPaths registry compiler origin terminal conversion)
    {node : String} (new : node ∉ Dict.keys conversion.keep) :
    Collects origin terminal (conversion.meet node) := by
  obtain ⟨found, nodes, visited, fresh, reads⟩ := conversion.network.gather_adds node conversion.candidates
    (conversion.visited.add node)
  have kept : ∀ other, other ∈ Dict.keys (conversion.meet node).keep ↔
      other = node ∨ other ∈ Dict.keys conversion.keep := fun other => NameSet.mem_keys_add
  -- The node itself is visited first, and then what is found from it.
  have visits : ∀ other, other ∈ Dict.keys (conversion.meet node).visited ↔
      other ∈ found ∨ other = node ∨ other ∈ Dict.keys conversion.visited :=
    fun other => (visited other).trans (or_congr_right NameSet.mem_keys_add)
  refine ⟨fun other => ?_, fun other inside apart source original => ?_⟩
  · have collected : other ∈ Dict.keys (conversion.meet node).candidates ↔
        other ∈ found ∨ other ∈ Dict.keys conversion.candidates := nodes other
    rw [visits, kept, collected, collects.visits]
    tauto
  -- Nothing that is new was stripped, and what the others read was visited before.
  · rcases (visits other).1 inside with now | rfl | old
    · have unvisited : other ∉ Dict.keys conversion.keep := fun met =>
        fresh other now (NameSet.mem_keys_add.2 (.inr ((collects.visits other).2 (.inl met))))
      exact reads other (.inr now) source (records.reads_of_unmet unvisited apart original)
    · exact reads other (.inl rfl) source (records.reads_of_unmet new apart original)
    · exact (visits source).2 (.inr (.inr (collects.closed other old apart source original)))

/-- Every transition goes on collecting. -/
theorem Collects.transition (collects : Collects origin terminal conversion)
    (records : KeepsRecords compile document searchPaths registry compiler origin terminal conversion)
    (moves : Transition compile document searchPaths terminal conversion input next) :
    Collects origin terminal next := by
  -- Only meeting a node collects anything, and what is done to it afterwards is not looked at.
  cases moves with
  | unconnected absent => exact collects
  | dangling connected missing => exact ⟨collects.visits, collects.closed⟩
  | unconverted connected present met plain => exact collects
  | rebound connected present met shader => exact ⟨collects.visits, collects.closed⟩
  | failed connected present new nothing =>
    have met := collects.meet records new
    exact ⟨met.visits, met.closed⟩
  | converted connected present new shader =>
    have met := collects.meet records new
    exact ⟨met.visits, met.closed⟩

/-- A run goes on collecting. -/
theorem Collects.run (inputs : List String) (collects : Collects origin terminal conversion)
    (records : KeepsRecords compile document searchPaths registry compiler origin terminal conversion) :
    Collects origin terminal (Conversion.run compile document searchPaths terminal conversion inputs) := by
  unfold Conversion.run
  -- The records that a transition keeps are those that the next one needs.
  induction inputs generalizing conversion with
  | nil => exact collects
  | cons input rest ih =>
    have moves := step_transition compile document searchPaths terminal conversion input
    exact ih (collects.transition records moves) (records.transition moves)

/-- Once all that the terminal reads was met, the nodes visited are those that feed it. -/
theorem Collects.mem_visited_iff (collects : Collects origin terminal conversion)
    (within : StaysWithin origin terminal conversion)
    (met : ∀ node, origin.Reads terminal node → node ∈ Dict.keys conversion.keep) {node : String} :
    node ∈ Dict.keys conversion.visited ↔
      ∃ first, origin.Reads terminal first ∧ origin.DrawsOn first node := by
  constructor
  · intro visited
    rcases (collects.visits node).1 visited with kept | collected
    · exact ⟨node, within.kept node kept, .refl⟩
    · obtain ⟨first, kept, draws⟩ := within.gathered node collected
      exact ⟨first, within.kept first kept, draws.to_reflTransGen⟩
  · rintro ⟨first, reads, draws⟩
    -- Along the chain each node is visited because the one before it is.
    induction draws with
    | refl => exact (collects.visits first).2 (.inl (met first reads))
    | @tail reader source _ read ih =>
      by_cases self : reader = terminal
      · exact (collects.visits source).2 (.inl (met source (self ▸ read)))
      · exact collects.closed reader ih self source read

end Conversion

/-- A node without a record draws on itself alone. -/
theorem Network.DrawsOn.eq_of_not_mem {network : Network} {node source : String}
    (draws : network.DrawsOn node source) (absent : node ∉ network.nodeNames) : source = node := by
  -- To read anything it would have to have a record.
  rcases draws.cases_head with same | ⟨other, ⟨_, _, _, connected, _⟩, _⟩
  · exact same.symm
  · exact absurd (mem_nodeNames_of_input? connected) absent

namespace Conversion

/-- Once all that the terminal reads was met, exactly those nodes are pruned that feed it but are neither read
by it nor the terminal itself, and that neither the terminal nor what it read nor a node that does not feed
it draws on. -/
theorem Collects.mem_prunable_iff {σ : Type} {origin : Network} {terminal : String}
    {conversion : Conversion σ} (collects : Collects origin terminal conversion)
    (within : StaysWithin origin terminal conversion)
    (met : ∀ node, origin.Reads terminal node → node ∈ Dict.keys conversion.keep) {node : String} :
    node ∈ conversion.network.prunable terminal conversion.candidates conversion.keep ↔
      (∃ first, origin.Reads terminal first ∧ origin.DrawsOn first node) ∧
      ¬origin.Reads terminal node ∧ node ≠ terminal ∧
      ∀ anchor, anchor = terminal ∨ origin.Reads terminal anchor ∨
          (¬∃ first, origin.Reads terminal first ∧ origin.DrawsOn first anchor) →
        ¬conversion.network.DrawsOn anchor node := by
  have feeds : ∀ {node}, (∃ first, origin.Reads terminal first ∧ origin.DrawsOn first node) ↔
      node ∈ Dict.keys conversion.visited := (collects.mem_visited_iff within met).symm
  simp only [feeds]
  constructor
  · intro doomed
    obtain ⟨collected, present, unused⟩ := Network.mem_prunable_iff.1 doomed
    -- An anchor draws on itself, so the node is none of them.
    have free := fun anchored => Network.not_mem_prunable_of_anchor (Network.mem_anchors_iff.2 anchored) doomed
    have recorded := Network.mem_nodeNames_of_hasNode present
    refine ⟨(collects.visits node).2 (.inr collected), fun reads => free (.inr ⟨recorded, .inl (met node reads)⟩),
      fun same => free (.inl same), fun anchor kind draws => ?_⟩
    by_cases known : anchor ∈ conversion.network.nodeNames
    · refine unused anchor (Network.mem_anchors_iff.2 ?_) draws
      rcases kind with same | reads | away
      · exact .inl same
      · exact .inr ⟨known, .inl (met anchor reads)⟩
      · exact .inr ⟨known, .inr fun inside => away ((collects.visits anchor).2 (.inr inside))⟩
    -- A name without a node draws on nothing else, and the node has a record.
    · exact known (draws.eq_of_not_mem known ▸ recorded)
  · rintro ⟨visited, unread, _, unused⟩
    have collected := ((collects.visits node).1 visited).resolve_left fun kept =>
      unread (within.kept node kept)
    refine Network.mem_prunable_iff.2 ⟨collected,
      (within.derives.present node).trans (within.present_of_gathered collected), fun anchor anchored => ?_⟩
    refine unused anchor ?_
    rcases Network.mem_anchors_iff.1 anchored with same | ⟨_, kept | apart⟩
    · exact .inl same
    · exact .inr (.inl (within.kept anchor kept))
    -- A node that is no candidate is kept, and so read by the terminal, or does not feed it.
    · by_cases kept : anchor ∈ Dict.keys conversion.keep
      · exact .inr (.inl (within.kept anchor kept))
      · exact .inr (.inr fun fed => ((collects.visits anchor).1 fed).elim kept apart)

end Conversion

/-- Which nodes are pruned when the inputs of a terminal are converted that does not read itself and has no
input under a name that the adapters reserve. They are the nodes that feed the terminal on entry but are
neither read by it nor the terminal itself, and that in the network as rewritten none of these draws on:
the terminal, the nodes that it read, and the nodes that do not feed it. In that network the nodes converted
read nothing and all others but the terminal read what they read on entry. -/
theorem Network.convertInputs_prunes {σ : Type} (compile : Compiler σ) (document : Document)
    (searchPaths : List String) (registry : Registry) (compiler : σ) (network : Network) (terminal : String)
    (unread : ∀ input connection, network.input? terminal input = some connection →
      connection.source ≠ terminal)
    (clear : network.Clear terminal) :
    let after := network.convertInputs compile document searchPaths registry compiler terminal
    let rewritten := (Conversion.run compile document searchPaths terminal { network, registry, compiler }
      (network.inputNames terminal)).network
    let feeds := fun node => ∃ first, network.Reads terminal first ∧ network.DrawsOn first node
    ((∀ node slot, node ≠ terminal → rewritten.input? node slot =
        if node ∈ after.summary.converted then none else network.input? node slot) ∧
      ∀ slot, rewritten.input? terminal slot = after.network.input? terminal slot) ∧
    (∀ node, node ∈ network.nodeNames ∧ node ∉ after.network.nodeNames ↔
      feeds node ∧ ¬network.Reads terminal node ∧ node ≠ terminal ∧
        ∀ anchor, anchor = terminal ∨ network.Reads terminal anchor ∨ ¬feeds anchor →
          ¬rewritten.DrawsOn anchor node) ∧
    after.summary.pruned.Nodup ∧
    ∀ node, node ∈ after.summary.pruned ↔ node ∈ network.nodeNames ∧ node ∉ after.network.nodeNames := by
  intro after rewritten feeds
  have starts := Conversion.accounts_start compile document searchPaths registry compiler network terminal
  have accounts := starts.run unread (network.inputNames terminal)
  have visits := Conversion.visits_run unread _ (network.inputNames_nodup terminal) starts
    (Conversion.visits_start registry compiler network terminal)
  have collects := (Conversion.collects_start registry compiler network terminal).run
    (network.inputNames terminal) starts.toKeepsRecords
  generalize made : Conversion.run compile document searchPaths terminal
    { network, registry, compiler } (network.inputNames terminal) = conversion at accounts visits collects
  have final : after = conversion.finish terminal := made ▸ rfl
  have before : rewritten = conversion.network := congrArg (·.network) made
  clear_value after rewritten
  subst final before
  have records := accounts.toKeepsRecords
  -- All that the terminal reads was met, as none of its inputs has a name that the adapters reserve.
  have met : ∀ node, network.Reads terminal node → node ∈ Dict.keys conversion.keep := by
    rintro node ⟨present, slot, connection, connected, rfl⟩
    refine visits.met slot connection connected (fun reserved => ?_) List.not_mem_nil present
    obtain ⟨pair, inside, rfl⟩ := List.mem_map.1 reserved
    simp [clear pair inside] at connected
  have pruned : ∀ node, node ∈ (conversion.finish terminal).summary.pruned ↔
      node ∈ network.nodeNames ∧ node ∉ (conversion.finish terminal).network.nodeNames := by
    intro node
    have deleted : node ∈ (conversion.finish terminal).network.nodeNames ↔
        node ∉ (conversion.finish terminal).summary.pruned ∧ node ∈ conversion.network.nodeNames :=
      Network.mem_nodeNames_deleteNodes
    rw [deleted, records.within.derives.records]
    exact ⟨fun doomed => ⟨(records.of_pruned doomed).1, fun stays => stays.1 doomed⟩,
      fun ⟨recorded, gone⟩ => Classical.byContradiction fun stays => gone ⟨stays, recorded⟩⟩
  refine ⟨⟨fun node slot apart => ?_, fun slot => (conversion.input?_finish terminal slot).symm⟩,
    fun node => ?_, ?_, pruned⟩
  · split
    · rename_i converted
      exact records.input?_of_converted converted slot
    · rename_i plain
      exact records.input?_of_unconverted apart plain slot
  · rw [← pruned]
    exact collects.mem_prunable_iff records.within met
  -- The candidates are listed in strict order, and those that are pruned in the same.
  · refine List.Nodup.filter _ ((Dict.keys_sorted conversion.candidates).imp fun below equal => ?_)
    rw [equal] at below
    exact String.lt_irrefl _ below

namespace Conversion.Mixed

/-- What fed the node that is converted is pruned, as neither the terminal nor the node itself draws on it
any more. What feeds the other node stays. -/
theorem prunes :
    (∀ input connection, network.input? "/M/t" input = some connection → connection.source ≠ "/M/t") ∧
    network.Clear "/M/t" ∧
    let after := network.convertInputs Emissive.compile Emissive.document [] Registry.empty () "/M/t"
    let rewritten := (run Emissive.compile Emissive.document [] "/M/t" start
      (network.inputNames "/M/t")).network
    ("/M/b" ∈ network.nodeNames ∧ "/M/b" ∉ after.network.nodeNames) ∧
    "/M/d" ∈ after.network.nodeNames ∧
    ¬rewritten.DrawsOn "/M/t" "/M/b" ∧ ¬rewritten.DrawsOn "/M/a" "/M/b" := by
  have unread : ∀ input connection, network.input? "/M/t" input = some connection →
      connection.source ≠ "/M/t" := Network.source_ne_of_inputs (by decide)
  -- None of the reserved names for the adapters is connected.
  have clear : network.Clear "/M/t" := by
    intro reserved inside
    simp only [reservedInputs, List.mem_cons, List.not_mem_nil, or_false] at inside
    rcases inside with rfl | rfl | rfl
    · decide
    · decide
    · decide
  refine ⟨unread, clear, ?_⟩
  intro after rewritten
  obtain ⟨_, deleted, _, listed⟩ := Network.convertInputs_prunes Emissive.compile Emissive.document []
    Registry.empty () network "/M/t" unread clear
  have pruned : after.summary.pruned = ["/M/b"] := (Prod.mk.inj summary).2
  have gone := (listed "/M/b").1 (by rw [pruned]; exact List.mem_singleton_self _)
  obtain ⟨_, _, _, unused⟩ := (deleted "/M/b").1 gone
  -- The terminal reads the node that is converted.
  have reads : network.Reads "/M/t" "/M/a" := ⟨by decide, "base", ⟨"/M/a", "out"⟩, by decide, rfl⟩
  refine ⟨gone, Classical.byContradiction fun lost => ?_, unused "/M/t" (.inl rfl),
    unused "/M/a" (.inr (.inl reads))⟩
  have other := (listed "/M/d").2 ⟨by decide, lost⟩
  rw [pruned] at other
  simp at other

end Conversion.Mixed

end ShadeBake
