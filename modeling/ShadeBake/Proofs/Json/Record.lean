import ShadeBake.Proofs.Json.Value

/-! Records in written forms: a form without repeated names gives the same fields as its value does, and maps
read back value by value. -/

namespace ShadeBake

namespace Dict

variable {α β : Type}

/-- Lists of the same names whose items are related list related items under each name. -/
theorem rel_lookup (relation : α → β → Prop) {list : List (String × α)}
    {others : List (String × β)}
    (related : List.Forall₂ (fun a b => a.1 = b.1 ∧ relation a.2 b.2) list others) (name : String) :
    Option.Rel relation (lookup name list) (lookup name others) := by
  -- The names agree pair by pair, so both searches stop at the same place.
  induction related with
  | nil => exact .none
  | @cons a b list others here later ih =>
    by_cases same : a.1 = name
    · simp only [lookup, same, ← here.1, if_true]
      exact .some here.2
    · simp only [lookup, same, ← here.1, if_false]
      exact ih

end Dict

namespace Json

namespace Tree

/-- A form is settled when it is the written form of the value that another form has. -/
def Settles (tree settled : Tree) : Prop :=
  ∃ room value, tree.value? room = some value ∧ settled = value.toTree

/-- A settled form writes the same string, and is null where the other is. -/
theorem Settles.string? {tree settled : Tree} (settles : Settles tree settled) :
    settled.string? = tree.string? ∧ nullable string? settled = nullable string? tree := by
  obtain ⟨room, value, held, rfl⟩ := settles
  cases hasValue_of_value? held with
  | null => exact ⟨rfl, rfl⟩
  | bool b => exact ⟨rfl, rfl⟩
  | number n => exact ⟨rfl, rfl⟩
  -- A string that has a value is that value.
  | string s => exact ⟨rfl, rfl⟩
  | array each => exact ⟨rfl, rfl⟩
  | object each => exact ⟨rfl, rfl⟩

/-- Of distinct names the one member under a name is what is listed under it. -/
theorem single?_of_nodup {members : List (String × Tree)} (distinct : (members.map (·.1)).Nodup)
    (name : String) : single? name members = some (Dict.lookup name members) := by
  unfold single?
  induction members with
  | nil => rfl
  | cons member rest ih =>
    rw [List.map_cons, List.nodup_cons] at distinct
    by_cases same : member.1 = name
    -- No later member has the name as well.
    · have others : rest.filter (·.1 = name) = [] := by
        rw [List.filter_eq_nil_iff]
        intro other inside
        simp only [decide_eq_true_eq]
        exact fun again => distinct.1 (List.mem_map.2 ⟨other, inside, again.trans same.symm⟩)
      simp [same, others, Dict.lookup]
    -- The first member has another name, and the search goes on.
    · rw [List.filter_cons_of_neg (by simpa using same), ih distinct.2]
      simp [Dict.lookup, same]

/-- An object with members of distinct names gives each field what is listed under its name. -/
theorem fields?_object {members : List (String × Tree)} (distinct : (members.map (·.1)).Nodup)
    (names : List String) :
    (object (members.map fun member => (some member.1, member.2))).fields? names =
      some (names.map (Dict.lookup · members)) := by
  -- Every member has a name, and under distinct names each look-up finds one member or none.
  have all : named? (members.map fun member => (some member.1, member.2)) = some members := by
    rw [named?, mapM_eq_some_iff, List.forall₂_map_left_iff, List.forall₂_same]
    exact fun member _ => rfl
  have fields : names.mapM (single? · members) = some (names.map (Dict.lookup · members)) := by
    rw [mapM_eq_some_iff, List.forall₂_map_right_iff, List.forall₂_same]
    exact fun name _ => single?_of_nodup distinct name
  rw [fields?, all]
  exact fields

/-- The written form of a map gives each field the written form of what the map holds under its name. -/
theorem fields?_ofDict (dict : Dict Json) (names : List String) :
    (ofDict dict).toTree.fields? names = some (names.map fun name => (dict.get? name).map toTree) := by
  -- The members are the entries of the map of written forms.
  have fields := fields?_object (dict.mapWithKey fun _ value => value.toTree).keys_nodup names
  simp only [Dict.mapWithKey, List.map_map, Function.comp_def] at fields
  rw [ofDict, toTree, toMembers_eq_map, fields]
  simp only [Dict.get?, Dict.lookup_map fun _ value => toTree value]

/-- Members that have values have names, under which their items have these values. -/
theorem exists_named {room : Nat} {members : List (Option String × Tree)} {entries : List (String × Json)}
    (each : List.Forall₂ (fun member entry => member.1 = some entry.1 ∧ value? room member.2 = some entry.2)
      members entries) :
    ∃ named : List (String × Tree), members = named.map (fun member => (some member.1, member.2)) ∧
      List.Forall₂ (fun member entry => member.1 = entry.1 ∧ value? room member.2 = some entry.2)
        named entries := by
  -- All names are present, so the members are those of a list that has plain names.
  induction each with
  | nil => exact ⟨[], rfl, .nil⟩
  | @cons member entry members entries here later ih =>
    obtain ⟨named, rfl, related⟩ := ih
    exact ⟨(entry.1, member.2) :: named, by rw [List.map_cons, ← here.1], .cons ⟨rfl, here.2⟩ related⟩

/-- A form without repeated names gives the same fields as the written form of its value, each of them
settled. -/
theorem rel_fields? {tree : Tree} (unique : tree.NamesUnique) {room : Nat} {value : Json}
    (held : tree.value? room = some value) (names : List String) :
    Option.Rel (List.Forall₂ (Option.Rel Settles)) (tree.fields? names) (value.toTree.fields? names) := by
  cases hasValue_of_value? held with
  -- Only containers give fields.
  | null => exact .none
  | bool b => exact .none
  | number n => exact .none
  | string s => exact .none
  | @array room items values each =>
    have length := each.length_eq
    simp only [toTree, toTrees_eq_map, fields?, List.length_map, ← length]
    split
    -- The items come first, and the fields behind them are given by neither form.
    · refine .some (List.rel_append ?_ ?_)
      · rw [List.forall₂_map_left_iff, List.map_map, List.forall₂_map_right_iff]
        exact each.imp fun item value one => .some ⟨room, value, one, rfl⟩
      · rw [List.forall₂_same]
        intro field inside
        rw [List.eq_of_mem_replicate inside]
        exact .none
    · exact .none
  | @object room members entries each =>
    obtain ⟨named, rfl, related⟩ := exists_named each
    have distinct := (namesUnique_object_iff.1 unique).1
    have apart : (named.map (·.1)).Nodup := by
      simp only [List.Nodup, List.pairwise_map] at distinct ⊢
      exact distinct.imp fun other same => other (congrArg some same)
    have names_eq : named.map (·.1) = entries.map (·.1) := by
      rw [← List.forall₂_eq_eq_eq, List.forall₂_map_left_iff, List.forall₂_map_right_iff]
      exact related.imp fun member entry here => here.1
    rw [fields?_object apart, fields?_ofDict]
    refine .some ?_
    rw [List.forall₂_map_left_iff, List.forall₂_map_right_iff, List.forall₂_same]
    intro name _
    -- As no name is repeated, the last member under it is the only one.
    rw [Dict.get?_ofList, Dict.lookup_reverse (names_eq ▸ apart),
      ← Dict.lookup_map fun _ value => toTree value]
    refine Dict.rel_lookup Settles ?_ name
    rw [List.forall₂_map_right_iff]
    exact related.imp fun member entry here => ⟨here.1, room, entry.2, here.2, rfl⟩

/-- The one member under a name is one of the members. -/
theorem mem_of_single? {name : String} {members : List (String × Tree)} {item : Tree}
    (found : single? name members = some (some item)) : (name, item) ∈ members := by
  -- The one member that the filter leaves is in the list and has the name.
  unfold single? at found
  split at found
  · simp at found
  · rename_i member only
    have inside : member ∈ members.filter (·.1 = name) := by simp [only]
    rw [List.mem_filter, decide_eq_true_eq] at inside
    cases found
    exact inside.2 ▸ inside.1
  · simp at found

/-- A container is read with one level less. -/
@[simp]
theorem nested_succ {α : Type} (read : Nat → Tree → Option α) (room : Nat) (tree : Tree) :
    nested read (room + 1) tree = read room tree :=
  -- One level of the room is used up.
  rfl

/-- A field of a form without repeated names has none either. -/
theorem namesUnique_of_fields? {tree : Tree} (unique : tree.NamesUnique) {names : List String}
    {fields : List (Option Tree)} (found : tree.fields? names = some fields) {item : Tree}
    (inside : some item ∈ fields) : item.NamesUnique := by
  -- Records are written as arrays or as objects, and a field is an item of the one or a member of the other.
  cases unique with
  | null => simp [fields?] at found
  | bool b => simp [fields?] at found
  | number n => simp [fields?] at found
  | string s => simp [fields?] at found
  | @array items inner =>
    simp only [fields?] at found
    split at found
    · cases found
      rcases List.mem_append.1 inside with given | behind
      · rw [List.mem_map] at given
        obtain ⟨member, listed, same⟩ := given
        exact Option.some_inj.1 same ▸ inner member listed
      -- What is not given is no form.
      · exact absurd (List.eq_of_mem_replicate behind) (by simp)
    · simp at found
  | @object members distinct inner =>
    simp only [fields?, Option.bind_eq_bind, Option.bind_eq_some_iff] at found
    obtain ⟨named, all, found⟩ := found
    obtain ⟨name, _, one⟩ := exists_of_forall₂ (mapM_eq_some_iff.1 found) inside
    have listed := mem_of_single? one
    obtain ⟨member, given, same⟩ := exists_of_forall₂ (mapM_eq_some_iff.1 all) listed
    simp only [Option.map_eq_some_iff, Prod.mk.injEq] at same
    obtain ⟨_, _, _, rfl⟩ := same
    exact inner member given

/-- What a field holds under a name was read from a form without repeated names, with one level less. -/
theorem of_defaulted_dict? {α : Type} {read : Nat → Tree → Option α} {tree : Tree} (unique : tree.NamesUnique)
    {names : List String} {fields : List (Option Tree)} (found : tree.fields? names = some fields)
    {field : Option Tree} (inside : field ∈ fields) {room : Nat} {dict : Dict α}
    (stored : defaulted (nested (fun left => dict? (read left)) room) Dict.empty field = some dict)
    {name : String} {value : α} (held : dict.get? name = some value) :
    ∃ left item, room = left + 1 ∧ item.NamesUnique ∧ read left item = some value := by
  cases field with
  -- A field that is not given holds nothing.
  | none =>
    cases stored
    simp at held
  | some inner =>
    rw [defaulted] at stored
    cases room with
    | zero => simp [nested] at stored
    | succ left =>
      rw [nested_succ] at stored
      cases namesUnique_of_fields? unique found inside with
      | @object members _ single =>
        simp only [dict?, Option.bind_eq_bind, Option.bind_eq_some_iff, Option.pure_def,
          Option.some_inj] at stored
        obtain ⟨named, all, entries, each, rfl⟩ := stored
        -- The entry comes from a named member, and that from one of the object.
        obtain ⟨⟨key, item⟩, listed, one⟩ :=
          exists_of_forall₂ (mapM_eq_some_iff.1 each) (Dict.mem_of_get?_ofList held)
        obtain ⟨⟨written, form⟩, given, same⟩ := exists_of_forall₂ (mapM_eq_some_iff.1 all) listed
        simp only [Option.map_eq_some_iff, Prod.mk.injEq] at one same
        obtain ⟨_, one, _, rfl⟩ := one
        obtain ⟨_, _, _, rfl⟩ := same
        exact ⟨left, form, rfl, single _ given, one⟩
      | _ => simp [dict?] at stored

/-- A settled field is required to be the same string. -/
theorem required_of_rel {field settled : Option Tree} (settles : Option.Rel Settles field settled) :
    required string? settled = required string? field := by
  -- What a field settles to is read as the same string.
  cases settles with
  | none => rfl
  | some settles => exact settles.string?.1

/-- A settled field has the same string or null. -/
theorem defaulted_of_rel {field settled : Option Tree} (settles : Option.Rel Settles field settled) :
    defaulted (nullable string?) none settled = defaulted (nullable string?) none field := by
  -- The default is taken on both sides, or on neither.
  cases settles with
  | none => rfl
  | some settles => exact settles.string?.2

end Tree

/-- The JSON form of a map fits where there is room for it and for the form of each value in it. -/
theorem depth_mapWithKey_le_iff {α : Type} {dict : Dict α} {write : α → Json} {bound : Nat} :
    (ofDict (dict.mapWithKey fun _ value => write value)).depth ≤ bound + 1 ↔
      ∀ name value, dict.get? name = some value → (write value).depth ≤ bound := by
  -- The values of the written map are the written values.
  rw [depth_ofDict_le_iff]
  simp only [Dict.get?_mapWithKey, Option.map_eq_some_iff]
  constructor
  · exact fun each name value held => each name (write value) ⟨value, held, rfl⟩
  · rintro each name _ ⟨value, held, rfl⟩
    exact each name value held

/-- A map reads back from its written form when each value in it does in the room that is left. -/
theorem nested_dict?_toTree {α : Type} {read : Nat → Tree → Option α} {write : α → Json} {dict : Dict α}
    {room : Nat} (fits : (ofDict (dict.mapWithKey fun _ value => write value)).depth ≤ room)
    (reads : ∀ left name value, dict.get? name = some value → (write value).depth ≤ left →
      read left (write value).toTree = some value) :
    Tree.nested (fun left => Tree.dict? (read left)) room
      (ofDict (dict.mapWithKey fun _ value => write value)).toTree = some dict := by
  -- The map takes up one level, and each value is read with the room that is left.
  cases room with
  | zero => simp [ofDict, depth] at fits
  | succ left =>
    have named : Tree.named? (toMembers (dict.mapWithKey fun _ value => write value).entries) =
        some (dict.entries.map fun entry => (entry.1, (write entry.2).toTree)) := by
      rw [Tree.named?, mapM_eq_some_iff, toMembers_eq_map, Dict.mapWithKey, List.map_map,
        List.forall₂_map_left_iff, List.forall₂_map_right_iff, List.forall₂_same]
      exact fun entry _ => rfl
    -- Every value fits, so every one is read back.
    have entries : (dict.entries.map fun entry => (entry.1, (write entry.2).toTree)).mapM
        (fun item => (read left item.2).map (item.1, ·)) = some dict.entries := by
      rw [mapM_eq_some_iff, List.forall₂_map_left_iff, List.forall₂_same]
      intro entry inside
      have held := Dict.mem_entries_iff.1 inside
      have shallow := depth_mapWithKey_le_iff.1 fits entry.1 entry.2 held
      simp only [reads left entry.1 entry.2 held shallow, Option.map_some]
    rw [Tree.nested, ofDict, toTree, Tree.dict?, named]
    refine (congrArg (Option.bind · fun entries => some (Dict.ofList entries)) entries).trans ?_
    rw [Option.bind_some, Dict.ofList_entries]

end Json

end ShadeBake
