import ShadeBake.Dict

/-! What every operation on maps does to what a map holds: a map is known by the values under its names. -/

namespace ShadeBake

namespace Dict

variable {α β : Type}

/-- Placing an entry changes what is listed under its name, and nothing else. -/
theorem lookup_place (name other : String) (value : α) (list : List (String × α)) :
    lookup other (place name value list) = if name = other then some value else lookup other list := by
  induction list with
  | nil => simp [place, lookup]
  | cons head rest ih =>
    simp only [place]
    split
    -- The entry was put in front of a larger name.
    · simp [lookup]
    · split
      -- The entry took the place of one with its own name, so no other name was touched.
      · rename_i same
        by_cases here : name = other
        · simp [lookup, here]
        · have apart : head.1 ≠ other := fun equal => here (same.trans equal)
          simp [lookup, here, apart]
      -- The entry belongs further back, behind a name that is not its own.
      · rename_i apart
        simp only [lookup, ih]
        by_cases here : name = other
        · have behind : head.1 ≠ other := fun equal => apart (here.trans equal.symm)
          simp [here, behind]
        · simp [here]

/-- A filter on names keeps what is listed under a name that it accepts, and drops the others. -/
theorem lookup_filter (accept : String → Bool) (name : String) (list : List (String × α)) :
    lookup name (list.filter fun entry => accept entry.1)
      = if accept name then lookup name list else none := by
  induction list with
  | nil => simp [lookup]
  | cons head rest ih =>
    by_cases same : head.1 = name
    -- The entry with the name decides, and it is kept exactly if its name is accepted.
    · subst same
      by_cases accepted : accept head.1 = true
      · simp [accepted, lookup]
      · rw [List.filter_cons_of_neg (by simpa using accepted), ih]
        simp [accepted]
    -- Any other entry is passed over, kept or not.
    · by_cases kept : accept head.1 = true
      · simp [kept, lookup, same, ih]
      · rw [List.filter_cons_of_neg (by simpa using kept), ih]
        simp [lookup, same]

/-- Changing values by their names changes what is listed under each. -/
theorem lookup_map (change : String → α → β) (name : String) (list : List (String × α)) :
    lookup name (list.map fun entry => (entry.1, change entry.1 entry.2))
      = (lookup name list).map (change name) := by
  induction list with
  | nil => rfl
  | cons head rest ih =>
    -- Names do not change, so the same entry is found.
    by_cases same : head.1 = name
    · simp [lookup, same]
    · simp [lookup, same, ih]

/-- What is listed under a name in the first of two lists counts before the second one. -/
theorem lookup_append (name : String) (front back : List (String × α)) :
    lookup name (front ++ back) = (lookup name front).or (lookup name back) := by
  -- The first entry with the name decides, and that is in the front if there is one.
  induction front with
  | nil => rfl
  | cons head rest ih =>
    by_cases same : head.1 = name
    · simp [lookup, same]
    · simp [lookup, same, ih]

/-- A name is listed exactly if something is listed under it. -/
theorem isSome_lookup_iff {name : String} {list : List (String × α)} :
    (lookup name list).isSome = true ↔ name ∈ list.map (·.1) := by
  -- The head either has the name or is passed over.
  induction list with
  | nil => simp [lookup]
  | cons head rest ih =>
    by_cases same : head.1 = name
    · simp [lookup, same]
    · simp [lookup, same, ih, Ne.symm same]

/-- What is listed under a name is an entry of the list. -/
theorem mem_of_lookup {name : String} {value : α} {list : List (String × α)}
    (found : lookup name list = some value) : (name, value) ∈ list := by
  induction list with
  | nil => simp [lookup] at found
  | cons head rest ih =>
    simp only [lookup] at found
    split at found
    -- Either the first entry has the name, or one of the others is found.
    · rename_i same
      cases found
      simp [← same]
    · exact List.mem_cons_of_mem _ (ih found)

/-- In a list of distinct names every entry is the one listed under its name. -/
theorem lookup_of_nodup {name : String} {value : α} {list : List (String × α)}
    (distinct : (list.map (·.1)).Nodup) (member : (name, value) ∈ list) : lookup name list = some value := by
  induction list with
  | nil => simp at member
  | cons head rest ih =>
    rw [List.map_cons, List.nodup_cons] at distinct
    rcases List.mem_cons.1 member with same | later
    · simp [lookup, ← same]
    -- A later entry has another name than the first.
    · have apart : head.1 ≠ name := fun equal => distinct.1 (equal ▸ List.mem_map_of_mem later)
      simp [lookup, apart, ih distinct.2 later]

/-- In a list in strict name order every entry is the one listed under its name. -/
theorem lookup_of_mem {name : String} {value : α} {list : List (String × α)}
    (sorted : list.Pairwise (fun a b => a.1 < b.1)) (member : (name, value) ∈ list) :
    lookup name list = some value := by
  -- Names that ascend are distinct, so no earlier entry shadows this one.
  refine lookup_of_nodup (List.pairwise_map.2 (sorted.imp fun before same => ?_)) member
  rw [same] at before
  exact String.lt_irrefl _ before

/-- In a list of distinct names the order does not matter to what is listed under one. -/
theorem lookup_reverse {list : List (String × α)} (distinct : (list.map (·.1)).Nodup) (name : String) :
    lookup name list.reverse = lookup name list := by
  -- Where names are distinct, turning the list around moves no entry in front of another of its name.
  cases found : lookup name list with
  | none =>
    apply lookup_eq_none
    intro listed
    rw [List.map_reverse, List.mem_reverse, ← isSome_lookup_iff, found] at listed
    simp at listed
  | some value =>
    refine lookup_of_nodup ?_ (List.mem_reverse.2 (mem_of_lookup found))
    rw [List.map_reverse]
    exact List.pairwise_reverse.2 (distinct.imp Ne.symm)

/-- The empty map holds nothing. -/
@[simp]
theorem get?_empty (name : String) : (empty : Dict α).get? name = none :=
  rfl

/-- An inserted value is held under its name, and all else stays. -/
theorem get?_insert (dict : Dict α) (name other : String) (value : α) :
    (dict.insert name value).get? other = if name = other then some value else dict.get? other :=
  -- The look-up comes to the placed entry before any other of its name.
  lookup_place name other value dict.entries

/-- Entries that are inserted one after the other hide those listed before them under their names. -/
theorem get?_foldl_insert (entries : List (String × α)) (dict : Dict α) (name : String) :
    (entries.foldl (fun dict entry => dict.insert entry.1 entry.2) dict).get? name =
      (lookup name entries.reverse).or (dict.get? name) := by
  -- The entry inserted last stands, which the reversed list has first.
  induction entries generalizing dict with
  | nil => rfl
  | cons head rest ih =>
    rw [List.foldl_cons, ih, get?_insert, List.reverse_cons, lookup_append, Option.or_assoc]
    by_cases same : head.1 = name
    · simp [lookup, same]
    · simp [lookup, same]

/-- The map of a list holds what is listed last under each name. -/
theorem get?_ofList (entries : List (String × α)) (name : String) :
    (ofList entries).get? name = lookup name entries.reverse := by
  -- Later entries replace earlier ones, so the look-up finds the last.
  rw [ofList, get?_foldl_insert, get?_empty, Option.or_none]

/-- Where the first of several entries counts, a map that gains entries keeps what it holds. -/
theorem get?_foldl_insertFirst (entries : List (String × α)) (dict : Dict α) (name : String) :
    (entries.foldl (fun dict entry => if dict.contains entry.1 then dict else dict.insert entry.1 entry.2) dict).get?
        name = (dict.get? name).or (lookup name entries) := by
  induction entries generalizing dict with
  | nil => simp [lookup]
  | cons entry rest ih =>
    rw [List.foldl_cons, ih, lookup]
    by_cases same : entry.1 = name
    · rw [if_pos same, same]
      split
      -- What the map holds under the name is kept, and otherwise the entry is the first.
      · rename_i held
        obtain ⟨value, there⟩ := Option.isSome_iff_exists.1 held
        rw [there, Option.some_or, Option.some_or]
      · rename_i free
        have nothing : dict.get? name = none := by simpa [contains] using free
        rw [get?_insert, if_pos rfl, nothing, Option.some_or, Option.none_or]
    -- An entry of another name is not seen, whether it is inserted or not.
    · rw [if_neg same]
      split
      · rfl
      · rw [get?_insert, if_neg same]

/-- The map of a list of entries of which the first counts holds what the list lists first. -/
theorem get?_ofListFirst (entries : List (String × α)) (name : String) :
    (ofListFirst entries).get? name = lookup name entries := by
  -- Later entries of a known name are dropped, so the look-up finds the first.
  rw [ofListFirst, get?_foldl_insertFirst, get?_empty, Option.none_or]

/-- What the map of a list holds is an entry of the list. -/
theorem mem_of_get?_ofList {entries : List (String × α)} {name : String} {value : α}
    (held : (ofList entries).get? name = some value) : (name, value) ∈ entries := by
  -- What is held was found in the reversed list.
  rw [get?_ofList] at held
  exact List.mem_reverse.1 (mem_of_lookup held)

/-- The map of a list of distinct names holds all entries of the list. -/
theorem get?_ofList_of_mem {entries : List (String × α)} (distinct : (entries.map (·.1)).Nodup)
    {name : String} {value : α} (member : (name, value) ∈ entries) :
    (ofList entries).get? name = some value := by
  -- With distinct names the order of insertion does not show.
  rw [get?_ofList, lookup_reverse distinct]
  exact lookup_of_nodup distinct member

/-- Nothing is held under an erased name, and all else stays. -/
theorem get?_erase (dict : Dict α) (name other : String) :
    (dict.erase name).get? other = if other = name then none else dict.get? other := by
  -- Erasing is a filter on names, which removes all or nothing of one name.
  have kept := lookup_filter (fun key => decide (key ≠ name)) other dict.entries
  by_cases same : other = name
  · simpa [get?, erase, same] using kept
  · simpa [get?, erase, same] using kept

/-- A changed value is held changed under its name, and all else stays. -/
theorem get?_modify (dict : Dict α) (name other : String) (change : α → α) :
    (dict.modify name change).get? other
      = if name = other then (dict.get? other).map change else dict.get? other := by
  unfold modify
  cases held : dict.get? name with
  | some value =>
    by_cases same : name = other
    · subst same
      simp [get?_insert, held]
    · simp [get?_insert, same]
  -- There was nothing to change, neither under the name nor elsewhere.
  | none =>
    by_cases same : name = other
    · subst same
      simp [held]
    · simp [same]

/-- A map changed value by value holds the changed values. -/
@[simp]
theorem get?_mapWithKey (dict : Dict α) (change : String → α → β) (name : String) :
    (dict.mapWithKey change).get? name = (dict.get? name).map (change name) :=
  -- The change leaves the names, by which the look-up goes.
  lookup_map change name dict.entries

/-- The names of a map are those that it holds a value under. -/
theorem mem_keys_iff {dict : Dict α} {name : String} :
    name ∈ dict.keys ↔ (dict.get? name).isSome = true :=
  -- The keys are the names for which the look-up finds a value.
  isSome_lookup_iff.symm

/-- A map contains its names and no others. -/
theorem contains_iff {dict : Dict α} {name : String} : dict.contains name = true ↔ name ∈ dict.keys :=
  mem_keys_iff.symm

/-- The entries of a map are the names with the values held under them. -/
theorem mem_entries_iff {dict : Dict α} {name : String} {value : α} :
    (name, value) ∈ dict.entries ↔ dict.get? name = some value :=
  -- Names are distinct in a sorted list, so an entry is the one that its name finds.
  ⟨lookup_of_mem dict.sorted, mem_of_lookup⟩

/-- The names of a map stand in strict order. -/
theorem keys_sorted (dict : Dict α) : dict.keys.Pairwise (· < ·) := by
  -- The order of names is a field of the dictionary.
  unfold keys
  rw [List.pairwise_map]
  exact dict.sorted

/-- Names in strict order are distinct. -/
theorem nodup_of_sorted {names : List String} (sorted : names.Pairwise (· < ·)) : names.Nodup :=
  -- No name is below itself.
  sorted.imp fun below equal => by
    rw [equal] at below
    exact String.lt_irrefl _ below

/-- No name of a map is listed twice. -/
theorem keys_nodup (dict : Dict α) : dict.keys.Nodup :=
  -- The keys are in strictly rising order.
  nodup_of_sorted dict.keys_sorted

/-- Two lists in strict name order that list the same under every name are equal. -/
theorem eq_of_lookup_eq {a b : List (String × α)} (sortedA : a.Pairwise (fun x y => x.1 < y.1))
    (sortedB : b.Pairwise (fun x y => x.1 < y.1))
    (same : ∀ name, lookup name a = lookup name b) : a = b := by
  induction a generalizing b with
  | nil =>
    cases b with
    | nil => rfl
    | cons head rest => simpa [lookup] using same head.1
  | cons first others ih =>
    cases b with
    | nil => simpa [lookup] using same first.1
    | cons head rest =>
      -- Each first entry is listed in the other list, so neither name is below the other.
      have inB : first ∈ head :: rest := mem_of_lookup (by rw [← same first.1]; simp [lookup])
      have inA : head ∈ first :: others := mem_of_lookup (by rw [same head.1]; simp [lookup])
      rw [List.pairwise_cons] at sortedA sortedB
      have equal : first = head := by
        rcases List.mem_cons.1 inB with here | later
        · exact here
        · rcases List.mem_cons.1 inA with there | behind
          · exact there.symm
          · exact absurd (String.lt_trans (sortedA.1 _ behind) (sortedB.1 _ later))
              (String.lt_irrefl _)
      subst equal
      -- Behind them both lists hold larger names only, and list the same under those.
      congr 1
      refine ih sortedA.2 sortedB.2 fun name => ?_
      by_cases here : first.1 = name
      · have absentA : name ∉ others.map (·.1) := by
          intro member
          obtain ⟨entry, inside, named⟩ := List.mem_map.1 member
          have before := sortedA.1 entry inside
          rw [named, here] at before
          exact String.lt_irrefl name before
        have absentB : name ∉ rest.map (·.1) := by
          intro member
          obtain ⟨entry, inside, named⟩ := List.mem_map.1 member
          have before := sortedB.1 entry inside
          rw [named, here] at before
          exact String.lt_irrefl name before
        rw [lookup_eq_none absentA, lookup_eq_none absentB]
      · simpa [lookup, here] using same name

/-- Maps that hold the same under every name are equal. -/
theorem ext_get? {a b : Dict α} (same : ∀ name, a.get? name = b.get? name) : a = b :=
  -- Two sorted lists with the same look-ups are the same list.
  ext (eq_of_lookup_eq a.sorted b.sorted same)

/-- The map of the entries of a map is that map. -/
@[simp]
theorem ofList_entries (dict : Dict α) : ofList dict.entries = dict := by
  -- Two dictionaries with the same look-ups are equal, and entries have distinct names.
  apply ext_get?
  intro name
  rw [get?_ofList, lookup_reverse dict.keys_nodup]
  rfl

end Dict

namespace NameSet

/-- A set with one more name contains that name and what it contained before. -/
theorem mem_keys_add {names : NameSet} {name other : String} :
    other ∈ (names.add name).keys ↔ other = name ∨ other ∈ Dict.keys names := by
  -- Membership is a look-up, and an insertion is seen by the inserted name only.
  rw [Dict.mem_keys_iff, Dict.mem_keys_iff, add, Dict.get?_insert]
  by_cases same : name = other
  · simp [same]
  · simp [same, Ne.symm same]

/-- A set grown by a list contains the list and what it contained before. -/
theorem mem_keys_foldl_add {names : NameSet} {list : List String} {name : String} :
    name ∈ Dict.keys (list.foldl add names) ↔ name ∈ list ∨ name ∈ Dict.keys names := by
  induction list generalizing names with
  | nil => simp
  | cons head rest ih =>
    -- The head is added first, and the rest to what that leaves.
    rw [List.foldl_cons, ih, mem_keys_add, List.mem_cons]
    constructor
    · rintro (later | same | old)
      · exact .inl (.inr later)
      · exact .inl (.inl same)
      · exact .inr old
    · rintro ((same | later) | old)
      · exact .inr (.inl same)
      · exact .inl later
      · exact .inr (.inr old)

/-- The set of a list contains exactly the names in it. -/
theorem mem_keys_ofList {list : List String} {name : String} :
    name ∈ Dict.keys (ofList list) ↔ name ∈ list := by
  -- The names are added one by one, to a set that is empty at first.
  unfold ofList
  rw [mem_keys_foldl_add]
  simp [Dict.keys, Dict.empty]

end NameSet

end ShadeBake
