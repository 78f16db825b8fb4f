import ShadeBake.Dict.Lemmas
import ShadeBake.Json.Tree
import ShadeBake.Proofs.Success

/-! A value in order is the value of its own written form, and every value that was read is in order. -/

namespace ShadeBake

namespace Json

/-- No object of a written form has two members of one name. -/
inductive Tree.NamesUnique : Tree → Prop
  | null : NamesUnique .null
  | bool (b : Bool) : NamesUnique (.bool b)
  | number (n : Option Number) : NamesUnique (.number n)
  | string (s : Option String) : NamesUnique (.string s)
  | array {items : List Tree} (inner : ∀ item ∈ items, NamesUnique item) : NamesUnique (.array items)
  | object {members : List (Option String × Tree)} (distinct : (members.map (·.1)).Nodup)
      (inner : ∀ member ∈ members, NamesUnique member.2) : NamesUnique (.object members)

/-- The members of each object of a value are the entries of a map, in the order of their names. -/
inductive InOrder : Json → Prop
  | null : InOrder .null
  | bool (b : Bool) : InOrder (.bool b)
  | number (n : Number) : InOrder (.number n)
  | string (s : String) : InOrder (.string s)
  | array {items : List Json} (inner : ∀ item ∈ items, InOrder item) : InOrder (.array items)
  | object {dict : Dict Json} (inner : ∀ name value, dict.get? name = some value → InOrder value) :
      InOrder (.ofDict dict)

namespace Tree

attribute [simp] NamesUnique.null NamesUnique.bool NamesUnique.number NamesUnique.string

/-- An array has no repeated names exactly if no item has. -/
@[simp]
theorem namesUnique_array_iff {items : List Tree} :
    (array items).NamesUnique ↔ ∀ item ∈ items, item.NamesUnique := by
  -- There is one rule for an array.
  constructor
  · intro unique
    cases unique with
    | array inner => exact inner
  · exact .array

/-- An object has no repeated names exactly if its own are distinct and no item has any. -/
@[simp]
theorem namesUnique_object_iff {members : List (Option String × Tree)} :
    (object members).NamesUnique ↔
      (members.map (·.1)).Nodup ∧ ∀ member ∈ members, member.2.NamesUnique := by
  -- There is one rule for an object.
  constructor
  · intro unique
    cases unique with
    | object distinct inner => exact ⟨distinct, inner⟩
  · rintro ⟨distinct, inner⟩
    exact .object distinct inner

/-- The items of an array have values exactly if each item has one. -/
theorem values?_eq_some_iff {room : Nat} {items : List Tree} {values : List Json} :
    values? room items = some values ↔
      List.Forall₂ (fun item value => value? room item = some value) items values := by
  rw [← mapM_eq_some_iff]
  -- Both go through the items in order.
  have same : values? room items = items.mapM (value? room) := by
    clear values
    induction items with
    | nil => rfl
    | cons item rest ih => rw [values?, List.mapM_cons, ih]
  rw [same]

/-- The members of an object have values exactly if each name and each item has one. -/
theorem members?_eq_some_iff {room : Nat} {members : List (Option String × Tree)}
    {entries : List (String × Json)} :
    members? room members = some entries ↔
      List.Forall₂ (fun member entry => member.1 = some entry.1 ∧ value? room member.2 = some entry.2)
        members entries := by
  -- A member is read as its name and then its value, before the rest.
  induction members generalizing entries with
  | nil => simp [members?, eq_comm]
  | cons member rest ih =>
    obtain ⟨key, item⟩ := member
    rw [List.forall₂_cons_left_iff]
    simp only [members?, Option.bind_eq_bind, Option.bind_eq_some_iff, Option.pure_def, Option.some_inj, ih]
    constructor
    · rintro ⟨name, named, value, held, others, all, rfl⟩
      exact ⟨(name, value), others, ⟨named, held⟩, all, rfl⟩
    · rintro ⟨⟨name, value⟩, others, ⟨named, held⟩, all, rfl⟩
      exact ⟨name, named, value, held, others, all, rfl⟩

/-- What a written form must be to have a value with some room, and what the value is then: a scalar is its
own, and a container has those of what it holds with less room. -/
inductive HasValue : Nat → Tree → Json → Prop
  | null {room : Nat} : HasValue room .null .null
  | bool {room : Nat} (b : Bool) : HasValue room (.bool b) (.bool b)
  | number {room : Nat} (n : Number) : HasValue room (.number (some n)) (.number n)
  | string {room : Nat} (s : String) : HasValue room (.string (some s)) (.string s)
  | array {room : Nat} {items : List Tree} {values : List Json}
      (each : List.Forall₂ (fun item value => value? room item = some value) items values) :
      HasValue (room + 1) (.array items) (.array values)
  | object {room : Nat} {members : List (Option String × Tree)} {entries : List (String × Json)}
      (each : List.Forall₂ (fun member entry => member.1 = some entry.1 ∧ value? room member.2 = some entry.2)
        members entries) :
      HasValue (room + 1) (.object members) (ofDict (Dict.ofList entries))

/-- A written form that has a value is one that can have it. -/
theorem hasValue_of_value? {room : Nat} {tree : Tree} {value : Json} (held : tree.value? room = some value) :
    HasValue room tree value := by
  -- The cases are those of the reader, and a container needs room for one more level.
  cases tree with
  | null =>
    cases held
    exact .null
  | bool b =>
    cases held
    exact .bool b
  | number n =>
    -- A number that is no value of the format is not read.
    simp only [value?, Option.map_eq_some_iff] at held
    obtain ⟨number, rfl, rfl⟩ := held
    exact .number number
  | string s =>
    simp only [value?, Option.map_eq_some_iff] at held
    obtain ⟨text, rfl, rfl⟩ := held
    exact .string text
  | array items =>
    cases room with
    | zero => simp [value?] at held
    | succ room =>
      simp only [value?, Option.map_eq_some_iff] at held
      obtain ⟨values, read, rfl⟩ := held
      exact .array (values?_eq_some_iff.1 read)
  | object members =>
    cases room with
    | zero => simp [value?] at held
    | succ room =>
      simp only [value?, Option.map_eq_some_iff] at held
      obtain ⟨entries, read, rfl⟩ := held
      exact .object (members?_eq_some_iff.1 read)

end Tree

/-- The items of a written array are the written forms of the items. -/
theorem toTrees_eq_map (items : List Json) : toTrees items = items.map toTree := by
  -- Both sides go through the list item by item.
  induction items with
  | nil => rfl
  | cons item rest ih => rw [toTrees, ih, List.map_cons]

/-- The members of a written object are the names with the written forms of the items. -/
theorem toMembers_eq_map (members : List (String × Json)) :
    toMembers members = members.map fun member => (some member.1, toTree member.2) := by
  -- Both sides go through the members one by one.
  induction members with
  | nil => rfl
  | cons member rest ih => rw [toMembers, ih, List.map_cons]

/-- The items of an array are nested at most as deep as a bound exactly if each one is. -/
theorem depthOfItems_le_iff {items : List Json} {bound : Nat} :
    depthOfItems items ≤ bound ↔ ∀ item ∈ items, item.depth ≤ bound := by
  -- The depth of a list is the maximum over its items.
  induction items with
  | nil => simp [depthOfItems]
  | cons item rest ih => rw [depthOfItems, Nat.max_le, ih, List.forall_mem_cons]

/-- The members of an object are nested at most as deep as a bound exactly if each one is. -/
theorem depthOfMembers_le_iff {members : List (String × Json)} {bound : Nat} :
    depthOfMembers members ≤ bound ↔ ∀ member ∈ members, member.2.depth ≤ bound := by
  -- The depth of a record is the maximum over its members.
  induction members with
  | nil => simp [depthOfMembers]
  | cons member rest ih => rw [depthOfMembers, Nat.max_le, ih, List.forall_mem_cons]

/-- An object of the entries of a map fits where there is room for it and for each value in it. -/
theorem depth_ofDict_le_iff {dict : Dict Json} {bound : Nat} :
    (ofDict dict).depth ≤ bound + 1 ↔
      ∀ name value, dict.get? name = some value → value.depth ≤ bound := by
  -- A dictionary takes one level more than its deepest entry.
  rw [ofDict, depth, Nat.add_le_add_iff_right, depthOfMembers_le_iff]
  simp only [Prod.forall, Dict.mem_entries_iff]

/-- A value in order is the value of its written form, where there is room for it. -/
theorem value?_toTree {json : Json} (ordered : json.InOrder) {room : Nat} (fits : json.depth ≤ room) :
    json.toTree.value? room = some json := by
  induction ordered generalizing room with
  | null => simp only [toTree, Tree.value?]
  | bool b => simp only [toTree, Tree.value?]
  | number n => simp only [toTree, Tree.value?, Option.map_some]
  | string s => simp only [toTree, Tree.value?, Option.map_some]
  -- A container takes up one level, and the room that is left is enough for what it holds.
  | @array items inner ih =>
    cases room with
    | zero => simp [depth] at fits
    | succ room =>
      rw [depth, Nat.add_le_add_iff_right, depthOfItems_le_iff] at fits
      have read : Tree.values? room (toTrees items) = some items := by
        rw [toTrees_eq_map, Tree.values?_eq_some_iff, List.forall₂_map_left_iff, List.forall₂_same]
        intro item inside
        exact ih item inside (fits item inside)
      rw [toTree, Tree.value?, read, Option.map_some]
  | @object dict inner ih =>
    cases room with
    | zero => simp [ofDict, depth] at fits
    | succ room =>
      rw [depth_ofDict_le_iff] at fits
      have read : Tree.members? room (toMembers dict.entries) = some dict.entries := by
        rw [toMembers_eq_map, Tree.members?_eq_some_iff, List.forall₂_map_left_iff, List.forall₂_same]
        intro entry inside
        -- An entry of a dictionary is what its name looks up.
        have held := Dict.mem_entries_iff.1 inside
        exact ⟨rfl, ih entry.1 entry.2 held (fits entry.1 entry.2 held)⟩
      rw [ofDict, toTree, Tree.value?, read, Option.map_some, Dict.ofList_entries, ofDict]

/-- The value of a written form is in order and fits in the room that there was for it. -/
theorem of_value? {tree : Tree} {room : Nat} {json : Json} (held : tree.value? room = some json) :
    json.InOrder ∧ json.depth ≤ room := by
  -- What a container holds was read with less room.
  induction room using Nat.strongRecOn generalizing tree json with
  | ind room ih =>
    cases Tree.hasValue_of_value? held with
    | null => exact ⟨.null, Nat.zero_le _⟩
    | bool b => exact ⟨.bool b, Nat.zero_le _⟩
    | number n => exact ⟨.number n, Nat.zero_le _⟩
    | string s => exact ⟨.string s, Nat.zero_le _⟩
    | @array room items values each =>
      have inner : ∀ value ∈ values, value.InOrder ∧ value.depth ≤ room := by
        intro value inside
        obtain ⟨item, _, one⟩ := exists_of_forall₂ each inside
        exact ih room (Nat.lt_succ_self room) one
      refine ⟨.array fun value inside => (inner value inside).1, ?_⟩
      rw [depth, Nat.add_le_add_iff_right, depthOfItems_le_iff]
      exact fun value inside => (inner value inside).2
    | @object room members entries each =>
      -- The map holds nothing but what was listed.
      have inner : ∀ name value, (Dict.ofList entries).get? name = some value →
          value.InOrder ∧ value.depth ≤ room := by
        intro name value listed
        obtain ⟨member, _, _, one⟩ := exists_of_forall₂ each (Dict.mem_of_get?_ofList listed)
        exact ih room (Nat.lt_succ_self room) one
      refine ⟨.object fun name value listed => (inner name value listed).1, ?_⟩
      rw [depth_ofDict_le_iff]
      exact fun name value listed => (inner name value listed).2

end Json

end ShadeBake
