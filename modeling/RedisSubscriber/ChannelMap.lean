import RedisSubscriber.Reply
import Mathlib.Data.List.Sort
import Mathlib.Data.Finset.Basic

/-
  The subscriber's two subscription tables,
  `std::map<std::string, callback_holder>`, as association
  lists kept in increasing key order. The order is that of
  `std::less<std::string>` (lexicographic on characters);
  the structure carries it, so keys are unique by
  construction and iteration visits them in the map's order.

  Key definitions include:
    * `CallbackHolder`
    * `ChannelMap`
    * `ChannelMap.insert`, `ChannelMap.erase`, `ChannelMap.find?`
    * `ChannelMap.keySet`

  Main declarations:
    * `ChannelMap.keySet_insert`, `ChannelMap.keySet_erase`
    * `ChannelMap.find?_isSome`
    * `ChannelMap.foldl_insert_entries`
    * `ChannelMap.find?_insert`, `ChannelMap.find?_erase`
-/

------------------------------------------------------------
-- Ordered Entries
------------------------------------------------------------

namespace RedisSubscriber

/- The callbacks kept for one channel or pattern (`callback_holder`). -/
structure CallbackHolder where
  subscribeCallback : Callback
  acknowledgementCallback : Option Callback
  deriving DecidableEq, Repr

/- Key order is decided on the characters of the keys. -/
theorem data_lt_iff (a b : String) : a.data < b.data ↔ a < b :=
  String.lt_iff_toList_lt.symm

/-
  `map[key] = holder` on an ordered entry list: overwrite an
  equal key, otherwise insert before the first larger one.
-/
def insertEntry
    (key : String)
    (holder : CallbackHolder) :
    List (String × CallbackHolder) → List (String × CallbackHolder)
  | [] => [(key, holder)]
  | entry :: rest =>
      if key.data < entry.1.data then (key, holder) :: entry :: rest
      else if key = entry.1 then (key, holder) :: rest
      else entry :: insertEntry key holder rest

theorem mem_keys_insertEntry
    (key k : String)
    (holder : CallbackHolder)
    (entries : List (String × CallbackHolder)) :
    k ∈ (insertEntry key holder entries).map Prod.fst ↔
      k = key ∨ k ∈ entries.map Prod.fst := by
  induction entries with
  | nil => simp [insertEntry]
  | cons entry rest ih =>
      simp only [insertEntry]
      split_ifs with hLt hEq
      · simp
      · subst hEq
        simp
      · simp only [List.map_cons, List.mem_cons, ih]
        tauto

theorem sorted_insertEntry
    (key : String)
    (holder : CallbackHolder)
    {entries : List (String × CallbackHolder)}
    (hSorted : (entries.map Prod.fst).Sorted (· < ·)) :
    ((insertEntry key holder entries).map Prod.fst).Sorted (· < ·) := by
  induction entries with
  | nil => simp [insertEntry]
  | cons entry rest ih =>
      rw [List.map_cons, List.sorted_cons] at hSorted
      simp only [insertEntry]
      split_ifs with hLt hEq
      · rw [data_lt_iff] at hLt
        simp only [List.map_cons, List.sorted_cons, List.mem_cons]
        refine ⟨?_, hSorted.1, hSorted.2⟩
        rintro b (rfl | hb)
        · exact hLt
        · exact hLt.trans (hSorted.1 b hb)
      · subst hEq
        simpa using hSorted
      · rw [data_lt_iff] at hLt
        have hGt : entry.1 < key :=
          lt_of_le_of_ne (not_lt.mp hLt) (Ne.symm hEq)
        rw [List.map_cons, List.sorted_cons]
        refine ⟨fun b hb => ?_, ih hSorted.2⟩
        rcases (mem_keys_insertEntry key b holder rest).mp hb with rfl | hb
        · exact hGt
        · exact hSorted.1 b hb

/- Inserting a key above every present key appends it. -/
theorem insertEntry_of_lt
    (key : String)
    (holder : CallbackHolder)
    (entries : List (String × CallbackHolder))
    (hAbove : ∀ k ∈ entries.map Prod.fst, k < key) :
    insertEntry key holder entries = entries ++ [(key, holder)] := by
  induction entries with
  | nil => rfl
  | cons entry rest ih =>
      have hEntry : entry.1 < key := hAbove entry.1 (by simp)
      have hNotLt : ¬ key.data < entry.1.data := by
        rw [data_lt_iff]
        exact not_lt.mpr hEntry.le
      simp only [insertEntry, hNotLt, if_false, hEntry.ne', List.cons_append]
      rw [ih fun k hk => hAbove k (by simp [hk])]

------------------------------------------------------------
-- Channel Maps
------------------------------------------------------------

/- `std::map<std::string, callback_holder>`: entries in key order. -/
structure ChannelMap where
  entries : List (String × CallbackHolder)
  sorted : (entries.map Prod.fst).Sorted (· < ·)

namespace ChannelMap

/- The empty map (also the state a map is moved from). -/
def empty : ChannelMap :=
  ⟨[], List.sorted_nil⟩

/- The keys in iteration order. -/
def keys (m : ChannelMap) : List String :=
  m.entries.map Prod.fst

/- The keys as a set. -/
def keySet (m : ChannelMap) : Finset String :=
  m.keys.toFinset

/- `map.find(key)`: the holder, or `none` for `end()`. -/
def find? (m : ChannelMap) (key : String) : Option CallbackHolder :=
  m.entries.lookup key

/- `map[key] = holder`. -/
def insert
    (m : ChannelMap)
    (key : String)
    (holder : CallbackHolder) : ChannelMap :=
  ⟨insertEntry key holder m.entries, sorted_insertEntry key holder m.sorted⟩

/- `map.erase(key)`. -/
def erase (m : ChannelMap) (key : String) : ChannelMap :=
  ⟨m.entries.filter (fun entry => entry.1 != key),
    m.sorted.sublist ((List.filter_sublist _).map _)⟩

theorem ext_entries {m m' : ChannelMap} (h : m.entries = m'.entries) : m = m' := by
  cases m
  cases m'
  cases h
  rfl

theorem keys_nodup (m : ChannelMap) : m.keys.Nodup :=
  m.sorted.nodup

@[simp] theorem keySet_empty : empty.keySet = ∅ := rfl

@[simp] theorem mem_keySet (m : ChannelMap) (k : String) :
    k ∈ m.keySet ↔ k ∈ m.keys :=
  List.mem_toFinset

@[simp] theorem keySet_insert
    (m : ChannelMap)
    (key : String)
    (holder : CallbackHolder) :
    (m.insert key holder).keySet = Insert.insert key m.keySet := by
  ext k
  simp only [mem_keySet, keys, insert, mem_keys_insertEntry, Finset.mem_insert]

@[simp] theorem keySet_erase (m : ChannelMap) (key : String) :
    (m.erase key).keySet = m.keySet.erase key := by
  ext k
  simp only [mem_keySet, keys, erase, Finset.mem_erase, List.mem_map, List.mem_filter,
    bne_iff_ne, ne_eq]
  constructor
  · rintro ⟨entry, ⟨hMem, hNe⟩, rfl⟩
    exact ⟨hNe, entry, hMem, rfl⟩
  · rintro ⟨hNe, entry, hMem, rfl⟩
    exact ⟨entry, ⟨hMem, hNe⟩, rfl⟩

/- A lookup hits exactly on the present keys. -/
theorem find?_isSome (m : ChannelMap) (key : String) :
    (m.find? key).isSome ↔ key ∈ m.keys := by
  rw [find?, List.lookup_isSome_iff, keys, List.mem_map]
  constructor
  · rintro ⟨entry, hMem, hKey⟩
    exact ⟨entry, hMem, (beq_iff_eq.mp hKey).symm⟩
  · rintro ⟨entry, hMem, rfl⟩
    exact ⟨entry, hMem, beq_self_eq_true _⟩

/-
  Re-inserting a map's entries in iteration order into an
  empty map rebuilds it; this is the loop of `re_subscribe`.
-/
theorem foldl_insert_entries (m : ChannelMap) :
    m.entries.foldl (fun acc entry => acc.insert entry.1 entry.2) empty = m := by
  apply ext_entries
  suffices h : ∀ (acc : ChannelMap) (rest : List (String × CallbackHolder)),
      ((acc.entries ++ rest).map Prod.fst).Sorted (· < ·) →
      (rest.foldl (fun (acc : ChannelMap) entry => acc.insert entry.1 entry.2)
        acc).entries = acc.entries ++ rest from
    h empty m.entries m.sorted
  intro acc rest
  induction rest generalizing acc with
  | nil => simp
  | cons entry rest ih =>
      intro hSorted
      have hAbove : ∀ k ∈ acc.entries.map Prod.fst, k < entry.1 := by
        intro k hk
        rw [List.map_append, List.Sorted, List.pairwise_append] at hSorted
        exact hSorted.2.2 k hk entry.1 (by simp)
      have hStep : (acc.insert entry.1 entry.2).entries = acc.entries ++ [entry] :=
        insertEntry_of_lt entry.1 entry.2 acc.entries hAbove
      rw [List.foldl_cons, ih _ (by simpa [hStep] using hSorted), hStep]
      simp

------------------------------------------------------------
-- Lookups
------------------------------------------------------------

theorem lookup_cons_entry
    (k : String)
    (entry : String × CallbackHolder)
    (rest : List (String × CallbackHolder)) :
    (entry :: rest).lookup k = if k = entry.1 then some entry.2 else rest.lookup k := by
  obtain ⟨key, holder⟩ := entry
  rw [List.lookup_cons]
  by_cases h : k = key
  · simp [h]
  · simp [h, beq_eq_false_iff_ne.mpr h]

theorem lookup_insertEntry
    (key k : String)
    (holder : CallbackHolder)
    (entries : List (String × CallbackHolder)) :
    (insertEntry key holder entries).lookup k =
      if k = key then some holder else entries.lookup k := by
  induction entries with
  | nil => simp [insertEntry, lookup_cons_entry]
  | cons entry rest ih =>
      by_cases hLt : key.data < entry.1.data
      · simp only [insertEntry, if_pos hLt, lookup_cons_entry]
      · by_cases hEq : key = entry.1
        · subst hEq
          simp only [insertEntry, if_neg hLt, if_true, lookup_cons_entry]
          split_ifs <;> rfl
        · simp only [insertEntry, if_neg hLt, if_neg hEq, lookup_cons_entry, ih]
          by_cases hk : k = key
          · simp [hk, hEq]
          · simp only [if_neg hk]

theorem lookup_filter_ne
    (key k : String)
    (entries : List (String × CallbackHolder)) :
    (entries.filter fun entry => entry.1 != key).lookup k =
      if k = key then none else entries.lookup k := by
  induction entries with
  | nil => simp
  | cons entry rest ih =>
      rw [List.filter_cons, lookup_cons_entry]
      by_cases hEntry : entry.1 = key
      · rw [if_neg (by simp [hEntry]), ih, hEntry]
        by_cases hk : k = key <;> simp [hk]
      · rw [if_pos (by simpa using hEntry), lookup_cons_entry, ih]
        by_cases hk : k = key
        · simp [hk, Ne.symm hEntry]
        · simp only [if_neg hk]

@[simp] theorem find?_empty (k : String) : empty.find? k = none := rfl

/- `map[key] = holder` is the update of the lookup at `key`. -/
theorem find?_insert
    (m : ChannelMap)
    (key k : String)
    (holder : CallbackHolder) :
    (m.insert key holder).find? k = if k = key then some holder else m.find? k :=
  lookup_insertEntry key k holder m.entries

/- `map.erase(key)` removes exactly the lookup at `key`. -/
theorem find?_erase (m : ChannelMap) (key k : String) :
    (m.erase key).find? k = if k = key then none else m.find? k :=
  lookup_filter_ne key k m.entries

end ChannelMap

end RedisSubscriber
