import Mathlib.Data.List.AList

/-! Unordered maps with unique keys: lookup, insertion that never overwrites, assignment through a
reference to an entry, and removal. The order of the entries is an iteration order; nothing but the
iteration may depend on it. -/

namespace RemoteSimgrid

/-- An unordered map. The uniqueness of its keys is a field of the underlying association list. -/
abbrev UnorderedMap (κ ν : Type) := AList (fun _ : κ => ν)

namespace UnorderedMap

variable {κ ν : Type}

def size (m : UnorderedMap κ ν) : Nat := m.entries.length

/-- The mapped values in iteration order. -/
def values (m : UnorderedMap κ ν) : List ν := m.entries.map Sigma.snd

@[simp] theorem size_empty : size (∅ : UnorderedMap κ ν) = 0 := rfl

@[simp] theorem values_empty : values (∅ : UnorderedMap κ ν) = [] := rfl

theorem length_values (m : UnorderedMap κ ν) : m.values.length = m.size := by
  rw [values, List.length_map, size]

variable [DecidableEq κ]

def find (m : UnorderedMap κ ν) (k : κ) : Option ν := m.lookup k

/-- Insertion does nothing when the key is present. -/
def insert (m : UnorderedMap κ ν) (k : κ) (v : ν) : UnorderedMap κ ν :=
  if k ∈ m then m else AList.insert k v m

/-- Assignment through a reference to the entry of a key. -/
def modify (m : UnorderedMap κ ν) (k : κ) (f : ν → ν) : UnorderedMap κ ν :=
  match m.lookup k with
  | some v => AList.insert k (f v) m
  | none => m

/-- Assignment through `operator[]`, which creates the entry when it is missing. -/
def set (m : UnorderedMap κ ν) (k : κ) (v : ν) : UnorderedMap κ ν := AList.insert k v m

def erase (m : UnorderedMap κ ν) (k : κ) : UnorderedMap κ ν := AList.erase k m

@[simp] theorem find_empty (k : κ) : find (∅ : UnorderedMap κ ν) k = none := AList.lookup_empty k

theorem find_eq_none {m : UnorderedMap κ ν} {k : κ} : m.find k = none ↔ k ∉ m :=
  AList.lookup_eq_none

theorem find_insert (m : UnorderedMap κ ν) (k j : κ) (v : ν) :
    (m.insert k v).find j = if j = k ∧ m.find k = none then some v else m.find j := by
  unfold insert
  by_cases hk : k ∈ m
  · have hnone : m.find k ≠ none := fun h => find_eq_none.mp h hk
    rw [if_pos hk, if_neg (fun h => hnone h.2)]
  · rw [if_neg hk]
    by_cases hj : j = k
    · subst hj
      rw [if_pos ⟨rfl, find_eq_none.mpr hk⟩]
      exact AList.lookup_insert m
    · rw [if_neg (fun h => hj h.1)]
      exact AList.lookup_insert_ne hj

@[simp] theorem find_insert_self {m : UnorderedMap κ ν} {k : κ} (v : ν) (h : m.find k = none) :
    (m.insert k v).find k = some v := by
  rw [find_insert, if_pos ⟨rfl, h⟩]

@[simp] theorem find_insert_of_ne (m : UnorderedMap κ ν) {k j : κ} (v : ν) (h : j ≠ k) :
    (m.insert k v).find j = m.find j := by
  rw [find_insert, if_neg (fun hj => h hj.1)]

theorem find_modify (m : UnorderedMap κ ν) (k j : κ) (f : ν → ν) :
    (m.modify k f).find j = if j = k then (m.find k).map f else m.find j := by
  unfold modify find
  by_cases hj : j = k
  · subst hj
    cases h : m.lookup j with
    | none => simp [h]
    | some v => simp [AList.lookup_insert]
  · cases h : m.lookup k with
    | none => simp [hj]
    | some v => simp [hj, AList.lookup_insert_ne hj]

@[simp] theorem find_modify_self (m : UnorderedMap κ ν) (k : κ) (f : ν → ν) :
    (m.modify k f).find k = (m.find k).map f := by
  rw [find_modify, if_pos rfl]

@[simp] theorem find_modify_of_ne (m : UnorderedMap κ ν) {k j : κ} (f : ν → ν) (h : j ≠ k) :
    (m.modify k f).find j = m.find j := by
  rw [find_modify, if_neg h]

theorem find_set (m : UnorderedMap κ ν) (k j : κ) (v : ν) :
    (m.set k v).find j = if j = k then some v else m.find j := by
  unfold set find
  by_cases hj : j = k
  · subst hj
    rw [if_pos rfl, AList.lookup_insert]
  · rw [if_neg hj, AList.lookup_insert_ne hj]

@[simp] theorem find_set_self (m : UnorderedMap κ ν) (k : κ) (v : ν) :
    (m.set k v).find k = some v := by
  rw [find_set, if_pos rfl]

@[simp] theorem find_set_of_ne (m : UnorderedMap κ ν) {k j : κ} (v : ν) (h : j ≠ k) :
    (m.set k v).find j = m.find j := by
  rw [find_set, if_neg h]

theorem find_erase (m : UnorderedMap κ ν) (k j : κ) :
    (m.erase k).find j = if j = k then none else m.find j := by
  unfold erase find
  by_cases hj : j = k
  · subst hj
    rw [if_pos rfl, AList.lookup_erase]
  · rw [if_neg hj, AList.lookup_erase_ne hj]

@[simp] theorem find_erase_self (m : UnorderedMap κ ν) (k : κ) : (m.erase k).find k = none := by
  rw [find_erase, if_pos rfl]

@[simp] theorem find_erase_of_ne (m : UnorderedMap κ ν) {k j : κ} (h : j ≠ k) :
    (m.erase k).find j = m.find j := by
  rw [find_erase, if_neg h]

/-! ### Iteration -/

theorem mem_values {m : UnorderedMap κ ν} {v : ν} : v ∈ m.values ↔ ∃ k, m.find k = some v := by
  unfold values find
  rw [List.mem_map]
  constructor
  · rintro ⟨⟨k, w⟩, hmem, rfl⟩
    exact ⟨k, AList.mem_lookup_iff.mpr hmem⟩
  · rintro ⟨k, hk⟩
    exact ⟨⟨k, v⟩, AList.mem_lookup_iff.mp hk, rfl⟩

theorem values_insert {m : UnorderedMap κ ν} {k : κ} (v : ν) (h : m.find k = none) :
    (m.insert k v).values = v :: m.values := by
  have hk := find_eq_none.mp h
  rw [insert, if_neg hk, values, AList.entries_insert_of_notMem hk, List.map_cons, values]

theorem size_insert {m : UnorderedMap κ ν} {k : κ} (v : ν) (h : m.find k = none) :
    (m.insert k v).size = m.size + 1 := by
  rw [← length_values, ← length_values, values_insert v h, List.length_cons]

/-- An assignment replaces one value of the iteration. -/
theorem values_modify {m : UnorderedMap κ ν} {k : κ} {v : ν} (f : ν → ν) (h : m.find k = some v) :
    ∃ rest, m.values.Perm (v :: rest) ∧ (m.modify k f).values = f v :: rest := by
  have hmem : (⟨k, v⟩ : Sigma fun _ : κ => ν) ∈ m.entries := AList.mem_lookup_iff.mp h
  have hkey : k ∈ m.entries.keys := List.mem_keys_of_mem hmem
  obtain ⟨w, first, last, -, hsplit, herase⟩ := List.exists_of_kerase hkey
  have hw : w = v := by
    refine m.nodupKeys.eq_of_mk_mem (a := k) ?_ hmem
    rw [hsplit]
    exact List.mem_append_right _ List.mem_cons_self
  subst hw
  refine ⟨(first ++ last).map Sigma.snd, ?_, ?_⟩
  · rw [values, hsplit]
    simp
  · have hlookup : m.lookup k = some w := h
    rw [modify, hlookup]
    simp only [values, AList.entries_insert, herase, List.map_cons]

theorem size_modify (m : UnorderedMap κ ν) (k : κ) (f : ν → ν) : (m.modify k f).size = m.size := by
  cases h : m.find k with
  | none =>
      have hlookup : m.lookup k = none := h
      rw [modify, hlookup]
  | some v =>
      obtain ⟨rest, hperm, hvalues⟩ := values_modify f h
      rw [← length_values, ← length_values, hvalues, hperm.length_eq, List.length_cons,
        List.length_cons]

end UnorderedMap

end RemoteSimgrid
