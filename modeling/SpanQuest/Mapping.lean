/-
  Mappings in the order of insertion: lists of pairs in which a key keeps the
  place of its first appearance.

  `put` replaces the value of a key in its place or adds the pair at the end,
  and `erase` drops a key.  `ofPairs` inserts pairs one after another, so that
  of two pairs with one key the place of the first and the value of the last
  stay.
-/
namespace SpanQuest

/-- A mapping from texts, in the order of insertion. -/
abbrev Mapping (α : Type) := List (String × α)

namespace Mapping

variable {α : Type}

/-- The value of a key. -/
def get? (key : String) : Mapping α → Option α
  | [] => none
  | (k, v) :: rest => if k == key then some v else get? key rest

/-- Sets the value of a key: in its place if it has one, else at the end. -/
def put (key : String) (value : α) : Mapping α → Mapping α
  | [] => [(key, value)]
  | (k, v) :: rest => if k == key then (key, value) :: rest else (k, v) :: put key value rest

/-- Drops a key. -/
def erase (key : String) : Mapping α → Mapping α
  | [] => []
  | (k, v) :: rest => if k == key then rest else (k, v) :: erase key rest

/-- The key has a value. -/
def has (key : String) (m : Mapping α) : Bool :=
  (get? key m).isSome

/-- The keys in order. -/
def keys (m : Mapping α) : List String :=
  m.map (·.1)

/-- The mapping that pairs build, one after another. -/
def ofPairs (pairs : List (String × α)) : Mapping α :=
  pairs.foldl (fun m p => put p.1 p.2 m) []

/-! ## Each operation through `get?` and `keys` -/

@[simp] theorem get?_put_self (key : String) (value : α) (m : Mapping α) :
    get? key (put key value m) = some value := by
  induction m with
  | nil => simp [put, get?]
  | cons p rest ih => by_cases h : p.1 == key <;> simp [put, get?, h, ih]

theorem get?_put_of_ne {key other : String} (h : other ≠ key) (value : α) (m : Mapping α) :
    get? other (put key value m) = get? other m := by
  induction m with
  | nil => simp [put, get?, Ne.symm h]
  | cons p rest ih =>
    by_cases hp : p.1 = key
    · have : p.1 ≠ other := fun e => h (e ▸ hp)
      simp [put, get?, hp, Ne.symm h]
    · simp [put, get?, hp, ih]

theorem get?_append (key : String) (m n : Mapping α) :
    get? key (m ++ n) = (get? key m).or (get? key n) := by
  induction m with
  | nil => rfl
  | cons p rest ih => by_cases hp : p.1 = key <;> simp [get?, hp, ih]

theorem get?_map {β : Type} (f : α → β) (key : String) (m : Mapping α) :
    get? key (m.map fun p => (p.1, f p.2)) = (get? key m).map f := by
  induction m with
  | nil => rfl
  | cons p rest ih => by_cases hp : p.1 = key <;> simp [get?, hp, ih]

theorem keys_put (key : String) (value : α) (m : Mapping α) :
    keys (put key value m) = if key ∈ keys m then keys m else keys m ++ [key] := by
  induction m with
  | nil => simp [put, keys]
  | cons p rest ih =>
    by_cases hp : p.1 = key
    · simp [put, keys, hp]
    · simp only [keys] at ih
      have hk : key ≠ p.1 := fun e => hp e.symm
      by_cases hmem : key ∈ rest.map (·.1)
      · simp_all [put, keys]
      · simp_all [put, keys]

/-- Setting a value keeps the keys distinct. -/
theorem nodup_keys_put (key : String) (value : α) {m : Mapping α} (h : (keys m).Nodup) :
    (keys (put key value m)).Nodup := by
  rw [keys_put]
  split
  · exact h
  · next hmem =>
    refine List.nodup_append.2 ⟨h, by simp, ?_⟩
    intro a ha b hb hab
    simp only [List.mem_singleton] at hb
    exact hmem (hb ▸ hab ▸ ha)

theorem nodup_keys_foldl (pairs : List (String × α)) {m : Mapping α} (h : (keys m).Nodup) :
    (keys (pairs.foldl (fun m p => put p.1 p.2 m) m)).Nodup := by
  induction pairs generalizing m with
  | nil => exact h
  | cons p rest ih => exact ih (nodup_keys_put p.1 p.2 h)

/-- The keys of a built mapping are distinct. -/
theorem nodup_keys_ofPairs (pairs : List (String × α)) : (keys (ofPairs pairs)).Nodup :=
  nodup_keys_foldl pairs (by simp [keys])

theorem mem_put {p : String × α} {key : String} {value : α} {m : Mapping α}
    (h : p ∈ put key value m) : p ∈ m ∨ p = (key, value) := by
  induction m with
  | nil => simpa [put] using h
  | cons q rest ih =>
    by_cases hq : q.1 = key
    · simp only [put, hq, BEq.rfl, if_true, List.mem_cons] at h
      exact h.symm.imp_left (List.mem_cons_of_mem _)
    · simp only [put, beq_iff_eq, hq, if_false, List.mem_cons] at h
      rcases h with rfl | h
      · exact Or.inl (List.mem_cons_self ..)
      · exact (ih h).imp_left (List.mem_cons_of_mem _)

/-- A pair of a built mapping is one of those that built it. -/
theorem mem_ofPairs {p : String × α} {pairs : List (String × α)} (h : p ∈ ofPairs pairs) :
    p ∈ pairs := by
  suffices go : ∀ (rest : List (String × α)) (m : Mapping α),
      p ∈ rest.foldl (fun m p => put p.1 p.2 m) m → p ∈ m ∨ p ∈ rest by
    simpa using go pairs [] h
  intro rest
  induction rest with
  | nil => exact fun m hm => Or.inl hm
  | cons q rest ih =>
    intro m hm
    rcases ih _ hm with hput | hrest
    · rcases mem_put hput with hm | rfl
      · exact Or.inl hm
      · exact Or.inr (List.mem_cons_self ..)
    · exact Or.inr (List.mem_cons_of_mem _ hrest)

/-- The value of a key stands in a pair with it. -/
theorem mem_of_get? {key : String} {value : α} {m : Mapping α} (h : get? key m = some value) :
    (key, value) ∈ m := by
  induction m with
  | nil => cases h
  | cons p rest ih =>
    obtain ⟨k, v⟩ := p
    by_cases hk : k = key
    · simp only [get?, hk, BEq.rfl, if_true, Option.some.injEq] at h
      exact hk ▸ h ▸ List.mem_cons_self ..
    · simp only [get?, beq_iff_eq, hk, if_false] at h
      exact List.mem_cons_of_mem _ (ih h)

/-! ## Keys that are missing -/

theorem get?_eq_none_iff {key : String} {m : Mapping α} : get? key m = none ↔ key ∉ keys m := by
  induction m with
  | nil => simp [get?, keys]
  | cons p rest ih =>
    by_cases hp : p.1 = key
    · simp [get?, keys, hp]
    · simp only [keys] at ih
      simp [get?, keys, hp, ih, Ne.symm hp]

/-- A key that is missing is added at the end. -/
theorem put_of_not_mem {key : String} {m : Mapping α} (h : key ∉ keys m) (value : α) :
    put key value m = m ++ [(key, value)] := by
  induction m with
  | nil => rfl
  | cons p rest ih =>
    simp only [keys, List.map_cons, List.mem_cons, not_or] at h
    simp [put, Ne.symm h.1, ih h.2]

/-- To set the value that a key has changes nothing. -/
theorem put_of_get? {key : String} {value : α} {m : Mapping α} (h : get? key m = some value) :
    put key value m = m := by
  induction m with
  | nil => cases h
  | cons p rest ih =>
    obtain ⟨k, v⟩ := p
    by_cases hk : k = key
    · simp_all [put, get?]
    · simp_all [put, get?]

/-- To drop a key that is missing changes nothing. -/
theorem erase_of_get?_eq_none {key : String} {m : Mapping α} (h : get? key m = none) :
    erase key m = m := by
  induction m with
  | nil => rfl
  | cons p rest ih =>
    obtain ⟨k, v⟩ := p
    by_cases hk : k = key
    · simp [get?, hk] at h
    · simp_all [erase, get?]

/-- Pairs with distinct keys are the mapping that they build. -/
theorem ofPairs_of_nodup {pairs : List (String × α)} (h : (keys pairs).Nodup) :
    ofPairs pairs = pairs := by
  suffices go : ∀ (rest before : List (String × α)), (keys (before ++ rest)).Nodup →
      rest.foldl (fun m p => put p.1 p.2 m) before = before ++ rest from go pairs [] h
  intro rest
  induction rest with
  | nil => simp
  | cons p rest ih =>
    intro before hnodup
    have hmissing : p.1 ∉ keys before := by
      intro hmem
      simp only [keys, List.map_append, List.map_cons, List.nodup_append] at hnodup
      exact hnodup.2.2 p.1 hmem p.1 (List.mem_cons_self ..) rfl
    rw [List.foldl_cons, put_of_not_mem hmissing, ih _ (by simpa using hnodup),
      List.append_assoc, List.singleton_append]

/-! ## Keys that are dropped -/

theorem mem_of_mem_erase {p : String × α} {key : String} {m : Mapping α} (h : p ∈ erase key m) :
    p ∈ m := by
  induction m with
  | nil => cases h
  | cons q rest ih =>
    by_cases hq : q.1 = key
    · simp only [erase, hq, BEq.rfl, if_true] at h
      exact List.mem_cons_of_mem _ h
    · simp only [erase, beq_iff_eq, hq, if_false, List.mem_cons] at h ⊢
      exact h.imp_right ih

theorem keys_erase_sublist (key : String) (m : Mapping α) : (keys (erase key m)).Sublist (keys m) := by
  induction m with
  | nil => exact List.Sublist.refl _
  | cons p rest ih =>
    by_cases hp : p.1 = key
    · simp [erase, keys, hp]
    · simpa [erase, keys, hp] using ih

/-- Dropping a key keeps the keys distinct. -/
theorem nodup_keys_erase (key : String) {m : Mapping α} (h : (keys m).Nodup) :
    (keys (erase key m)).Nodup :=
  (keys_erase_sublist key m).nodup h

/-- A key that was dropped has no value. -/
theorem get?_erase_self (key : String) {m : Mapping α} (h : (keys m).Nodup) :
    get? key (erase key m) = none := by
  induction m with
  | nil => rfl
  | cons p rest ih =>
    simp only [keys, List.map_cons, List.nodup_cons] at h
    by_cases hp : p.1 = key
    · subst hp
      simpa [erase] using get?_eq_none_iff.2 h.1
    · simpa [erase, get?, hp] using ih h.2

theorem get?_erase_of_ne {key other : String} (h : other ≠ key) (m : Mapping α) :
    get? other (erase key m) = get? other m := by
  induction m with
  | nil => rfl
  | cons p rest ih =>
    by_cases hp : p.1 = key
    · simp [erase, get?, hp, Ne.symm h]
    · simp [erase, get?, hp, ih]

end Mapping

end SpanQuest
