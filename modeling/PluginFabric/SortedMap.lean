/-! Finite maps with their keys in strictly increasing order.

    Everything the fabric lists by key (properties, plugins, constructors, members of an object) is
    listed in key order, so the order is part of the type: a map is the list of its pairs, and two
    maps with the same lookups are equal (`SortedMap.ext_get?`). Writes are described by what they do
    to `get?`. -/

namespace PluginFabric

/-- A finite map, kept as the list of its pairs in strictly increasing key order. -/
structure SortedMap (κ α : Type) [Ord κ] where
  toList : List (κ × α)
  sorted : toList.Pairwise (fun a b => compare a.1 b.1 = .lt)

namespace SortedMap

variable {κ α β : Type} [Ord κ]

/-- Two maps with the same pairs are equal. -/
theorem ext {m n : SortedMap κ α} (h : m.toList = n.toList) : m = n := by
  cases m; cases n; simp_all

instance [DecidableEq κ] [DecidableEq α] : DecidableEq (SortedMap κ α) := fun m n =>
  decidable_of_iff (m.toList = n.toList) ⟨ext, fun h => h ▸ rfl⟩

def empty : SortedMap κ α := ⟨[], .nil⟩

instance : Inhabited (SortedMap κ α) := ⟨empty⟩
instance : EmptyCollection (SortedMap κ α) := ⟨empty⟩

def keys (m : SortedMap κ α) : List κ := m.toList.map (·.1)
def values (m : SortedMap κ α) : List α := m.toList.map (·.2)
def size (m : SortedMap κ α) : Nat := m.toList.length
def isEmpty (m : SortedMap κ α) : Bool := m.toList.isEmpty

/-- The value of the first pair with this key. -/
def lookup (k : κ) : List (κ × α) → Option α
  | [] => none
  | (k', a) :: rest => if compare k k' = .eq then some a else lookup k rest

def get? (m : SortedMap κ α) (k : κ) : Option α := lookup k m.toList

def contains (m : SortedMap κ α) (k : κ) : Bool := (m.get? k).isSome

/-- The pairs with `k` bound to `a`: in place of its old pair, or where the order wants it. -/
def insertPair (k : κ) (a : α) : List (κ × α) → List (κ × α)
  | [] => [(k, a)]
  | (k', b) :: rest =>
    match compare k k' with
    | .lt => (k, a) :: (k', b) :: rest
    | .eq => (k, a) :: rest
    | .gt => (k', b) :: insertPair k a rest

/-- The pairs without the one for `k`. -/
def erasePair (k : κ) (l : List (κ × α)) : List (κ × α) :=
  l.filter fun p => compare k p.1 != .eq

/-- The pairs with every value mapped. -/
def mapPairs (f : α → β) (l : List (κ × α)) : List (κ × β) := l.map fun p => (p.1, f p.2)

theorem mem_insertPair {k : κ} {a : α} {l : List (κ × α)} {p : κ × α}
    (h : p ∈ insertPair k a l) : p = (k, a) ∨ p ∈ l := by
  induction l with
  | nil => simpa [insertPair] using h
  | cons q rest ih =>
    rw [insertPair] at h
    split at h
    · simpa using h
    · rcases List.mem_cons.1 h with h | h
      · exact .inl h
      · exact .inr (List.mem_cons_of_mem _ h)
    · rcases List.mem_cons.1 h with h | h
      · exact .inr (h ▸ List.mem_cons_self)
      · exact (ih h).imp_right (List.mem_cons_of_mem _)

theorem sorted_insertPair [Std.TransOrd κ] [Std.LawfulEqOrd κ] (k : κ) (a : α)
    {l : List (κ × α)} (h : l.Pairwise (fun a b => compare a.1 b.1 = .lt)) :
    (insertPair k a l).Pairwise (fun a b => compare a.1 b.1 = .lt) := by
  induction l with
  | nil => simp [insertPair]
  | cons q rest ih =>
    have hq := List.pairwise_cons.1 h
    rw [insertPair]
    split
    · rename_i hlt
      refine List.pairwise_cons.2 ⟨fun p hp => ?_, h⟩
      rcases List.mem_cons.1 hp with rfl | hp
      · exact hlt
      · exact Std.TransCmp.lt_trans hlt (hq.1 p hp)
    · rename_i heq
      have heq := Std.LawfulEqCmp.eq_of_compare heq
      exact List.pairwise_cons.2 ⟨fun p hp => heq ▸ hq.1 p hp, hq.2⟩
    · rename_i hgt
      refine List.pairwise_cons.2 ⟨fun p hp => ?_, ih hq.2⟩
      rcases mem_insertPair hp with rfl | hp
      · exact Std.OrientedCmp.gt_iff_lt.1 hgt
      · exact hq.1 p hp

/-- Behind pairs with smaller keys, a pair is inserted as if they were not there. -/
theorem insertPair_append [Std.OrientedOrd κ] (k : κ) (a : α) {l : List (κ × α)} (r : List (κ × α))
    (h : ∀ p ∈ l, compare p.1 k = .lt) : insertPair k a (l ++ r) = l ++ insertPair k a r := by
  induction l with
  | nil => rfl
  | cons q rest ih =>
    have hq : compare k q.1 = .gt := Std.OrientedCmp.gt_iff_lt.2 (h q List.mem_cons_self)
    rw [List.cons_append, insertPair, hq]
    simp only [List.cons_append, ih fun p hp => h p (List.mem_cons_of_mem _ hp)]

/-- Behind pairs with smaller keys, a key is looked up as if they were not there. -/
theorem lookup_append [Std.OrientedOrd κ] {k : κ} {l : List (κ × α)} (r : List (κ × α))
    (h : ∀ p ∈ l, compare p.1 k = .lt) : lookup k (l ++ r) = lookup k r := by
  induction l with
  | nil => rfl
  | cons q rest ih =>
    have hq : compare k q.1 = .gt := Std.OrientedCmp.gt_iff_lt.2 (h q List.mem_cons_self)
    simp [lookup, hq, ih fun p hp => h p (List.mem_cons_of_mem _ hp)]

variable [Std.TransOrd κ] [Std.LawfulEqOrd κ]

/-- Binds `k` to `a`, whatever it was bound to. -/
def insert (m : SortedMap κ α) (k : κ) (a : α) : SortedMap κ α :=
  ⟨insertPair k a m.toList, sorted_insertPair k a m.sorted⟩

/-- Removes the binding of `k`. -/
def erase (m : SortedMap κ α) (k : κ) : SortedMap κ α :=
  ⟨erasePair k m.toList, m.sorted.filter _⟩

/-- Maps every value, keeping the keys. -/
def mapValues (f : α → β) (m : SortedMap κ α) : SortedMap κ β :=
  ⟨mapPairs f m.toList, List.pairwise_map.2 m.sorted⟩

/-- The map of a list of pairs; of several pairs with one key, the last counts. -/
def ofList (l : List (κ × α)) : SortedMap κ α :=
  l.foldl (fun m p => m.insert p.1 p.2) empty

/-! ### What the writes do to a lookup -/

omit [Std.TransOrd κ] [Std.LawfulEqOrd κ] in
theorem lookup_eq_none_of_lt {k : κ} {l : List (κ × α)}
    (h : ∀ p ∈ l, compare k p.1 = .lt) : lookup k l = none := by
  induction l with
  | nil => rfl
  | cons q rest ih =>
    have hq : compare k q.1 = .lt := h q List.mem_cons_self
    simp [lookup, hq, ih fun p hp => h p (List.mem_cons_of_mem _ hp)]

omit [Std.TransOrd κ] [Std.LawfulEqOrd κ] in
@[simp] theorem get?_empty (k : κ) : (empty : SortedMap κ α).get? k = none := rfl

omit [Std.TransOrd κ] [Std.LawfulEqOrd κ] in
theorem lookup_mapPairs (f : α → β) (k : κ) (l : List (κ × α)) :
    lookup k (mapPairs f l) = (lookup k l).map f := by
  induction l with
  | nil => rfl
  | cons q rest ih =>
    rw [mapPairs] at ih ⊢
    by_cases h : compare k q.1 = .eq <;> simp [lookup, h, ih]

omit [Std.TransOrd κ] [Std.LawfulEqOrd κ] in
@[simp] theorem get?_mapValues (f : α → β) (m : SortedMap κ α) (k : κ) :
    (m.mapValues f).get? k = (m.get? k).map f := lookup_mapPairs f k m.toList

omit [Std.TransOrd κ] in
theorem lookup_insertPair [DecidableEq κ] (k k' : κ) (a : α) (l : List (κ × α)) :
    lookup k' (insertPair k a l) = if k' = k then some a else lookup k' l := by
  induction l with
  | nil => simp [insertPair, lookup]
  | cons q rest ih =>
    obtain ⟨c, b⟩ := q
    rw [insertPair]
    split
    · simp [lookup]
    · rename_i heq
      have heq := Std.LawfulEqCmp.eq_of_compare heq
      subst heq
      by_cases h : k' = k <;> simp [lookup, h]
    · rename_i hgt
      by_cases h : k' = k
      · subst h
        have hne : k' ≠ c := fun e => by simp [e] at hgt
        simp [lookup, hne, ih]
      · simp [lookup, ih, h]

omit [Std.TransOrd κ] in
theorem lookup_erasePair [DecidableEq κ] (k k' : κ) (l : List (κ × α)) :
    lookup k' (erasePair k l) = if k' = k then none else lookup k' l := by
  induction l with
  | nil => simp [erasePair, lookup]
  | cons q rest ih =>
    obtain ⟨c, b⟩ := q
    rw [erasePair] at ih ⊢
    rw [List.filter_cons]
    by_cases hc : k = c
    · subst hc
      by_cases h : k' = k
      · subst h; simpa using ih
      · simpa [lookup, h] using ih
    · by_cases h : k' = c
      · have hne : k' ≠ k := fun e => hc (e.symm.trans h)
        subst h
        simp [hc, lookup, hne]
      · simp [hc, lookup, h, ih]

theorem get?_insert [DecidableEq κ] (m : SortedMap κ α) (k k' : κ) (a : α) :
    (m.insert k a).get? k' = if k' = k then some a else m.get? k' :=
  lookup_insertPair k k' a m.toList

omit [Std.TransOrd κ] in
theorem get?_erase [DecidableEq κ] (m : SortedMap κ α) (k k' : κ) :
    (m.erase k).get? k' = if k' = k then none else m.get? k' :=
  lookup_erasePair k k' m.toList

omit [Std.TransOrd κ] in
theorem lookup_eq_some_iff {l : List (κ × α)} (hl : l.Pairwise (fun a b => compare a.1 b.1 = .lt))
    {k : κ} {a : α} : lookup k l = some a ↔ (k, a) ∈ l := by
  induction l with
  | nil => simp [lookup]
  | cons q rest ih =>
    obtain ⟨c, b⟩ := q
    have hc := List.pairwise_cons.1 hl
    by_cases h : k = c
    · subst h
      have hnot : (k, a) ∉ rest := fun hm => by simpa using hc.1 _ hm
      simp [lookup, hnot, eq_comm]
    · simp [lookup, h, ih hc.2]

omit [Std.TransOrd κ] in
/-- The pairs of a map are its lookups. -/
theorem get?_eq_some_iff {m : SortedMap κ α} {k : κ} {a : α} :
    m.get? k = some a ↔ (k, a) ∈ m.toList := lookup_eq_some_iff m.sorted

omit [Std.TransOrd κ] in
theorem nodup_keys (m : SortedMap κ α) : m.keys.Nodup := by
  refine List.pairwise_map.2 (m.sorted.imp fun hlt heq => ?_)
  simp [heq] at hlt

omit [Std.TransOrd κ] in
/-- The keys of a map are those that are bound. -/
theorem mem_keys {m : SortedMap κ α} {k : κ} : k ∈ m.keys ↔ (m.get? k).isSome := by
  rw [keys, List.mem_map]
  constructor
  · rintro ⟨p, hp, rfl⟩
    rw [get?_eq_some_iff.2 hp]
    rfl
  · intro h
    obtain ⟨a, ha⟩ := Option.isSome_iff_exists.1 h
    exact ⟨(k, a), get?_eq_some_iff.1 ha, rfl⟩

/-- Lists of pairs in key order with the same lookups are equal. -/
theorem pairs_eq_of_lookup {l r : List (κ × α)}
    (hl : l.Pairwise (fun a b => compare a.1 b.1 = .lt))
    (hr : r.Pairwise (fun a b => compare a.1 b.1 = .lt))
    (h : ∀ k, lookup k l = lookup k r) : l = r := by
  induction l generalizing r with
  | nil =>
    cases r with
    | nil => rfl
    | cons q rest => simpa [lookup] using h q.1
  | cons p l ih =>
    cases r with
    | nil => simpa [lookup] using h p.1
    | cons q r =>
      have hp := List.pairwise_cons.1 hl
      have hq := List.pairwise_cons.1 hr
      have hpq : p.1 = q.1 := by
        rcases hcmp : compare p.1 q.1 with _ | _ | _
        · have hnone := lookup_eq_none_of_lt (k := p.1) (l := q :: r) fun x hx => by
            rcases List.mem_cons.1 hx with rfl | hx
            · exact hcmp
            · exact Std.TransCmp.lt_trans hcmp (hq.1 x hx)
          have := h p.1
          rw [hnone] at this
          simp [lookup] at this
        · exact Std.LawfulEqCmp.eq_of_compare hcmp
        · have hqp := Std.OrientedCmp.gt_iff_lt.1 hcmp
          have hnone := lookup_eq_none_of_lt (k := q.1) (l := p :: l) fun x hx => by
            rcases List.mem_cons.1 hx with rfl | hx
            · exact hqp
            · exact Std.TransCmp.lt_trans hqp (hp.1 x hx)
          have := h q.1
          rw [hnone] at this
          simp [lookup] at this
      have hval : p.2 = q.2 := by simpa [lookup, hpq] using h p.1
      have hpq : p = q := Prod.ext hpq hval
      subst hpq
      refine congrArg (p :: ·) (ih hp.2 hq.2 fun k => ?_)
      rcases hk : compare k p.1 with _ | _ | _
      · have := h k
        simpa [lookup, hk] using this
      · have hk := Std.LawfulEqCmp.eq_of_compare hk
        rw [hk, lookup_eq_none_of_lt hp.1, lookup_eq_none_of_lt hq.1]
      · have := h k
        simpa [lookup, hk] using this

/-! ### Maps made of lists -/

/-- A pair bound later in a list goes before one bound earlier. -/
@[simp] theorem get?_ofList_append [DecidableEq κ] (l r : List (κ × α)) (k : κ) :
    (ofList (l ++ r)).get? k = ((ofList r).get? k).or ((ofList l).get? k) := by
  suffices h : ∀ m : SortedMap κ α, (r.foldl (fun m p => m.insert p.1 p.2) m).get? k
      = ((ofList r).get? k).or (m.get? k) by
    rw [ofList, List.foldl_append]
    exact h _
  intro m
  induction r generalizing m with
  | nil => rfl
  | cons p r ih =>
    rw [ofList, List.foldl_cons, List.foldl_cons, ih, ih (empty.insert p.1 p.2), get?_insert,
      get?_insert]
    by_cases hk : k = p.1 <;> simp [hk]

@[simp] theorem get?_ofList_nil (k : κ) : (ofList ([] : List (κ × α))).get? k = none := rfl

@[simp] theorem get?_ofList_cons [DecidableEq κ] (k k' : κ) (a : α) (l : List (κ × α)) :
    (ofList ((k, a) :: l)).get? k' = ((ofList l).get? k').or (if k' = k then some a else none) := by
  rw [← List.singleton_append, get?_ofList_append, ofList, ofList, List.foldl_cons, List.foldl_nil,
    get?_insert, get?_empty]

/-- Pairs in key order are the map that is made of them. -/
theorem toList_ofList {l : List (κ × α)}
    (h : l.Pairwise (fun a b => compare a.1 b.1 = .lt)) : (ofList l).toList = l := by
  suffices key : ∀ (r : List (κ × α)) (m : SortedMap κ α),
      (m.toList ++ r).Pairwise (fun a b => compare a.1 b.1 = .lt) →
      (r.foldl (fun m p => m.insert p.1 p.2) m).toList = m.toList ++ r from key l empty h
  intro r
  induction r with
  | nil => exact fun m _ => (List.append_nil _).symm
  | cons p r ih =>
    intro m hm
    have hbelow : ∀ q ∈ m.toList, compare q.1 p.1 = .lt := fun q hq =>
      (List.pairwise_append.1 hm).2.2 q hq p List.mem_cons_self
    have hinsert : (m.insert p.1 p.2).toList = m.toList ++ [p] := by
      simpa [insert, insertPair] using insertPair_append p.1 p.2 [] hbelow
    rw [List.foldl_cons, ih, hinsert, List.append_assoc, List.singleton_append]
    rwa [hinsert, List.append_assoc, List.singleton_append]

theorem ofList_toList (m : SortedMap κ α) : ofList m.toList = m := ext (toList_ofList m.sorted)

/-- Maps with the same lookups are equal. -/
theorem ext_get? {m n : SortedMap κ α} (h : ∀ k, m.get? k = n.get? k) : m = n :=
  ext (pairs_eq_of_lookup m.sorted n.sorted h)

end SortedMap

end PluginFabric
