import PluginFabric.Json.Field

/-! Reading what was written.

    A record is written as an object of its fields, some of which may be left out. A field is read by
    looking its name up among the members, so it is found as it was written, whatever was written
    beside it; and a value of each kind is read back from its written form. -/

namespace PluginFabric.Json

variable {α : Type} {write : α → Json} {read : Json → Option α}

/-! ### Members -/

@[simp] theorem get?_ofList_optionalMember (name key : String) (write : α → Json) (o : Option α) :
    (SortedMap.ofList (optionalMember name write o)).get? key
      = if key = name then o.map write else none := by
  cases o with
  | none => simp [optionalMember]
  | some a => simp [optionalMember]

/-- An object is made by putting its members in their places one after the other. -/
theorem object_eq (members : List (String × Json)) :
    object members = .obj (members.foldl (fun ms m => SortedMap.insertPair m.1 m.2 ms) []) := by
  suffices h : ∀ m : SortedMap String Json, (members.foldl (fun m p => m.insert p.1 p.2) m).toList
      = members.foldl (fun ms m => SortedMap.insertPair m.1 m.2 ms) m.toList from
    congrArg Json.obj (h _)
  induction members with
  | nil => exact fun _ => rfl
  | cons p members ih => exact fun m => ih _

theorem source?_object (arity : Nat) (members : List (String × Json)) :
    (object members).source? arity = some (.members (SortedMap.ofList members).toList) := rfl

section Fields

variable {ms : SortedMap String Json} (position : Nat) {name : String} {fallback : α}

theorem slot_written {j : Json} (h : ms.get? name = some j) :
    (Record.Source.members ms.toList).slot position name = .given j := by
  rw [SortedMap.get?] at h
  rw [Record.Source.slot, h]

theorem slot_absent (h : ms.get? name = none) :
    (Record.Source.members ms.toList).slot position name = .absentMember := by
  rw [SortedMap.get?] at h
  rw [Record.Source.slot, h]

/-- A field that must be there is read back. -/
theorem required_written {j : Json} {a : α} (h : ms.get? name = some j) (hread : read j = some a) :
    (Record.Source.members ms.toList).required position name read = some a := by
  rw [Record.Source.required, slot_written position h]
  exact hread

/-- A field whose text is read further is read back. -/
theorem required_text {read : String → Option α} {s : String} {a : α}
    (h : ms.get? name = some (.str s)) (hread : read s = some a) :
    (Record.Source.members ms.toList).required position name (fun v => v.text?.bind read) = some a :=
  required_written position h hread

/-- A field that was written is read back. -/
theorem defaulted_written {j : Json} {a : α} (h : ms.get? name = some j) (hread : read j = some a) :
    (Record.Source.members ms.toList).defaulted position name fallback read = some a := by
  rw [Record.Source.defaulted, slot_written position h]
  exact hread

/-- A field that is left out where there is nothing is read back. -/
theorem defaulted_optional {o : Option α} (h : ms.get? name = o.map write)
    (hread : ∀ a, nullable? read (write a) = some (some a)) :
    (Record.Source.members ms.toList).defaulted position name none (nullable? read) = some o := by
  cases o with
  | none => rw [Record.Source.defaulted, slot_absent position h]
  | some a => exact defaulted_written position h (hread a)

/-- A field that is null where there is nothing is read back. -/
theorem optional_written {o : Option α} (h : ms.get? name = some (ofOption write o))
    (hread : ∀ a, nullable? read (write a) = some (some a)) :
    (Record.Source.members ms.toList).optional position name (nullable? read) = some o := by
  rw [Record.Source.optional, slot_written position h]
  cases o with
  | none => rfl
  | some a => exact hread a

end Fields

/-! ### Values -/

theorem nullable?_of_ne_null {j : Json} {a : α} (hj : j ≠ .null) (hread : read j = some a) :
    nullable? read j = some (some a) := by
  cases j with
  | null => exact absurd rfl hj
  | _ => simp [nullable?, hread]

theorem text?_str (s : String) : text? (.str s) = some s := rfl

theorem nullable?_text (s : String) : nullable? text? (.str s) = some (some s) := rfl

theorem nullable?_text_bind {read : String → Option α} {s : String} {a : α} (h : read s = some a) :
    nullable? (fun v => v.text?.bind read) (.str s) = some (some a) :=
  congrArg (Option.map some) h

theorem bool?_bool (b : Bool) : bool? (.bool b) = some b := rfl

theorem nullable?_bool (b : Bool) : nullable? bool? (.bool b) = some (some b) := rfl

theorem uint64?_ofUInt64 (n : UInt64) : uint64? (ofUInt64 n) = some n := by
  have hbound : (0 : Int) ≤ n.toNat ∧ (n.toNat : Int) < UInt64.size :=
    ⟨Int.natCast_nonneg _, Int.ofNat_lt.2 n.toNat_lt_size⟩
  rw [ofUInt64, uint64?, int?, Option.bind_some, if_pos hbound, Int.toNat_natCast, UInt64.ofNat_toNat]

theorem uint32?_ofUInt32 (n : UInt32) : uint32? (ofUInt32 n) = some n := by
  have hbound : (0 : Int) ≤ n.toNat ∧ (n.toNat : Int) < UInt32.size :=
    ⟨Int.natCast_nonneg _, Int.ofNat_lt.2 n.toNat_lt_size⟩
  rw [ofUInt32, uint32?, int?, Option.bind_some, if_pos hbound, Int.toNat_natCast, UInt32.ofNat_toNat]

theorem int64?_ofInt64 (n : Int64) : int64? (ofInt64 n) = some n := by
  have hbound : Int64.minValue.toInt ≤ n.toInt ∧ n.toInt ≤ Int64.maxValue.toInt :=
    ⟨n.minValue_le_toInt, n.toInt_le⟩
  rw [ofInt64, int64?, int?, Option.bind_some, if_pos hbound, Int64.ofInt_toInt]

theorem int32?_ofInt32 (n : Int32) : int32? (ofInt32 n) = some n := by
  have hbound : Int32.minValue.toInt ≤ n.toInt ∧ n.toInt ≤ Int32.maxValue.toInt :=
    ⟨n.minValue_le_toInt, n.toInt_le⟩
  rw [ofInt32, int32?, int?, Option.bind_some, if_pos hbound, Int32.ofInt_toInt]

theorem binary64?_ofBinary64 {x : Binary64} (h : x.isFinite = true) :
    binary64? (ofBinary64 x) = some x := by
  rw [ofBinary64, if_pos h, binary64?]

/-- What is written one by one is read back one by one. -/
theorem mapM_map_of_read {β : Type} {write : α → β} {read : β → Option α}
    (hread : ∀ a, read (write a) = some a) (xs : List α) : (xs.map write).mapM read = some xs := by
  have hid : read ∘ write = fun a => pure (id a) := funext hread
  rw [List.mapM_map, hid, List.mapM_pure, List.map_id, Option.pure_def]

theorem listOf?_map (hread : ∀ a, read (write a) = some a) (xs : List α) :
    listOf? read (.arr (xs.map write)) = some xs := by
  rw [listOf?, mapM_map_of_read hread]

theorem mapOf?_mapValues (hread : ∀ a, read (write a) = some a) (m : SortedMap String α) :
    mapOf? read (.ofMap (m.mapValues write)) = some m := by
  have hmembers : (SortedMap.mapPairs write m.toList).mapM (fun p => (read p.2).map (p.1, ·))
      = some m.toList := by
    refine mapM_map_of_read (fun p => ?_) m.toList
    rw [hread, Option.map_some]
  rw [ofMap, mapOf?, SortedMap.mapValues, hmembers, Option.map_some, SortedMap.ofList_toList]

end PluginFabric.Json
