import PluginFabric.Config.Properties
import PluginFabric.Proofs.Config.Engine
import PluginFabric.Proofs.Payload

/-! Records read back.

    Payloads, properties and the configuration of an engine are read back as they were written, so
    different records are written differently. A share of processor time must be finite for that. In
    an object, a field that may be nothing is nothing whether it is null or left out. -/

namespace PluginFabric

open Json

variable {α : Type}

/-! ### Properties -/

theorem PropertyEntry.decode_encode (e : PropertyEntry) : decode e.encode = some e := by
  rw [decode, encode, source?_object, Option.bind_eq_bind, Option.bind_some,
    required_written 0 (a := e.value) (by simp) (text?_str _),
    defaulted_written 1 (a := e.isFinal) (by simp) (bool?_bool _),
    defaulted_optional 2 (o := e.description) (by simp) nullable?_text]
  rfl

theorem Configuration.decode_encode (c : Configuration) : decode c.encode = some c := by
  rw [decode, encode, mapOf?_mapValues PropertyEntry.decode_encode, Option.map_some]

/-! ### Null and nothing -/

namespace Record.Source

/-- The first source has null for a field that the second, an object, lacks; otherwise they have the
    same. -/
structure Nulled (key : String) (s s' : Source Json) : Prop where
  null : ∀ position, s.slot position key = .given .null
  absent : ∀ position, s'.slot position key = .absentMember
  alike : ∀ position name, name ≠ key → s.slot position name = s'.slot position name

theorem nulled (ms : SortedMap String Json) (key : String) :
    Nulled key (.members (ms.insert key .null).toList) (.members (ms.erase key).toList) where
  null position := slot_written position (by rw [SortedMap.get?_insert, if_pos rfl])
  absent position := slot_absent position (by rw [SortedMap.get?_erase, if_pos rfl])
  alike position name h := by
    have hget : (ms.insert key .null).get? name = (ms.erase key).get? name := by
      rw [SortedMap.get?_insert, SortedMap.get?_erase, if_neg h, if_neg h]
    rw [SortedMap.get?, SortedMap.get?] at hget
    rw [slot, slot, hget]

namespace Nulled

variable {key name : String} {s s' : Source Json} (h : Nulled key s s') (position : Nat)
  {read : Json → Option α} {fallback : α}

include h

theorem required (hname : name ≠ key) :
    s.required position name read = s'.required position name read := by
  rw [Source.required, Source.required, h.alike position name hname]

theorem defaulted (hname : name ≠ key) :
    s.defaulted position name fallback read = s'.defaulted position name fallback read := by
  rw [Source.defaulted, Source.defaulted, h.alike position name hname]

theorem nullable : s.defaulted position key none (nullable? read)
    = s'.defaulted position key none (nullable? read) := by
  rw [Source.defaulted, Source.defaulted, h.null, h.absent]
  rfl

theorem optional : s.optional position key (nullable? read)
    = s'.optional position key (nullable? read) := by
  rw [Source.optional, Source.optional, h.null, h.absent]
  rfl

end Nulled

end Record.Source

/-- Null under a key is read as if the key was not there. -/
def Json.NullIsAbsent (decode : Json → Option α) (key : String) : Prop :=
  ∀ ms : SortedMap String Json,
    decode (.ofMap (ms.insert key .null)) = decode (.ofMap (ms.erase key))

theorem source?_ofMap (arity : Nat) (ms : SortedMap String Json) :
    (ofMap ms).source? arity = some (.members ms.toList) := rfl

section NullIsAbsent

open Record.Source (nulled)

theorem MasterEventKind.nullIsAbsent : NullIsAbsent decode "exit_status" := by
  intro ms
  have h := nulled ms "exit_status"
  have hname : SortedMap.lookup "type" (ms.insert "exit_status" .null).toList
      = SortedMap.lookup "type" (ms.erase "exit_status").toList := by
    have hinsert := SortedMap.get?_insert ms "exit_status" "type" .null
    have herase := SortedMap.get?_erase ms "exit_status" "type"
    exact hinsert.trans herase.symm
  have hkind : ∀ name, ofSource? name (.members (ms.insert "exit_status" .null).toList)
      = ofSource? name (.members (ms.erase "exit_status").toList) := by
    intro name
    unfold ofSource?
    split <;> simp (disch := decide) only [h.required, h.optional]
  simp only [decode, ofMap, hname, hkind]

theorem AppContext.nullIsAbsent : NullIsAbsent decode "start_time" := by
  intro ms
  have h := nulled ms "start_time"
  simp (disch := decide) only [decode, source?_ofMap, Option.bind_eq_bind, Option.bind_some,
    h.required, h.nullable]

theorem PropertyEntry.nullIsAbsent : NullIsAbsent decode "description" := by
  intro ms
  have h := nulled ms "description"
  simp (disch := decide) only [decode, source?_ofMap, Option.bind_eq_bind, Option.bind_some,
    h.required, h.defaulted, h.nullable]

theorem WindowConfig.nullIsAbsent {key : String}
    (hkey : key ∈ ["widthMillis", "firstWindowMillis"]) : NullIsAbsent decode key := by
  intro ms
  have h := nulled ms key
  simp only [List.mem_cons, List.not_mem_nil, or_false] at hkey
  rcases hkey with rfl | rfl <;>
    simp (disch := decide) only [decode, source?_ofMap, Option.bind_eq_bind, Option.bind_some,
      h.defaulted, h.nullable]

theorem LoggingConfig.nullIsAbsent {key : String} (hkey : key ∈ ["level", "dir", "json"]) :
    NullIsAbsent decode key := by
  intro ms
  have h := nulled ms key
  simp only [List.mem_cons, List.not_mem_nil, or_false] at hkey
  rcases hkey with rfl | rfl | rfl <;>
    simp (disch := decide) only [decode, source?_ofMap, Option.bind_eq_bind, Option.bind_some,
      h.defaulted, h.nullable]

theorem EngineConfig.nullIsAbsent {key : String}
    (hkey : key ∈ ["plugins", "window", "logging"]) : NullIsAbsent decode key := by
  intro ms
  have h := nulled ms key
  simp only [List.mem_cons, List.not_mem_nil, or_false] at hkey
  rcases hkey with rfl | rfl | rfl <;>
    simp (disch := decide) only [decode, source?_ofMap, Option.bind_eq_bind, Option.bind_some,
      h.defaulted, h.nullable]

end NullIsAbsent

/-! ### All records -/

/-- What is written is read back, so different things are written differently. -/
structure Json.RoundTrips (encode : α → Json) (decode : Json → Option α) : Prop where
  decode_encode : ∀ a, decode (encode a) = some a
  injective : Function.Injective encode

theorem Json.RoundTrips.of {encode : α → Json} {decode : Json → Option α}
    (h : ∀ a, decode (encode a) = some a) : RoundTrips encode decode where
  decode_encode := h
  injective a b heq := Option.some.inj ((h a).symm.trans ((congrArg decode heq).trans (h b)))

/-- Every record is read back as it was written, the counters of an operator if their share of
    processor time is finite, and different records are written differently. Every field that may be
    nothing is read from null as from an object without it. -/
theorem records_read_back :
    (RoundTrips OperatorState.encode OperatorState.decode ∧
      RoundTrips OperatorHeartbeat.encode OperatorHeartbeat.decode ∧
      RoundTrips ContainerHeartbeat.encode ContainerHeartbeat.decode ∧
      RoundTrips MasterEventKind.encode MasterEventKind.decode ∧
      RoundTrips MasterEvent.encode MasterEvent.decode ∧
      RoundTrips AppContext.encode AppContext.decode ∧
      RoundTrips AppStats.encode AppStats.decode ∧
      RoundTrips LogicalOperator.encode LogicalOperator.decode ∧
      RoundTrips WindowMetrics.encode WindowMetrics.decode ∧
      RoundTrips WindowId.encode WindowId.decode ∧
      RoundTrips PropertyEntry.encode PropertyEntry.decode ∧
      RoundTrips Configuration.encode Configuration.decode ∧
      RoundTrips PluginsConfig.encode PluginsConfig.decode ∧
      RoundTrips WindowConfig.encode WindowConfig.decode ∧
      RoundTrips LoggingConfig.encode LoggingConfig.decode ∧
      RoundTrips EngineConfig.encode EngineConfig.decode) ∧
    ((∀ o : OperatorStats, o.cpuPercentage.isFinite = true →
        OperatorStats.decode o.encode = some o) ∧
      ∀ o o' : OperatorStats, o.cpuPercentage.isFinite = true → o'.cpuPercentage.isFinite = true →
        o.encode = o'.encode → o = o') ∧
    NullIsAbsent MasterEventKind.decode "exit_status" ∧
    NullIsAbsent AppContext.decode "start_time" ∧
    NullIsAbsent PropertyEntry.decode "description" ∧
    (∀ key ∈ ["widthMillis", "firstWindowMillis"], NullIsAbsent WindowConfig.decode key) ∧
    (∀ key ∈ ["level", "dir", "json"], NullIsAbsent LoggingConfig.decode key) ∧
    ∀ key ∈ ["plugins", "window", "logging"], NullIsAbsent EngineConfig.decode key := by
  refine ⟨⟨.of OperatorState.decode_encode, .of OperatorHeartbeat.decode_encode,
    .of ContainerHeartbeat.decode_encode, .of MasterEventKind.decode_encode,
    .of MasterEvent.decode_encode, .of AppContext.decode_encode, .of AppStats.decode_encode,
    .of LogicalOperator.decode_encode, .of WindowMetrics.decode_encode, .of WindowId.decode_encode,
    .of PropertyEntry.decode_encode, .of Configuration.decode_encode,
    .of PluginsConfig.decode_encode, .of WindowConfig.decode_encode, .of LoggingConfig.decode_encode,
    .of EngineConfig.decode_encode⟩,
    ⟨fun o h => OperatorStats.decode_encode h, fun o o' h h' heq => ?_⟩,
    MasterEventKind.nullIsAbsent, AppContext.nullIsAbsent, PropertyEntry.nullIsAbsent,
    fun key hkey => WindowConfig.nullIsAbsent hkey, fun key hkey => LoggingConfig.nullIsAbsent hkey,
    fun key hkey => EngineConfig.nullIsAbsent hkey⟩
  have hread := OperatorStats.decode_encode h
  rw [heq, OperatorStats.decode_encode h'] at hread
  exact (Option.some.inj hread).symm

/-- Counters at half of the processor time are read back. -/
theorem records_read_back_half :
    let o : OperatorStats := { operatorId := -7, cpuPercentage := ⟨0x3FE0000000000000⟩ }
    o.cpuPercentage.isFinite = true ∧ OperatorStats.decode o.encode = some o :=
  ⟨by decide, records_read_back.2.1.1 _ (by decide)⟩

end PluginFabric
