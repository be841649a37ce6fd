/-
Bricklib2/Warp/MeterValues.lean

All meter values as a stream of chunks (meter_update_size, meter_get_next_value
and meter_fill_communication_values of meter.c).  One loop counts the values, a
second one produces them with a cursor that is kept between the calls, and a
static packet index, which no other function resets, cuts them into chunks of 15.

Main results: `values_complete`, for a meter that stays the same, and
`values_terminate`, which says when a call returns while the meter changes.
-/
import Mathlib.Data.List.Induction
import Bricklib2.Warp.ExactFloat
import Bricklib2.Warp.MeterTick

namespace Bricklib2

open Machine

variable {F : Type}

/-! ### The functions -/

/-- The counting loop of `meter_update_size`, with its `uint8_t` counter. -/
def meterCountValues (m : Meter F) : (fuel : ℕ) → (i size : ℕ) → Option ℕ
  | 0, _, _ => none
  | fuel + 1, i, size =>
    if i < m.currentMeterDefinitionSize then
      let size := if (m.definition i).inRegisterSet then (size + 1) % 2 ^ 8 else size
      meterCountValues m fuel ((i + 1) % 2 ^ 8) size
    else
      some size

/-- `while(true)` of `meter_get_next_value`: the value and the cursor behind it. -/
def meterNextValue [CFloat F] (m : Meter F) (registers : MeterRegisterSet F) :
    (fuel : ℕ) → (index : ℕ) → Option (F × ℕ)
  | 0, _ => none
  | fuel + 1, index =>
    if m.currentMeterDefinitionSize ≤ index then
      some (CFloat.nan, index)
    else
      match (m.definition index).registerSetAddress with
      | some (.registerSet name) => some (registers name, (index + 1) % 2 ^ 8)
      | _ => meterNextValue m registers fuel ((index + 1) % 2 ^ 8)

/-- The cursor is an `uint8_t`: a scan that has seen 256 entries never ends. -/
def meterGetNextValue [CFloat F] (m : Meter F) (registers : MeterRegisterSet F) (index : ℕ) :
    Option (F × ℕ) :=
  if m.currentMeter.isNone || m.currentMeterSize = 0 then some (CFloat.nan, index)
  else meterNextValue m registers (2 ^ 8) index

/-- The values that a call stores in its response, and the cursor behind them; the
counter `i` is an `uint8_t`. -/
def meterCopyValues [CFloat F] (m : Meter F) (registers : MeterRegisterSet F) (copyNum : ℕ) :
    (fuel : ℕ) → (i index : ℕ) → Option (List F × ℕ)
  | 0, _, _ => none
  | fuel + 1, i, index =>
    if i < copyNum then do
      let (value, index) ← meterGetNextValue m registers index
      let (values, index) ← meterCopyValues m registers copyNum fuel ((i + 1) % 2 ^ 8) index
      some (value :: values, index)
    else
      some ([], index)

/-- `GenericMeterValues_Response`; the chunk holds what is stored in it, from its
first cell on. -/
structure GenericMeterValuesResponse (F : Type) where
  valuesLength : ℕ
  valuesChunkOffset : ℕ
  valuesChunkData : List F
  deriving DecidableEq

/-- The meter with its cursor, `current_meter_index`, and the static
`packet_payload_index`. -/
structure ValueStream (F : Type) where
  stack : Stack F
  currentMeterIndex : ℕ
  packetPayloadIndex : ℕ

/-- `60 / sizeof(float)` -/
def packetLength : ℕ := 15

/-- The next chunk of the values. -/
def meterFillCommunicationValues [CFloat F] (fuel : ℕ) (s : ValueStream F) :
    Option (GenericMeterValuesResponse F × ValueStream F) := do
  let size := s.stack.meter.currentMeterSize
  let start := s.packetPayloadIndex * packetLength % 2 ^ 16
  let «end» := min (start + packetLength) size % 2 ^ 16
  let copyNum := («end» + 2 ^ 16 - start) % 2 ^ 16
  let index := if s.packetPayloadIndex = 0 then 0 else s.currentMeterIndex
  let (values, index) ← meterCopyValues s.stack.meter s.stack.registers copyNum fuel 0 index
  some
    (⟨size, start, values⟩,
      { s with
        currentMeterIndex := index
        packetPayloadIndex := if «end» < size then (s.packetPayloadIndex + 1) % 2 ^ 32 else 0 })

/-- `n` responses one after the other; before each call the registers may have been
read again. -/
def meterResponses [CFloat F] (fuel : ℕ) (registers : ℕ → MeterRegisterSet F) :
    (n : ℕ) → ValueStream F → Option (List (GenericMeterValuesResponse F) × ValueStream F)
  | 0, s => some ([], s)
  | n + 1, s => do
    let (responses, s) ← meterResponses fuel registers n s
    let (response, s) ←
      meterFillCommunicationValues fuel { s with stack.registers := registers n }
    some (responses ++ [response], s)

/-! ### The values of a table -/

/-- The register that an entry stands for, if it is in the register set. -/
def MeterDefinition.registerName (d : MeterDefinition) : Option RegisterName :=
  match d.registerSetAddress with
  | some (.registerSet name) => some name
  | _ => none

theorem isSome_registerName (d : MeterDefinition) :
    d.registerName.isSome = d.inRegisterSet := by
  unfold MeterDefinition.registerName MeterDefinition.inRegisterSet
  rcases d.registerSetAddress with - | (name | i | i | i) <;> rfl

/-- The entries of the register set, from the `i`-th entry of the table on. -/
def Meter.valuesFrom (m : Meter F) (i : ℕ) : List RegisterName :=
  ((m.currentMeter.getD []).drop i).filterMap MeterDefinition.registerName

/-- All entries of the register set, also those behind the stop marker. -/
def Meter.values (m : Meter F) : List RegisterName := m.valuesFrom 0

/-- The sizes are those of the table, which has at most 255 entries: they are
`uint8_t`. -/
structure Meter.Sized (m : Meter F) : Prop where
  definitionSize : m.currentMeterDefinitionSize = (m.currentMeter.getD []).length
  size : m.currentMeterSize = m.values.length
  fits : (m.currentMeter.getD []).length < 2 ^ 8

variable {m : Meter F}

theorem length_filterMap_registerName (table : List MeterDefinition) :
    (table.filterMap MeterDefinition.registerName).length =
      (table.filter MeterDefinition.inRegisterSet).length := by
  rw [List.length_filterMap_eq_countP, ← List.countP_eq_length_filter]
  exact List.countP_congr fun d _ => by rw [isSome_registerName]

/-- `meter_update_size` leaves the sizes of the table. -/
theorem sized_meterUpdateSize (hfits : (m.currentMeter.getD []).length < 2 ^ 8) :
    (meterUpdateSize m).Sized := by
  unfold meterUpdateSize
  cases htable : m.currentMeter with
  | none => exact ⟨rfl, rfl, (by decide : 0 < 2 ^ 8)⟩
  | some table =>
    rw [htable] at hfits
    exact ⟨rfl, (length_filterMap_registerName table).symm, hfits⟩

/-- The tables of all meters are short enough. -/
theorem length_table_lt (type : MeterType) : (type.table.getD []).length < 2 ^ 8 := by
  cases type <;> decide

theorem sized_meterSetMeterType (now : ℕ) (type : MeterType) (s : Stack F) :
    (meterSetMeterType now type s).meter.Sized := by
  have hsized := sized_meterUpdateSize (m := { s.meter with
    type := type, slaveAddress := type.slaveAddress, currentMeter := type.table })
    (length_table_lt type)
  exact ⟨hsized.definitionSize, hsized.size, hsized.fits⟩

namespace Meter.Sized

theorem valuesFrom_of_le {i : ℕ} (h : (m.currentMeter.getD []).length ≤ i) :
    m.valuesFrom i = [] := by
  rw [Meter.valuesFrom, List.drop_eq_nil_of_le h, List.filterMap_nil]

/-- An entry either is the next value or is skipped. -/
theorem valuesFrom_lt {i : ℕ} (h : i < (m.currentMeter.getD []).length) :
    m.valuesFrom i = (m.definition i).registerName.toList ++ m.valuesFrom (i + 1) := by
  have hdef : m.definition i = (m.currentMeter.getD [])[i] := by
    rw [Meter.definition, List.getD_eq_getElem?_getD, List.getElem?_eq_getElem h, Option.getD_some]
  rw [Meter.valuesFrom, Meter.valuesFrom, List.drop_eq_getElem_cons h, List.filterMap_cons, ← hdef]
  cases (m.definition i).registerName <;> rfl

theorem definitionSize_lt (h : m.Sized) : m.currentMeterDefinitionSize < 2 ^ 8 :=
  h.definitionSize ▸ h.fits

theorem length_valuesFrom_le (i : ℕ) : (m.valuesFrom i).length ≤ m.values.length :=
  ((List.drop_sublist i _).filterMap _).length_le

theorem size_lt (h : m.Sized) : m.currentMeterSize < 2 ^ 8 := by
  have hle : m.values.length ≤ (m.currentMeter.getD []).length :=
    (List.length_filterMap_le _ _).trans (List.length_drop ▸ Nat.sub_le _ _)
  have hfits := h.fits
  rw [h.size]
  omega

/-- The counting loop arrives at the number of values. -/
theorem countValues (h : m.Sized) {fuel i size : ℕ} (hi : i ≤ m.currentMeterDefinitionSize)
    (hfuel : m.currentMeterDefinitionSize < i + fuel)
    (hsize : size + (m.valuesFrom i).length = m.values.length) :
    meterCountValues m fuel i size = some m.currentMeterSize := by
  have hfits := h.definitionSize_lt
  have hcount := h.size ▸ h.size_lt
  induction fuel generalizing i size with
  | zero => omega
  | succ fuel ih =>
    by_cases hlt : i < m.currentMeterDefinitionSize
    · rw [meterCountValues, if_pos hlt]
      dsimp only
      rw [Nat.mod_eq_of_lt (show i + 1 < 2 ^ 8 by omega)]
      rw [valuesFrom_lt (h.definitionSize ▸ hlt), List.length_append] at hsize
      apply ih (show i + 1 ≤ m.currentMeterDefinitionSize from hlt) (by omega)
      rw [← isSome_registerName]
      cases hname : (m.definition i).registerName with
      | none =>
        rw [hname] at hsize
        simpa using hsize
      | some name =>
        rw [hname] at hsize
        rw [Option.isSome_some, if_pos rfl, Nat.mod_eq_of_lt]
        · simp only [Option.toList_some, List.length_singleton] at hsize
          omega
        · simp only [Option.toList_some, List.length_singleton] at hsize
          omega
    · rw [meterCountValues, if_neg hlt, h.size, ← hsize,
        valuesFrom_of_le (h.definitionSize ▸ Nat.le_of_not_lt hlt)]
      rfl

variable [CFloat F] (registers : MeterRegisterSet F)

/-- The cursor moves on to the next value. -/
theorem nextValue (h : m.Sized) {fuel index : ℕ} {name : RegisterName} {rest : List RegisterName}
    (hfuel : m.currentMeterDefinitionSize < index + fuel)
    (hnext : m.valuesFrom index = name :: rest) :
    ∃ index', meterNextValue m registers fuel index = some (registers name, index') ∧
      m.valuesFrom index' = rest := by
  have hfits := h.definitionSize_lt
  have hinside (i : ℕ) (hi : m.valuesFrom i = name :: rest) : i < m.currentMeterDefinitionSize := by
    apply Nat.lt_of_not_le
    intro hle
    rw [valuesFrom_of_le (h.definitionSize ▸ hle)] at hi
    cases hi
  induction fuel generalizing index with
  | zero =>
    have hlt := hinside index hnext
    omega
  | succ fuel ih =>
    have hlt := hinside index hnext
    have hstep := valuesFrom_lt (h.definitionSize ▸ hlt)
    rw [hnext, MeterDefinition.registerName] at hstep
    rw [meterNextValue, if_neg (Nat.not_le.mpr hlt), Nat.mod_eq_of_lt (show index + 1 < 2 ^ 8 by omega)]
    split at hstep
    · rename_i name' haddress
      obtain ⟨rfl, hrest⟩ := List.cons_eq_cons.mp hstep
      exact ⟨index + 1, rfl, hrest.symm⟩
    · exact ih (by omega) hstep.symm

/-- The loop of a call stores the next values. -/
theorem copyValues (h : m.Sized) {copyNum fuel i index : ℕ} (hi : i ≤ copyNum)
    (hcopy : copyNum < 2 ^ 8) (hfuel : copyNum < i + fuel)
    (hleft : copyNum - i ≤ (m.valuesFrom index).length) :
    ∃ index', meterCopyValues m registers copyNum fuel i index =
        some (((m.valuesFrom index).take (copyNum - i)).map registers, index') ∧
      m.valuesFrom index' = (m.valuesFrom index).drop (copyNum - i) := by
  induction fuel generalizing i index with
  | zero => omega
  | succ fuel ih =>
    by_cases hlt : i < copyNum
    · obtain ⟨name, rest, hnext⟩ : ∃ name rest, m.valuesFrom index = name :: rest := by
        apply List.exists_cons_of_length_pos
        omega
      -- a value is left, so there is a meter with values
      have hguard : ¬ (m.currentMeter.isNone || decide (m.currentMeterSize = 0)) = true := by
        rw [Bool.or_eq_true, decide_eq_true_iff, Option.isNone_iff_eq_none, not_or]
        constructor
        · intro hnone
          rw [Meter.valuesFrom, hnone, Option.getD_none, List.drop_nil] at hnext
          cases hnext
        · have hle := length_valuesFrom_le (m := m) index
          rw [hnext, List.length_cons] at hle
          have hsize := h.size
          omega
      have hfits := h.definitionSize_lt
      obtain ⟨index₁, hvalue, hrest⟩ :=
        h.nextValue registers (show _ < index + 2 ^ 8 by omega) hnext
      rw [hnext, List.length_cons] at hleft
      obtain ⟨index₂, hvalues, hrest₂⟩ :=
        ih (show i + 1 ≤ copyNum from hlt) (by omega)
          (show copyNum - (i + 1) ≤ (m.valuesFrom index₁).length by rw [hrest]; omega)
      -- one value for this turn of the loop, the rest by the induction
      have hcount : copyNum - i = copyNum - (i + 1) + 1 := by omega
      refine ⟨index₂, ?_, by rw [hrest₂, hrest, hnext, hcount]; rfl⟩
      rw [meterCopyValues, if_pos hlt, meterGetNextValue, if_neg hguard, hvalue]
      show (do let (values, index) ← meterCopyValues m registers copyNum fuel ((i + 1) % 2 ^ 8) index₁
               some (registers name :: values, index)) = _
      rw [Nat.mod_eq_of_lt (show i + 1 < 2 ^ 8 by omega), hvalues, hrest, hnext, hcount]
      rfl
    · have hdone : copyNum - i = 0 := by omega
      refine ⟨index, ?_, by rw [hdone]; rfl⟩
      rw [meterCopyValues, if_neg hlt, hdone]
      rfl

end Meter.Sized

/-! ### One response -/

namespace ValueStream

variable [CFloat F] {s s' : ValueStream F} {k : ℕ}

/-- The response with the `k`-th chunk. -/
def chunk (s : ValueStream F) (k : ℕ) : GenericMeterValuesResponse F where
  valuesLength := s.stack.meter.currentMeterSize
  valuesChunkOffset := packetLength * k
  valuesChunkData :=
    ((s.stack.meter.values.drop (packetLength * k)).take packetLength).map s.stack.registers

/-- The stream is in front of its `k`-th chunk.  In front of the first one the cursor
does not matter. -/
structure At (k : ℕ) (s : ValueStream F) : Prop where
  packet : s.packetPayloadIndex = k
  cursor : k = 0 ∨ packetLength * k < s.stack.meter.currentMeterSize ∧
    s.stack.meter.valuesFrom s.currentMeterIndex = s.stack.meter.values.drop (packetLength * k)

/-- **One call** sends its chunk and leaves the stream in front of the next one, or
where it starts again. -/
theorem fill_at {fuel : ℕ} (hsized : s.stack.meter.Sized) (hfuel : packetLength < fuel)
    (h : s.At k) :
    ∃ s', meterFillCommunicationValues fuel s = some (s.chunk k, s') ∧ s'.stack = s.stack ∧
      s'.At (if packetLength * (k + 1) < s.stack.meter.currentMeterSize then k + 1 else 0) := by
  have hsize := hsized.size_lt
  have hpacket := h.packet
  -- the call starts at the cursor, or from the front with packet 0
  have hcursor : s.stack.meter.valuesFrom (if s.packetPayloadIndex = 0 then 0 else s.currentMeterIndex) =
      s.stack.meter.values.drop (packetLength * k) := by
    rw [hpacket]
    rcases h.cursor with rfl | ⟨hlt, hcursor⟩
    · rfl
    · rcases Nat.eq_zero_or_pos k with rfl | hk
      · rfl
      · rw [if_neg (Nat.pos_iff_ne_zero.mp hk), hcursor]
  have hstart : packetLength * k ≤ s.stack.meter.currentMeterSize := by
    rcases h.cursor with rfl | ⟨hlt, -⟩
    · exact Nat.zero_le _
    · exact hlt.le
  generalize hindex : (if s.packetPayloadIndex = 0 then 0 else s.currentMeterIndex) = index at hcursor
  generalize hnext : (if packetLength * (k + 1) < s.stack.meter.currentMeterSize then k + 1 else 0) =
    next
  have hmore (hlt : packetLength * (k + 1) < s.stack.meter.currentMeterSize) : next = k + 1 := by
    rw [← hnext, if_pos hlt]
  have hlast (hle : ¬ packetLength * (k + 1) < s.stack.meter.currentMeterSize) : next = 0 := by
    rw [← hnext, if_neg hle]
  have hleft : (s.stack.meter.valuesFrom index).length =
      s.stack.meter.currentMeterSize - packetLength * k := by
    rw [hcursor, List.length_drop, ← hsized.size]
  simp only [packetLength] at hstart hleft hcursor hfuel hmore hlast ⊢
  -- none of the counters wraps: there are less than 256 values
  have hmod : s.packetPayloadIndex * 15 % 2 ^ 16 = 15 * k := by
    rw [hpacket, Nat.mod_eq_of_lt] <;> omega
  have hend : min (15 * k + 15) s.stack.meter.currentMeterSize % 2 ^ 16 =
      min (15 * k + 15) s.stack.meter.currentMeterSize := Nat.mod_eq_of_lt (by omega)
  have hcopy : (min (15 * k + 15) s.stack.meter.currentMeterSize + 2 ^ 16 - 15 * k) % 2 ^ 16 =
      min 15 (s.stack.meter.currentMeterSize - 15 * k) := by omega
  -- the loop copies a whole chunk, or what is left
  obtain ⟨index', hvalues, hrest⟩ :=
    hsized.copyValues s.stack.registers
      (Nat.zero_le (min 15 (s.stack.meter.currentMeterSize - 15 * k))) (by omega)
      (show _ < 0 + fuel by omega) (show _ ≤ (s.stack.meter.valuesFrom index).length by omega)
  refine ⟨{ s with
    currentMeterIndex := index'
    packetPayloadIndex := next }, ?_, rfl, rfl, ?_⟩
  · have hdata : ((s.stack.meter.values.drop (15 * k)).take 15).map s.stack.registers =
        ((s.stack.meter.valuesFrom index).take
          (min 15 (s.stack.meter.currentMeterSize - 15 * k) - 0)).map s.stack.registers := by
      rw [Nat.sub_zero, ← hleft, hcursor, List.take_eq_take_min]
    have hpackets : (if min (15 * k + 15) s.stack.meter.currentMeterSize <
          s.stack.meter.currentMeterSize then (s.packetPayloadIndex + 1) % 2 ^ 32 else 0) = next := by
      rw [hpacket]
      by_cases hlt : 15 * (k + 1) < s.stack.meter.currentMeterSize
      · rw [hmore hlt, if_pos (by omega)]
        omega
      · rw [hlast hlt, if_neg (by omega)]
    simp only [meterFillCommunicationValues, packetLength, hmod, hend, hcopy, hindex, hpackets]
    rw [hvalues, chunk]
    simp only [packetLength, hdata]
    rfl
  · by_cases hlt : 15 * (k + 1) < s.stack.meter.currentMeterSize
    · have hwhole : min 15 (s.stack.meter.currentMeterSize - 15 * k) - 0 = 15 := by omega
      rw [hmore hlt]
      refine Or.inr ⟨hlt, ?_⟩
      show s.stack.meter.valuesFrom index' = s.stack.meter.values.drop (15 * (k + 1))
      rw [hrest, hcursor, List.drop_drop, hwhole, Nat.mul_succ]
    · exact Or.inl (hlast hlt)

/-! ### A whole pass -/

/-- The number of responses of a pass; a meter without values sends an empty one. -/
def chunks (s : ValueStream F) : ℕ := (s.stack.meter.currentMeterSize - 1) / packetLength + 1

omit [CFloat F] in
theorem lt_chunks (n : ℕ) :
    n + 1 < s.chunks ↔ packetLength * (n + 1) < s.stack.meter.currentMeterSize := by
  simp only [chunks, packetLength]
  omega

/-- The first `n` responses of a pass.  Behind the last one the stream starts again. -/
theorem responses_at {fuel n : ℕ} (registers : ℕ → MeterRegisterSet F)
    (hsized : s.stack.meter.Sized) (hfuel : packetLength < fuel) (h : s.At 0) (hn : n ≤ s.chunks) :
    ∃ s', meterResponses fuel registers n s =
        some ((List.range n).map fun k => chunk { s with stack.registers := registers k } k, s') ∧
      s'.stack.meter = s.stack.meter ∧ s'.At (if n < s.chunks then n else 0) := by
  induction n with
  | zero => exact ⟨s, rfl, rfl, by rwa [ite_self]⟩
  | succ n ih =>
    obtain ⟨s₁, hresponses, hmeter, hat⟩ := ih (by omega)
    rw [if_pos (show n < s.chunks by omega)] at hat
    obtain ⟨s₂, hfill, hstack, hat₂⟩ :=
      fill_at (s := { s₁ with stack.registers := registers n }) (hmeter ▸ hsized) hfuel
        ⟨hat.packet, hat.cursor⟩
    have hchunk : chunk { s₁ with stack.registers := registers n } n =
        chunk { s with stack.registers := registers n } n := by
      simp only [chunk, hmeter]
    refine ⟨s₂, ?_, by rw [hstack]; exact hmeter, ?_⟩
    · rw [meterResponses, hresponses, Option.bind_eq_bind, Option.bind_some]
      dsimp only
      rw [hfill, hchunk, List.range_succ, List.map_append]
      rfl
    · dsimp only at hat₂
      rwa [hmeter, ← if_congr (lt_chunks n) rfl rfl] at hat₂

/-- The parts of a list that the chunks of a pass hold. -/
theorem flatMap_chunks {α : Type} (xs : List α) (n : ℕ) :
    ((List.range n).flatMap fun k => (xs.drop (packetLength * k)).take packetLength) =
      xs.take (packetLength * n) := by
  induction n with
  | zero => rfl
  | succ n ih =>
    rw [List.range_succ, List.flatMap_append, ih, List.flatMap_singleton, Nat.mul_succ, List.take_add]

end ValueStream

/-- **All values.**  The tables of all meters fit the `uint8_t` sizes, and for every
table that does, a pass from packet index 0 on sends one chunk of 15 after the other.
The chunk at offset `15 * k` has the values of the 15 entries of the register set from
there on, in the order of the table and as they are when it is sent, and together the
chunks have all of them.  Behind the pass the stream is where it was. -/
theorem values_complete [CFloat F] :
    (∀ type : MeterType, (type.table.getD []).length < 2 ^ 8) ∧
    ∀ m : Meter F, (m.currentMeter.getD []).length < 2 ^ 8 →
      ∀ s : ValueStream F, s.stack.meter = meterUpdateSize m → s.packetPayloadIndex = 0 →
      ∀ registers : ℕ → MeterRegisterSet F,
        ∃ responses s',
          meterResponses (2 ^ 8) registers s.chunks s = some (responses, s') ∧
          responses.map (·.valuesChunkOffset) = (List.range s.chunks).map (15 * ·) ∧
          (∀ response ∈ responses,
            meterCountValues s.stack.meter (2 ^ 8) 0 0 = some response.valuesLength) ∧
          (responses.map (·.valuesChunkData) = (List.range s.chunks).map fun k =>
            ((m.values.drop (15 * k)).take 15).map (registers k)) ∧
          (List.range s.chunks).flatMap (fun k => (m.values.drop (15 * k)).take 15) =
            (m.currentMeter.getD []).filterMap MeterDefinition.registerName ∧
          s'.stack.meter = s.stack.meter ∧ s'.packetPayloadIndex = 0 ∧
          ∃ response s'', meterFillCommunicationValues (2 ^ 8) s' = some (response, s'') ∧
            response.valuesChunkOffset = 0 := by
  refine ⟨length_table_lt, fun m hfits s hmeter hpacket registers => ?_⟩
  have hsized : s.stack.meter.Sized := by
    rw [hmeter]
    exact sized_meterUpdateSize hfits
  have hvalues : s.stack.meter.values = m.values := by
    rw [hmeter, Meter.values, Meter.values, Meter.valuesFrom, Meter.valuesFrom]
    unfold meterUpdateSize
    split <;> simp_all
  -- all chunks of the pass, and the stream stands at the front again
  obtain ⟨s', hresponses, hmeter', hat⟩ :=
    ValueStream.responses_at registers hsized (show packetLength < 2 ^ 8 by decide)
      ⟨hpacket, Or.inl rfl⟩ le_rfl
  rw [if_neg (lt_irrefl _)] at hat
  obtain ⟨s'', hfill, -, -⟩ :=
    ValueStream.fill_at (hmeter' ▸ hsized) (show packetLength < 2 ^ 8 by decide) hat
  refine ⟨_, s', hresponses, ?_, ?_, ?_, ?_, hmeter', hat.packet, _, s'', hfill, rfl⟩
  · rw [List.map_map]
    rfl
  · intro response hmem
    obtain ⟨k, -, rfl⟩ := List.mem_map.mp hmem
    have hlt := hsized.definitionSize_lt
    exact hsized.countValues (Nat.zero_le _) (by omega) (Nat.zero_add _)
  · rw [List.map_map, ← hvalues]
    rfl
  · -- the last chunk may be short, but nothing comes behind it
    have hwhole : s.stack.meter.values.length ≤ 15 * s.chunks := by
      rw [← hsized.size]
      simp only [ValueStream.chunks, packetLength]
      omega
    rw [hvalues] at hwhole
    exact (ValueStream.flatMap_chunks _ _).trans (List.take_of_length_le hwhole)

/-- An SDM630 that has just been found. -/
def foundStream : ValueStream ExactFloat :=
  ⟨meterSetMeterType 0 .sdm630 (stackInit 64 16 0), 0, 0⟩

/-- Its 76 values go out in six responses, the last of them with one value. -/
theorem values_complete_sdm630 : foundStream.chunks = 6 ∧
    ∃ responses s', meterResponses (2 ^ 8) (fun k _ => ⟨some k⟩) 6 foundStream =
        some (responses, s') ∧
      responses.map (·.valuesChunkOffset) = (List.range 6).map (15 * ·) ∧
      responses.map (·.valuesChunkData) =
        (List.range 5).map (fun k => List.replicate 15 ⟨some (k : ℚ)⟩) ++ [[⟨some 5⟩]] := by
  have hchunks : foundStream.chunks = 6 := by decide
  have hcomplete := values_complete.2 { foundStream.stack.meter with
      currentMeter := some meterSdm630, currentMeterSize := 0, currentMeterDefinitionSize := 0 }
    (by decide) foundStream rfl rfl fun k _ => ⟨some k⟩
  rw [hchunks] at hcomplete
  obtain ⟨responses, s', hresponses, hoffsets, -, hdata, -⟩ := hcomplete
  exact ⟨hchunks, responses, s', hresponses, hoffsets, hdata⟩

/-! ### The meter changes -/

/-- What happens to the stream of the values. -/
inductive ValueEvent
  | init (now : ℕ)
  | setMeterType (now : ℕ) (type : MeterType)
  | fill
  deriving DecidableEq

namespace ValueStream

section Runs

variable [CFloat F] {s s' : ValueStream F} {e : ValueEvent}

/-- `none` if the call does not return: a loop of `meter_fill_communication_values`
that has not ended when its counter starts again never does. -/
def step (s : ValueStream F) : ValueEvent → Option (ValueStream F)
  | .init now => some { s with stack := meterInit now s.stack, currentMeterIndex := 0 }
  | .setMeterType now type => some { s with stack := meterSetMeterType now type s.stack }
  | .fill => (meterFillCommunicationValues (2 ^ 8) s).map Prod.snd

/-- The call returns and has stored at most 15 values. -/
def Fills (s : ValueStream F) : Prop :=
  ∃ fuel response s', meterFillCommunicationValues fuel s = some (response, s') ∧
    response.valuesChunkData.length ≤ packetLength

/-- The packet index is behind none of the values there are now. -/
def InFront (s : ValueStream F) : Prop :=
  s.packetPayloadIndex * packetLength ≤ s.stack.meter.currentMeterSize

instance (s : ValueStream F) : Decidable s.InFront := inferInstanceAs (Decidable (_ ≤ _))

/-- What bounds the stream, whatever happens to the meter. -/
structure Bounded (s : ValueStream F) : Prop where
  packet : s.packetPayloadIndex * packetLength < 2 ^ 8
  size : s.stack.meter.currentMeterSize < 2 ^ 8
  definitionSize : s.stack.meter.currentMeterDefinitionSize < 2 ^ 8

/-- A value is found, or the end of the table. -/
theorem nextValue_isSome {m : Meter F} {registers : MeterRegisterSet F} {fuel index : ℕ}
    (h : m.currentMeterDefinitionSize < 2 ^ 8) (hfuel : m.currentMeterDefinitionSize < index + fuel)
    (hpos : 0 < fuel) : ∃ p, meterNextValue m registers fuel index = some p := by
  induction fuel generalizing index with
  | zero => omega
  | succ fuel ih =>
    rw [meterNextValue]
    split_ifs with hend
    · exact ⟨_, rfl⟩
    · rw [Nat.mod_eq_of_lt (show index + 1 < 2 ^ 8 by omega)]
      split
      · exact ⟨_, rfl⟩
      · exact ih (by omega) (by omega)

theorem copyValues_isSome {m : Meter F} {copyNum fuel i : ℕ} (registers : MeterRegisterSet F)
    (h : m.currentMeterDefinitionSize < 2 ^ 8) (hcopy : copyNum < 2 ^ 8) (index : ℕ) (hi : i ≤ copyNum)
    (hfuel : copyNum < i + fuel) :
    ∃ values index', meterCopyValues m registers copyNum fuel i index = some (values, index') ∧
      values.length = copyNum - i := by
  induction fuel generalizing i index with
  | zero => omega
  | succ fuel ih =>
    by_cases hlt : i < copyNum
    · obtain ⟨⟨value, index₁⟩, hvalue⟩ : ∃ p, meterGetNextValue m registers index = some p := by
        unfold meterGetNextValue
        split_ifs
        · exact ⟨_, rfl⟩
        · exact nextValue_isSome h (by omega) (by decide)
      obtain ⟨values, index₂, hvalues, hlength⟩ := ih index₁ hlt (by omega)
      refine ⟨value :: values, index₂, ?_, by rw [List.length_cons, hlength]; omega⟩
      rw [meterCopyValues, if_pos hlt, hvalue, Option.bind_eq_bind, Option.bind_some]
      dsimp only
      rw [Nat.mod_eq_of_lt (show i + 1 < 2 ^ 8 by omega), hvalues]
      rfl
    · exact ⟨[], index, by rw [meterCopyValues, if_neg hlt], by simp; omega⟩

/-- The 8-bit counter does not reach a larger number. -/
theorem copyValues_none {m : Meter F} {registers : MeterRegisterSet F} {copyNum : ℕ}
    (hcopy : 2 ^ 8 ≤ copyNum) (fuel : ℕ) {i : ℕ} (hi : i < 2 ^ 8) (index : ℕ) :
    meterCopyValues m registers copyNum fuel i index = none := by
  induction fuel generalizing i index with
  | zero => rfl
  | succ fuel ih =>
    rw [meterCopyValues, if_pos (by omega)]
    cases meterGetNextValue m registers index with
    | none => rfl
    | some p =>
      rw [Option.bind_eq_bind, Option.bind_some]
      dsimp only
      rw [ih (Nat.mod_lt _ (by decide))]
      rfl

omit [CFloat F] in
/-- The number of values that a call copies: in front of the end at most 15, behind it
`end - start` is negative. -/
theorem fill_copyNum (h : s.Bounded) :
    let start := s.packetPayloadIndex * packetLength % 2 ^ 16
    let copyNum :=
      (min (start + packetLength) s.stack.meter.currentMeterSize % 2 ^ 16 + 2 ^ 16 - start) % 2 ^ 16
    (s.InFront → copyNum ≤ packetLength) ∧ (¬ s.InFront → 2 ^ 8 ≤ copyNum) := by
  have hpacket := h.packet
  have hsize := h.size
  simp only [packetLength] at hpacket
  simp only [InFront, packetLength]
  constructor <;> intro hfront <;> omega

/-- **One call** returns exactly in front of the end. -/
theorem fills_iff (h : s.Bounded) : s.Fills ↔ s.InFront := by
  obtain ⟨hshort, hlong⟩ := fill_copyNum h
  constructor
  · rintro ⟨fuel, response, s', hfill, -⟩
    by_contra hbehind
    unfold meterFillCommunicationValues at hfill
    dsimp only at hfill
    rw [copyValues_none (hlong hbehind) fuel (by decide)] at hfill
    cases hfill
  · intro hfront
    have hcopy := hshort hfront
    obtain ⟨values, index', hvalues, hlength⟩ :=
      copyValues_isSome s.stack.registers h.definitionSize
        (hcopy.trans_lt (by decide)) (if s.packetPayloadIndex = 0 then 0 else s.currentMeterIndex)
        (Nat.zero_le _) ((hcopy.trans_lt (by decide)).trans_eq (Nat.zero_add (2 ^ 8)).symm)
    have hfill : ∃ response s', meterFillCommunicationValues (2 ^ 8) s = some (response, s') ∧
        response.valuesChunkData = values := by
      unfold meterFillCommunicationValues
      dsimp only
      rw [hvalues]
      exact ⟨_, _, rfl, rfl⟩
    obtain ⟨response, s', hfill, hdata⟩ := hfill
    refine ⟨2 ^ 8, response, s', hfill, ?_⟩
    rw [hdata, hlength]
    exact hcopy

theorem init_bounded (bufferSize txFifoSize now : ℕ) :
    Bounded (F := F) ⟨stackInit bufferSize txFifoSize now, 0, 0⟩ where
  packet := (by decide : 0 * packetLength < 2 ^ 8)
  size := (by decide : 0 < 2 ^ 8)
  definitionSize := (by decide : 0 < 2 ^ 8)

theorem step_bounded (h : s.Bounded) (hs : s.step e = some s') : s'.Bounded := by
  cases e with
  | init now =>
    obtain rfl := Option.some.inj hs
    exact ⟨h.packet, (by decide : 0 < 2 ^ 8), (by decide : 0 < 2 ^ 8)⟩
  | setMeterType now type =>
    obtain rfl := Option.some.inj hs
    have hsized := sized_meterSetMeterType now type s.stack
    exact ⟨h.packet, hsized.size_lt, hsized.definitionSize_lt⟩
  | fill =>
    obtain ⟨⟨response, s₁⟩, hfill, rfl⟩ := Option.map_eq_some_iff.mp hs
    unfold meterFillCommunicationValues at hfill
    dsimp only at hfill
    obtain ⟨⟨values, index⟩, -, hfill⟩ := Option.bind_eq_some_iff.mp hfill
    obtain ⟨-, rfl⟩ := Prod.mk.inj (Option.some.inj hfill)
    refine ⟨?_, h.size, h.definitionSize⟩
    have hpacket := h.packet
    have hsize := h.size
    simp only [packetLength] at hpacket
    show (if min (s.packetPayloadIndex * 15 % 2 ^ 16 + 15) s.stack.meter.currentMeterSize % 2 ^ 16 <
      s.stack.meter.currentMeterSize then (s.packetPayloadIndex + 1) % 2 ^ 32 else 0) * 15 < 2 ^ 8
    -- the packet index times 15 stays below the number of values
    have hstart : s.packetPayloadIndex * 15 % 2 ^ 16 = s.packetPayloadIndex * 15 :=
      Nat.mod_eq_of_lt (by omega)
    have hend : min (s.packetPayloadIndex * 15 + 15) s.stack.meter.currentMeterSize % 2 ^ 16 =
        min (s.packetPayloadIndex * 15 + 15) s.stack.meter.currentMeterSize :=
      Nat.mod_eq_of_lt (by omega)
    rw [hstart, hend]
    split_ifs with hmore
    · rw [Nat.mod_eq_of_lt (show s.packetPayloadIndex + 1 < 2 ^ 32 by omega)]
      omega
    · decide

end Runs

end ValueStream

open ValueStream in
/-- **Changing meters.**  In every run of initialisations, found meters and calls, all
calls return with at most 15 values exactly if at none of them the packet index is
behind the values of the current meter. -/
theorem values_terminate [CFloat F] (bufferSize txFifoSize now : ℕ) (es : List ValueEvent) :
    (∀ pre post s, es = pre ++ .fill :: post →
        run ValueStream.step (⟨stackInit bufferSize txFifoSize now, 0, 0⟩ : ValueStream F) pre = some s →
        s.Fills) ↔
      Meets ValueStream.step (fun s e => e = .fill → s.InFront)
        (⟨stackInit bufferSize txFifoSize now, 0, 0⟩ : ValueStream F) es := by
  have hbounded {pre : List ValueEvent} {s : ValueStream F}
      (hr : run ValueStream.step ⟨stackInit bufferSize txFifoSize now, 0, 0⟩ pre = some s) : s.Bounded :=
    run_induct (fun _ _ _ h hs => step_bounded h hs) (init_bounded bufferSize txFifoSize now) hr
  rw [meets_iff_next]
  constructor
  · rintro h pre e post s hsplit hr rfl
    exact (fills_iff (hbounded hr)).mp (h pre post s hsplit hr)
  · intro h pre post s hsplit hr
    exact (fills_iff (hbounded hr)).mpr (h pre .fill post s hsplit hr rfl)

/-- A stream of an SDM630 is under way when the meter is initialised again: the
second call never returns. -/
theorem values_endless :
    ¬ ∀ es pre post s, es = pre ++ ValueEvent.fill :: post →
      run ValueStream.step (⟨stackInit 64 16 0, 0, 0⟩ : ValueStream ExactFloat) pre = some s →
      s.Fills := by
  intro h
  let start : ValueStream ExactFloat := ⟨stackInit 64 16 0, 0, 0⟩
  let pre : List ValueEvent := [.setMeterType 0 .sdm630, .fill, .init 1]
  have hr : run ValueStream.step start pre = some (after ValueStream.step start pre) :=
    run_eq_after (by decide +kernel)
  have hbounded : (after ValueStream.step start pre).Bounded :=
    run_induct (fun _ _ _ h hs => ValueStream.step_bounded h hs)
      (ValueStream.init_bounded 64 16 0) hr
  have hfront := (ValueStream.fills_iff hbounded).mp (h _ pre [] _ rfl hr)
  revert hfront
  decide +kernel

end Bricklib2
