/-
Bricklib2/Warp/EltakoDerived.lean

The values of the DSZ15DZMOD that are not read but calculated, one per tick
(meter_eltako.c).  They have to come from the registers of this cycle alone, although
each is calculated from a register set that holds all kinds of older values.

For this meter the reactive powers of the phases are stored as `...IndCapSum`.  Their
sum is taken of `...IndCapDiff`, which the meter does not have.

Main result: `dsz15dzmod_derived_iff`, every other derived value is right.
-/
import Bricklib2.Warp.ExactFloat
import Bricklib2.Warp.MeterEltako
import Bricklib2.Warp.Transmission

namespace Bricklib2

variable {F : Type} [CFloat F]

/-! ### A pass -/

/-- The calls with states from `state` on, until one returns `false`; then the one with
state 0. -/
def eltakoPass (env : ℕ → TickEnv) : ℕ → ℕ → Stack F → Option (Stack F)
  | 0, _, _ => none
  | calls + 1, state, s =>
    match meterEltakoHandleRegisterSetReadDone (env state) state s with
    | some s' => eltakoPass env calls (state + 1) s'
    | none => meterEltakoHandleRegisterSetReadDone (env state) 0 s

/-- The registers of a table that are read. -/
def rawNames (table : List MeterDefinition) : List (Option RegisterAddress) :=
  (table.takeWhile fun d => d.registerAddress != 0).map MeterDefinition.registerSetAddress

/-- The fields behind the stop marker. -/
def derivedNames (table : List MeterDefinition) : List (Option RegisterAddress) :=
  ((table.dropWhile fun d => d.registerAddress != 0).drop 1).map MeterDefinition.registerSetAddress

/-! ### The formulas -/

/-- The phases of the line. -/
inductive LinePhase
  | l1
  | l2
  | l3

namespace LinePhase

/-- The register of the current of a phase. -/
def current : LinePhase → RegisterName
  | l1 => .currentL1ImExSum
  | l2 => .currentL2ImExSum
  | l3 => .currentL3ImExSum

/-- The register of the active power of a phase. -/
def powerActive : LinePhase → RegisterName
  | l1 => .powerActiveL1ImExDiff
  | l2 => .powerActiveL2ImExDiff
  | l3 => .powerActiveL3ImExDiff

/-- The register of the power factor of a phase. -/
def powerFactor : LinePhase → RegisterName
  | l1 => .powerFactorL1Directional
  | l2 => .powerFactorL2Directional
  | l3 => .powerFactorL3Directional

/-- The register of the apparent power of a phase. -/
def powerApparent : LinePhase → RegisterName
  | l1 => .powerApparentL1ImExSum
  | l2 => .powerApparentL2ImExSum
  | l3 => .powerApparentL3ImExSum

/-- The register of the reactive power of a phase. -/
def powerReactive : LinePhase → RegisterName
  | l1 => .powerReactiveL1IndCapSum
  | l2 => .powerReactiveL2IndCapSum
  | l3 => .powerReactiveL3IndCapSum

/-- The register of the phase angle of a phase. -/
def angle : LinePhase → RegisterName
  | l1 => .phaseAngleL1
  | l2 => .phaseAngleL2
  | l3 => .phaseAngleL3

end LinePhase

/-- The sum of a field over the phases. -/
def phaseSum (r : MeterRegisterSet F) (part : LinePhase → RegisterName) : F :=
  r (part .l1) + r (part .l2) + r (part .l3)

/-- What is calculated for the apparent power of a phase. -/
def phaseApparent (r : MeterRegisterSet F) (p : LinePhase) : F :=
  apparentPower (r p.powerFactor) (r p.powerActive)

/-- What is calculated for the reactive power of a phase. -/
def phaseReactive (r : MeterRegisterSet F) (p : LinePhase) : F :=
  reactivePower (r p.powerFactor) (phaseApparent r p) (r p.powerActive)

/-- What is calculated for the angle of a phase. -/
def phaseAngleOf (r : MeterRegisterSet F) (p : LinePhase) : F :=
  phaseAngle (phaseApparent r p) (r p.powerActive)

/-- What is calculated for the current of the neutral. -/
def neutralCurrent (r : MeterRegisterSet F) : F :=
  let l1 := r .currentL1ImExSum
  let l2 := r .currentL2ImExSum
  let l3 := r .currentL3ImExSum
  CFloat.simpleSqrtf (CFloat.fabsf (l1 * l1 + l2 * l2 + l3 * l3 - l1 * l2 - l1 * l3 - l2 * l3))

/-- The frequency in Hz, where the energy meter of the board has one. -/
def frequencyValue (env : TickEnv) : F :=
  match env.frequency with
  | some frequency => CFloat.ofInt frequency * CFloat.ofRat (1 / 1000)
  | none => CFloat.nan

/-- What a pass that begins in `s` leaves in the register set. -/
def derivedValue (env : ℕ → TickEnv) (s : Stack F) : MeterRegisterSet F := fun name =>
  let r := s.registers
  match name with
  | .powerApparentL1ImExSum => phaseApparent r .l1
  | .powerApparentL2ImExSum => phaseApparent r .l2
  | .powerApparentL3ImExSum => phaseApparent r .l3
  | .powerReactiveL1IndCapSum => phaseReactive r .l1
  | .powerReactiveL2IndCapSum => phaseReactive r .l2
  | .powerReactiveL3IndCapSum => phaseReactive r .l3
  | .phaseAngleL1 => phaseAngleOf r .l1
  | .phaseAngleL2 => phaseAngleOf r .l2
  | .phaseAngleL3 => phaseAngleOf r .l3
  | .currentNImExSum => neutralCurrent r
  | .voltageLNAvg => (r .voltageL1N + r .voltageL2N + r .voltageL3N) / CFloat.ofRat 3
  | .currentLAvgImExSum => phaseSum r LinePhase.current / CFloat.ofRat 3
  | .currentLSumImExSum => phaseSum r LinePhase.current
  | .powerApparentLSumImExSum =>
    phaseApparent r .l1 + phaseApparent r .l2 + phaseApparent r .l3
  -- not the reactive powers of the phases
  | .powerReactiveLSumIndCapSum =>
    r .powerReactiveL1IndCapDiff + r .powerReactiveL2IndCapDiff + r .powerReactiveL3IndCapDiff
  | .phaseAngleLSum => phaseAngleOf r .l1 + phaseAngleOf r .l2 + phaseAngleOf r .l3
  | .energyActiveLSumImExSum => r .energyActiveLSumImport + r .energyActiveLSumExport
  | .frequencyLAvg => frequencyValue (env 19)
  | .energyActiveLSumImportResettable => r .energyActiveLSumImport - s.meter.relativeEnergyImport
  | .energyActiveLSumExportResettable => r .energyActiveLSumExport - s.meter.relativeEnergyExport
  | .energyActiveLSumImExSumResettable =>
    r .energyActiveLSumImport + r .energyActiveLSumExport - s.meter.relativeEnergySum
  | _ => r name

variable {env : ℕ → TickEnv} {s s' t u : Stack F} {state calls : ℕ}

theorem handle_dsz15dzmod {e : TickEnv} (htype : s.meter.type = .dsz15Dzmod) (hstate : state ≠ 0) :
    meterEltakoHandleRegisterSetReadDone e state s = calculateDsz15dzmod e state s := by
  rw [meterEltakoHandleRegisterSetReadDone, if_neg hstate, if_pos htype]

/-- A call that has something to do. -/
theorem eltakoPass_some (htype : s.meter.type = .dsz15Dzmod) (hstate : state ≠ 0)
    (h : calculateDsz15dzmod (env state) state s = some s') :
    eltakoPass env (calls + 1) state s = eltakoPass env calls (state + 1) s' := by
  rw [eltakoPass, handle_dsz15dzmod htype hstate, h]

theorem eltakoPass_none (htype : s.meter.type = .dsz15Dzmod) (hstate : state ≠ 0)
    (h : calculateDsz15dzmod (env state) state s = none) :
    eltakoPass env (calls + 1) state s = some (meterHandleRegisterSetReadDone s) := by
  rw [eltakoPass, handle_dsz15dzmod htype hstate, h]
  rfl

/-- The nineteen calls one after the other. -/
theorem eltakoPass_registers (env : ℕ → TickEnv) (htype : s.meter.type = .dsz15Dzmod) :
    ∃ u, eltakoPass env 20 1 s = some u ∧ u.registers = derivedValue env s := by
  iterate 19 rw [eltakoPass_some (by exact htype) (by decide) rfl]
  refine ⟨_, eltakoPass_none (by exact htype) (by decide) rfl, ?_⟩
  funext name
  cases name <;> rfl

/-! ### What the values depend on -/

/-- The same meter, the same registers of this cycle and the same relative energies. -/
structure SameRaw (s t : Stack F) : Prop where
  type : t.meter.type = s.meter.type
  registers : ∀ name, some (.registerSet name) ∈ rawNames meterDsz15dzmod →
    t.registers name = s.registers name
  relativeEnergySum : t.meter.relativeEnergySum = s.meter.relativeEnergySum
  relativeEnergyImport : t.meter.relativeEnergyImport = s.meter.relativeEnergyImport
  relativeEnergyExport : t.meter.relativeEnergyExport = s.meter.relativeEnergyExport

omit [CFloat F] in
/-- The registers that a formula may use. -/
theorem SameRaw.register (h : SameRaw s t) {name : RegisterName}
    (hname : some (.registerSet name) ∈ rawNames meterDsz15dzmod) :
    t.registers name = s.registers name := h.registers name hname

/-- A sum over the phases, and what it is the sum of. -/
def sumOf : RegisterName → Option (LinePhase → RegisterName)
  | .currentLSumImExSum => some LinePhase.current
  | .powerApparentLSumImExSum => some LinePhase.powerApparent
  | .powerReactiveLSumIndCapSum => some LinePhase.powerReactive
  | .phaseAngleLSum => some LinePhase.angle
  | _ => none

/-- A derived value as it should be: whatever else the register set holds before the pass, it
comes out the same, and a sum over the phases is one of the values of the phases. -/
def DerivedFromRaw (env : ℕ → TickEnv) (s : Stack F) (name : RegisterName) : Prop :=
  ∃ u, eltakoPass env 20 1 s = some u ∧
    (∀ t, SameRaw s t → ∃ v, eltakoPass env 20 1 t = some v ∧ v.registers name = u.registers name) ∧
    ∀ part, sumOf name = some part → u.registers name = phaseSum u.registers part

theorem phaseApparent_congr (h : SameRaw s t) (p : LinePhase) :
    phaseApparent t.registers p = phaseApparent s.registers p := by
  have hfactor : t.registers p.powerFactor = s.registers p.powerFactor :=
    h.register (by cases p <;> decide)
  have hactive : t.registers p.powerActive = s.registers p.powerActive :=
    h.register (by cases p <;> decide)
  rw [phaseApparent, phaseApparent, hfactor, hactive]

theorem phaseReactive_congr (h : SameRaw s t) (p : LinePhase) :
    phaseReactive t.registers p = phaseReactive s.registers p := by
  have hfactor : t.registers p.powerFactor = s.registers p.powerFactor :=
    h.register (by cases p <;> decide)
  have hactive : t.registers p.powerActive = s.registers p.powerActive :=
    h.register (by cases p <;> decide)
  rw [phaseReactive, phaseReactive, phaseApparent_congr h, hfactor, hactive]

theorem phaseAngleOf_congr (h : SameRaw s t) (p : LinePhase) :
    phaseAngleOf t.registers p = phaseAngleOf s.registers p := by
  have hactive : t.registers p.powerActive = s.registers p.powerActive :=
    h.register (by cases p <;> decide)
  rw [phaseAngleOf, phaseAngleOf, phaseApparent_congr h, hactive]

omit [CFloat F] in
theorem phaseCurrent_congr (h : SameRaw s t) (p : LinePhase) :
    t.registers p.current = s.registers p.current := h.register (by cases p <;> decide)

theorem currentSum_congr (h : SameRaw s t) :
    phaseSum t.registers LinePhase.current = phaseSum s.registers LinePhase.current := by
  rw [phaseSum, phaseSum, phaseCurrent_congr h, phaseCurrent_congr h, phaseCurrent_congr h]

theorem energySum_congr (h : SameRaw s t) :
    t.registers .energyActiveLSumImport + t.registers .energyActiveLSumExport =
      s.registers .energyActiveLSumImport + s.registers .energyActiveLSumExport :=
  congrArg₂ (· + ·) (h.register (by decide)) (h.register (by decide))

/-- Each derived value but one is calculated from registers of this cycle. -/
theorem derivedValue_congr (h : SameRaw s t) {name : RegisterName}
    (hname : some (.registerSet name) ∈ derivedNames meterDsz15dzmod)
    (hne : name ≠ .powerReactiveLSumIndCapSum) :
    derivedValue env t name = derivedValue env s name := by
  cases name with
  | powerApparentL1ImExSum => exact phaseApparent_congr h .l1
  | powerApparentL2ImExSum => exact phaseApparent_congr h .l2
  | powerApparentL3ImExSum => exact phaseApparent_congr h .l3
  | powerReactiveL1IndCapSum => exact phaseReactive_congr h .l1
  | powerReactiveL2IndCapSum => exact phaseReactive_congr h .l2
  | powerReactiveL3IndCapSum => exact phaseReactive_congr h .l3
  | phaseAngleL1 => exact phaseAngleOf_congr h .l1
  | phaseAngleL2 => exact phaseAngleOf_congr h .l2
  | phaseAngleL3 => exact phaseAngleOf_congr h .l3
  | currentNImExSum =>
    show neutralCurrent t.registers = neutralCurrent s.registers
    have hcurrent := phaseCurrent_congr h
    unfold neutralCurrent
    rw [show t.registers .currentL1ImExSum = s.registers .currentL1ImExSum from hcurrent .l1,
      show t.registers .currentL2ImExSum = s.registers .currentL2ImExSum from hcurrent .l2,
      show t.registers .currentL3ImExSum = s.registers .currentL3ImExSum from hcurrent .l3]
  | voltageLNAvg =>
    show (t.registers .voltageL1N + t.registers .voltageL2N + t.registers .voltageL3N) /
      CFloat.ofRat 3 = (s.registers .voltageL1N + s.registers .voltageL2N +
        s.registers .voltageL3N) / CFloat.ofRat 3
    have hl1 : t.registers .voltageL1N = s.registers .voltageL1N := h.register (by decide)
    have hl2 : t.registers .voltageL2N = s.registers .voltageL2N := h.register (by decide)
    have hl3 : t.registers .voltageL3N = s.registers .voltageL3N := h.register (by decide)
    rw [hl1, hl2, hl3]
  | currentLAvgImExSum => exact congrArg (· / CFloat.ofRat 3) (currentSum_congr h)
  | currentLSumImExSum => exact currentSum_congr h
  | powerApparentLSumImExSum =>
    exact congrArg₂ (· + ·) (congrArg₂ (· + ·) (phaseApparent_congr h .l1)
      (phaseApparent_congr h .l2)) (phaseApparent_congr h .l3)
  | powerReactiveLSumIndCapSum => exact absurd rfl hne
  | phaseAngleLSum =>
    exact congrArg₂ (· + ·) (congrArg₂ (· + ·) (phaseAngleOf_congr h .l1)
      (phaseAngleOf_congr h .l2)) (phaseAngleOf_congr h .l3)
  | energyActiveLSumImExSum => exact energySum_congr h
  | frequencyLAvg => rfl
  | energyActiveLSumImportResettable =>
    exact congrArg₂ (· - ·) (h.register (by decide)) h.relativeEnergyImport
  | energyActiveLSumExportResettable =>
    exact congrArg₂ (· - ·) (h.register (by decide)) h.relativeEnergyExport
  | energyActiveLSumImExSumResettable =>
    exact congrArg₂ (· - ·) (energySum_congr h) h.relativeEnergySum
  | _ => exact absurd hname (by decide)

/-- The other sums over the phases add up what the pass has calculated. -/
theorem derivedValue_sum {name : RegisterName} (hne : name ≠ .powerReactiveLSumIndCapSum)
    {part : LinePhase → RegisterName} (hpart : sumOf name = some part) :
    derivedValue env s name = phaseSum (derivedValue env s) part := by
  cases name with
  | currentLSumImExSum | powerApparentLSumImExSum | phaseAngleLSum =>
    obtain rfl := Option.some.inj hpart
    rfl
  | powerReactiveLSumIndCapSum => exact absurd rfl hne
  | _ => cases hpart

/-- The register set with other values in fields that this meter does not have. -/
def Stack.withReactiveDiff (s : Stack F) (l1 l2 l3 : F) : Stack F :=
  { s with registers := Function.update (Function.update (Function.update s.registers
      .powerReactiveL1IndCapDiff l1) .powerReactiveL2IndCapDiff l2) .powerReactiveL3IndCapDiff l3 }

omit [CFloat F] in
theorem sameRaw_withReactiveDiff (l1 l2 l3 : F) : SameRaw s (s.withReactiveDiff l1 l2 l3) where
  type := rfl
  registers name hname := by
    cases name with
    | powerReactiveL1IndCapDiff | powerReactiveL2IndCapDiff | powerReactiveL3IndCapDiff =>
      exact absurd hname (by decide)
    | _ => rfl
  relativeEnergySum := rfl
  relativeEnergyImport := rfl
  relativeEnergyExport := rfl

/-- The sum of the reactive powers follows the fields that the pass never writes. -/
theorem not_derivedFromRaw_reactiveSum (hadd : ∃ a b x y : F, a + x + y ≠ b + x + y)
    (env : ℕ → TickEnv) (htype : s.meter.type = .dsz15Dzmod) :
    ¬ DerivedFromRaw env s .powerReactiveLSumIndCapSum := by
  rintro ⟨u, hu, hsame, -⟩
  have hstale (l1 l2 l3 : F) : l1 + l2 + l3 = u.registers .powerReactiveLSumIndCapSum := by
    obtain ⟨v, hv, hvalue⟩ := hsame _ (sameRaw_withReactiveDiff l1 l2 l3)
    obtain ⟨v', hv', hregs⟩ := eltakoPass_registers env (s := s.withReactiveDiff l1 l2 l3) htype
    obtain rfl := Option.some.inj (hv.symm.trans hv')
    rw [← hvalue, hregs]
    rfl
  obtain ⟨a, b, x, y, hne⟩ := hadd
  exact hne ((hstale a x y).trans (hstale b x y).symm)

/-- **Derived values**: where addition tells its first operands apart, a field behind the stop
marker is calculated from the registers of this cycle exactly if it is not the sum of the
reactive powers. -/
theorem dsz15dzmod_derived_iff (hadd : ∃ a b x y : F, a + x + y ≠ b + x + y)
    (env : ℕ → TickEnv) (htype : s.meter.type = .dsz15Dzmod) {name : RegisterName}
    (hname : some (.registerSet name) ∈ derivedNames meterDsz15dzmod) :
    DerivedFromRaw env s name ↔ name ≠ .powerReactiveLSumIndCapSum := by
  constructor
  · rintro hderived rfl
    exact not_derivedFromRaw_reactiveSum hadd env htype hderived
  · intro hne
    obtain ⟨u, hu, hregs⟩ := eltakoPass_registers env htype
    refine ⟨u, hu, fun t ht => ?_, fun part hpart => ?_⟩
    · obtain ⟨v, hv, hregs'⟩ := eltakoPass_registers env (ht.type.trans htype)
      exact ⟨v, hv, by rw [hregs', hregs, derivedValue_congr ht hname hne]⟩
    · rw [hregs]
      exact derivedValue_sum hne hpart

/-- A DSZ15DZMOD that has just been found. -/
def dsz15dzmodFound : Stack ExactFloat :=
  { stackInit 64 16 0 with
    meter := { (stackInit 64 16 0 : Stack ExactFloat).meter with type := .dsz15Dzmod } }

theorem exactFloat_add_ne : ∃ a b x y : ExactFloat, a + x + y ≠ b + x + y :=
  ⟨⟨some 0⟩, ⟨some 1⟩, ⟨some 0⟩, ⟨some 0⟩, by decide +kernel⟩

/-- The apparent powers and their sum. -/
theorem dsz15dzmod_derived_apparent :
    DerivedFromRaw idleEnv dsz15dzmodFound .powerApparentLSumImExSum :=
  (dsz15dzmod_derived_iff exactFloat_add_ne idleEnv rfl (by decide)).mpr (by decide)

/-- Not all derived values are calculated from registers of this cycle. -/
theorem dsz15dzmod_reactiveSum_stale :
    ¬ ∀ (env : ℕ → TickEnv) (s : Stack ExactFloat) (name : RegisterName),
      s.meter.type = .dsz15Dzmod → some (.registerSet name) ∈ derivedNames meterDsz15dzmod →
      DerivedFromRaw env s name := by
  intro h
  exact not_derivedFromRaw_reactiveSum exactFloat_add_ne idleEnv rfl
    (h idleEnv dsz15dzmodFound .powerReactiveLSumIndCapSum rfl (by decide))

end Bricklib2
