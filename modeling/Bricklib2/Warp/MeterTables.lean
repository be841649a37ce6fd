/-
Bricklib2/Warp/MeterTables.lean

The register tables of the supported meters (meter_*_def.inc).  A table lists
the registers that are read, then the stop marker, then values that are only
calculated.  Addresses are 1-based register numbers.
-/
import Bricklib2.Warp.MeterTypes

namespace Bricklib2

/-- A register that is read. -/
def register (registerAddress : ℕ) (registerSetAddress : RegisterAddress) (scaleFactor : ℚ)
    (registerDataType : MeterRegisterDataType) (fastRead : Bool) : MeterDefinition :=
  ⟨registerAddress, some registerSetAddress, scaleFactor, registerDataType, fastRead⟩

/-- `{0, &meter_register_set.name, 0, 0, false}` behind the stop marker. -/
def calculated (name : RegisterName) : MeterDefinition :=
  ⟨0, some (.registerSet name), 0, .float, false⟩

/-- SDM630, SDM630MCTV2 -/
def meterSdm630 : List MeterDefinition :=
  [ register 1 (.registerSet .voltageL1N) 1 .float false,
    register 3 (.registerSet .voltageL2N) 1 .float false,
    register 5 (.registerSet .voltageL3N) 1 .float false,
    register 7 (.registerSet .currentL1ImExSum) 1 .float true,
    register 9 (.registerSet .currentL2ImExSum) 1 .float true,
    register 11 (.registerSet .currentL3ImExSum) 1 .float true,
    register 13 (.registerSet .powerActiveL1ImExDiff) 1 .float false,
    register 15 (.registerSet .powerActiveL2ImExDiff) 1 .float false,
    register 17 (.registerSet .powerActiveL3ImExDiff) 1 .float false,
    register 19 (.registerSet .powerApparentL1ImExSum) 1 .float false,
    register 21 (.registerSet .powerApparentL2ImExSum) 1 .float false,
    register 23 (.registerSet .powerApparentL3ImExSum) 1 .float false,
    register 25 (.registerSet .powerReactiveL1IndCapDiff) 1 .float false,
    register 27 (.registerSet .powerReactiveL2IndCapDiff) 1 .float false,
    register 29 (.registerSet .powerReactiveL3IndCapDiff) 1 .float false,
    register 31 (.registerSet .powerFactorL1Directional) 1 .float false,
    register 33 (.registerSet .powerFactorL2Directional) 1 .float false,
    register 35 (.registerSet .powerFactorL3Directional) 1 .float false,
    register 37 (.registerSet .phaseAngleL1) 1 .float false,
    register 39 (.registerSet .phaseAngleL2) 1 .float false,
    register 41 (.registerSet .phaseAngleL3) 1 .float false,
    register 43 (.registerSet .voltageLNAvg) 1 .float false,
    register 47 (.registerSet .currentLAvgImExSum) 1 .float false,
    register 49 (.registerSet .currentLSumImExSum) 1 .float false,
    register 53 (.registerSet .powerActiveLSumImExDiff) 1 .float true,
    register 57 (.registerSet .powerApparentLSumImExSum) 1 .float false,
    register 61 (.registerSet .powerReactiveLSumIndCapDiff) 1 .float false,
    register 63 (.registerSet .powerFactorLSumDirectional) 1 .float false,
    register 67 (.registerSet .phaseAngleLSum) 1 .float false,
    register 71 (.registerSet .frequencyLAvg) 1 .float false,
    register 73 (.registerSet .energyActiveLSumImport) 1 .float false,
    register 75 (.registerSet .energyActiveLSumExport) 1 .float false,
    register 77 (.registerSet .energyReactiveLSumInductive) 1 .float false,
    register 79 (.registerSet .energyReactiveLSumCapacitive) 1 .float false,
    register 81 (.registerSet .energyApparentLSumImExSum) 1 .float false,
    register 83 (.registerSet .electricCharge) 1 .float false,
    register 201 (.registerSet .voltageL1L2) 1 .float false,
    register 203 (.registerSet .voltageL2L3) 1 .float false,
    register 205 (.registerSet .voltageL3L1) 1 .float false,
    register 207 (.registerSet .voltageLLAvg) 1 .float false,
    register 225 (.registerSet .currentNImExSum) 1 .float false,
    register 235 (.registerSet .voltageTHDL1N) 1 .float false,
    register 237 (.registerSet .voltageTHDL2N) 1 .float false,
    register 239 (.registerSet .voltageTHDL3N) 1 .float false,
    register 241 (.registerSet .currentTHDL1) 1 .float false,
    register 243 (.registerSet .currentTHDL2) 1 .float false,
    register 245 (.registerSet .currentTHDL3) 1 .float false,
    register 249 (.registerSet .voltageTHDLNAvg) 1 .float false,
    register 251 (.registerSet .currentTHDLAvg) 1 .float false,
    register 335 (.registerSet .voltageTHDL1L2) 1 .float false,
    register 337 (.registerSet .voltageTHDL2L3) 1 .float false,
    register 339 (.registerSet .voltageTHDL3L1) 1 .float false,
    register 341 (.registerSet .voltageTHDLLAvg) 1 .float false,
    register 343 (.registerSet .energyActiveLSumImExSum) 1 .float false,
    register 345 (.registerSet .energyReactiveLSumIndCapSum) 1 .float false,
    register 347 (.registerSet .energyActiveL1Import) 1 .float false,
    register 349 (.registerSet .energyActiveL2Import) 1 .float false,
    register 351 (.registerSet .energyActiveL3Import) 1 .float false,
    register 353 (.registerSet .energyActiveL1Export) 1 .float false,
    register 355 (.registerSet .energyActiveL2Export) 1 .float false,
    register 357 (.registerSet .energyActiveL3Export) 1 .float false,
    register 359 (.registerSet .energyActiveL1ImExSum) 1 .float false,
    register 361 (.registerSet .energyActiveL2ImExSum) 1 .float false,
    register 363 (.registerSet .energyActiveL3ImExSum) 1 .float false,
    register 365 (.registerSet .energyReactiveL1Inductive) 1 .float false,
    register 367 (.registerSet .energyReactiveL2Inductive) 1 .float false,
    register 369 (.registerSet .energyReactiveL3Inductive) 1 .float false,
    register 371 (.registerSet .energyReactiveL1Capacitive) 1 .float false,
    register 373 (.registerSet .energyReactiveL2Capacitive) 1 .float false,
    register 375 (.registerSet .energyReactiveL3Capacitive) 1 .float false,
    register 377 (.registerSet .energyReactiveL1IndCapSum) 1 .float false,
    register 379 (.registerSet .energyReactiveL2IndCapSum) 1 .float false,
    register 381 (.registerSet .energyReactiveL3IndCapSum) 1 .float false,
    stopMarker,
    calculated .energyActiveLSumImExSumResettable,
    calculated .energyActiveLSumImportResettable,
    calculated .energyActiveLSumExportResettable ]

/-- SDM72V2 -/
def meterSdm72v2 : List MeterDefinition :=
  [ register 1 (.registerSet .voltageL1N) 1 .float false,
    register 3 (.registerSet .voltageL2N) 1 .float false,
    register 5 (.registerSet .voltageL3N) 1 .float false,
    register 7 (.registerSet .currentL1ImExSum) 1 .float true,
    register 9 (.registerSet .currentL2ImExSum) 1 .float true,
    register 11 (.registerSet .currentL3ImExSum) 1 .float true,
    register 13 (.registerSet .powerActiveL1ImExDiff) 1 .float false,
    register 15 (.registerSet .powerActiveL2ImExDiff) 1 .float false,
    register 17 (.registerSet .powerActiveL3ImExDiff) 1 .float false,
    register 19 (.registerSet .powerApparentL1ImExSum) 1 .float false,
    register 21 (.registerSet .powerApparentL2ImExSum) 1 .float false,
    register 23 (.registerSet .powerApparentL3ImExSum) 1 .float false,
    register 25 (.registerSet .powerReactiveL1IndCapDiff) 1 .float false,
    register 27 (.registerSet .powerReactiveL2IndCapDiff) 1 .float false,
    register 29 (.registerSet .powerReactiveL3IndCapDiff) 1 .float false,
    register 31 (.registerSet .powerFactorL1Directional) 1 .float false,
    register 33 (.registerSet .powerFactorL2Directional) 1 .float false,
    register 35 (.registerSet .powerFactorL3Directional) 1 .float false,
    register 43 (.registerSet .voltageLNAvg) 1 .float false,
    register 47 (.registerSet .currentLAvgImExSum) 1 .float false,
    register 49 (.registerSet .currentLSumImExSum) 1 .float false,
    register 53 (.registerSet .powerActiveLSumImExDiff) 1 .float true,
    register 57 (.registerSet .powerApparentLSumImExSum) 1 .float false,
    register 61 (.registerSet .powerReactiveLSumIndCapDiff) 1 .float false,
    register 63 (.registerSet .powerFactorLSumDirectional) 1 .float false,
    register 71 (.registerSet .frequencyLAvg) 1 .float false,
    register 73 (.registerSet .energyActiveLSumImport) 1 .float false,
    register 75 (.registerSet .energyActiveLSumExport) 1 .float false,
    register 201 (.registerSet .voltageL1L2) 1 .float false,
    register 203 (.registerSet .voltageL2L3) 1 .float false,
    register 205 (.registerSet .voltageL3L1) 1 .float false,
    register 207 (.registerSet .voltageLLAvg) 1 .float false,
    register 225 (.registerSet .currentNImExSum) 1 .float false,
    register 343 (.registerSet .energyActiveLSumImExSum) 1 .float false,
    register 345 (.registerSet .energyReactiveLSumIndCapSum) 1 .float false,
    stopMarker,
    calculated .energyActiveLSumImExSumResettable,
    calculated .energyActiveLSumImportResettable,
    calculated .energyActiveLSumExportResettable ]

/-- DSZ15DZMOD -/
def meterDsz15dzmod : List MeterDefinition :=
  [ register 1 (.registerSet .voltageL1N) (1 / 100) .int32 false,
    register 3 (.registerSet .voltageL2N) (1 / 100) .int32 false,
    register 5 (.registerSet .voltageL3N) (1 / 100) .int32 false,
    register 7 (.registerSet .currentL1ImExSum) (1 / 100) .int32 true,
    register 9 (.registerSet .currentL2ImExSum) (1 / 100) .int32 true,
    register 11 (.registerSet .currentL3ImExSum) (1 / 100) .int32 true,
    register 13 (.registerSet .powerActiveL1ImExDiff) 1 .int32 false,
    register 15 (.registerSet .powerActiveL2ImExDiff) 1 .int32 false,
    register 17 (.registerSet .powerActiveL3ImExDiff) 1 .int32 false,
    register 31 (.registerSet .powerFactorL1Directional) (1 / 1000) .int32 false,
    register 33 (.registerSet .powerFactorL2Directional) (1 / 1000) .int32 false,
    register 35 (.registerSet .powerFactorL3Directional) (1 / 1000) .int32 false,
    register 53 (.registerSet .powerActiveLSumImExDiff) 1 .int32 true,
    register 63 (.registerSet .powerFactorLSumDirectional) (1 / 1000) .int32 false,
    register 73 (.registerSet .energyActiveLSumImport) (1 / 100) .int32 false,
    register 75 (.registerSet .energyActiveLSumExport) (1 / 100) .int32 false,
    stopMarker,
    calculated .powerApparentL1ImExSum,
    calculated .powerApparentL2ImExSum,
    calculated .powerApparentL3ImExSum,
    calculated .powerReactiveL1IndCapSum,
    calculated .powerReactiveL2IndCapSum,
    calculated .powerReactiveL3IndCapSum,
    calculated .phaseAngleL1,
    calculated .phaseAngleL2,
    calculated .phaseAngleL3,
    calculated .currentNImExSum,
    calculated .voltageLNAvg,
    calculated .currentLAvgImExSum,
    calculated .currentLSumImExSum,
    calculated .powerApparentLSumImExSum,
    calculated .powerReactiveLSumIndCapSum,
    calculated .phaseAngleLSum,
    calculated .energyActiveLSumImExSum,
    calculated .energyActiveLSumImExSumResettable,
    calculated .energyActiveLSumImportResettable,
    calculated .energyActiveLSumExportResettable,
    calculated .frequencyLAvg ]

/-- DSZ16DZE -/
def meterDsz16dze : List MeterDefinition :=
  [ register 1 (.registerSet .voltageL1N) (1 / 100) .int32 false,
    register 3 (.registerSet .voltageL2N) (1 / 100) .int32 false,
    register 5 (.registerSet .voltageL3N) (1 / 100) .int32 false,
    register 7 (.registerSet .currentL1ImExSum) (1 / 100) .int32 true,
    register 9 (.registerSet .currentL2ImExSum) (1 / 100) .int32 true,
    register 11 (.registerSet .currentL3ImExSum) (1 / 100) .int32 true,
    register 13 (.registerSet .powerActiveL1ImExDiff) 1 .int32 false,
    register 15 (.registerSet .powerActiveL2ImExDiff) 1 .int32 false,
    register 17 (.registerSet .powerActiveL3ImExDiff) 1 .int32 false,
    register 19 (.registerSet .powerApparentL1ImExSum) 1 .int32 false,
    register 21 (.registerSet .powerApparentL2ImExSum) 1 .int32 false,
    register 23 (.registerSet .powerApparentL3ImExSum) 1 .int32 false,
    register 25 (.registerSet .powerReactiveL1IndCapDiff) 1 .int32 false,
    register 27 (.registerSet .powerReactiveL2IndCapDiff) 1 .int32 false,
    register 29 (.registerSet .powerReactiveL3IndCapDiff) 1 .int32 false,
    register 31 (.registerSet .powerFactorL1Directional) (1 / 1000) .int32 false,
    register 33 (.registerSet .powerFactorL2Directional) (1 / 1000) .int32 false,
    register 35 (.registerSet .powerFactorL3Directional) (1 / 1000) .int32 false,
    register 37 (.registerSet .phaseAngleL1) (1 / 1000) .int32 false,
    register 39 (.registerSet .phaseAngleL2) (1 / 1000) .int32 false,
    register 41 (.registerSet .phaseAngleL3) (1 / 1000) .int32 false,
    register 53 (.registerSet .powerActiveLSumImExDiff) 1 .int32 true,
    register 55 (.registerSet .powerApparentLSumImExSum) 1 .int32 false,
    register 57 (.registerSet .powerReactiveLSumIndCapDiff) 1 .int32 false,
    register 63 (.registerSet .powerFactorLSumDirectional) (1 / 1000) .int32 false,
    register 65 (.registerSet .phaseAngleLSum) (1 / 1000) .int32 false,
    register 71 (.registerSet .frequencyLAvg) (1 / 100) .int32 false,
    register 73 (.registerSet .energyActiveLSumImport) (1 / 100) .int32 false,
    register 75 (.registerSet .energyActiveLSumExport) (1 / 100) .int32 false,
    stopMarker,
    calculated .phaseAngleL1,
    calculated .phaseAngleL2,
    calculated .phaseAngleL3,
    calculated .phaseAngleLSum,
    calculated .energyActiveLSumImExSumResettable,
    calculated .energyActiveLSumImportResettable,
    calculated .energyActiveLSumExportResettable ]

/-- DEM4A -/
def meterDem4a : List MeterDefinition :=
  [ register 1025 (.registerSet .voltageL1N) (1 / 1000) .int32 false,
    register 1027 (.registerSet .voltageL2N) (1 / 1000) .int32 false,
    register 1029 (.registerSet .voltageL3N) (1 / 1000) .int32 false,
    register 1041 (.registerSet .currentL1ImExSum) (1 / 1000) .int32 true,
    register 1043 (.registerSet .currentL2ImExSum) (1 / 1000) .int32 true,
    register 1045 (.registerSet .currentL3ImExSum) (1 / 1000) .int32 true,
    register 1051 (.registerSet .powerActiveL1ImExDiff) 1 .int32 false,
    register 1053 (.registerSet .powerActiveL2ImExDiff) 1 .int32 false,
    register 1055 (.registerSet .powerActiveL3ImExDiff) 1 .int32 false,
    register 1059 (.registerSet .powerApparentL1ImExSum) 1 .int32 false,
    register 1061 (.registerSet .powerApparentL2ImExSum) 1 .int32 false,
    register 1063 (.registerSet .powerApparentL3ImExSum) 1 .int32 false,
    register 1067 (.registerSet .powerReactiveL1IndCapDiff) 1 .int32 false,
    register 1069 (.registerSet .powerReactiveL2IndCapDiff) 1 .int32 false,
    register 1071 (.registerSet .powerReactiveL3IndCapDiff) 1 .int32 false,
    register 1079 (.registerSet .powerFactorL1Directional) (1 / 1000) .int16 false,
    register 1080 (.registerSet .powerFactorL2Directional) (1 / 1000) .int16 false,
    register 1081 (.registerSet .powerFactorL3Directional) (1 / 1000) .int16 false,
    register 1037 (.registerSet .voltageLNAvg) (1 / 1000) .int32 false,
    register 1039 (.registerSet .currentLAvgImExSum) (1 / 1000) .int32 false,
    register 1057 (.registerSet .powerActiveLSumImExDiff) 1 .int32 true,
    register 1065 (.registerSet .powerApparentLSumImExSum) 1 .int32 false,
    register 1073 (.registerSet .powerReactiveLSumIndCapDiff) 1 .int32 false,
    register 1082 (.registerSet .powerFactorLSumDirectional) (1 / 1000) .int16 false,
    register 1078 (.registerSet .frequencyLAvg) (1 / 10) .int16 false,
    register 271 (.registerSet .energyActiveLSumImport) (1 / 100) .int32 false,
    register 281 (.registerSet .energyActiveLSumExport) (1 / 100) .int32 false,
    register 301 (.registerSet .energyReactiveLSumInductive) (1 / 100) .int32 false,
    register 311 (.registerSet .energyReactiveLSumCapacitive) (1 / 100) .int32 false,
    register 1031 (.registerSet .voltageL1L2) (1 / 1000) .int32 false,
    register 1033 (.registerSet .voltageL2L3) (1 / 1000) .int32 false,
    register 1035 (.registerSet .voltageL3L1) (1 / 1000) .int32 false,
    register 1039 (.registerSet .voltageLLAvg) (1 / 1000) .int32 false,
    register 1047 (.registerSet .currentNImExSum) (1 / 1000) .int32 false,
    register 291 (.registerSet .energyActiveLSumImExSum) (1 / 100) .int32 false,
    stopMarker,
    calculated .energyActiveLSumImExSumResettable,
    calculated .energyActiveLSumImportResettable,
    calculated .energyActiveLSumExportResettable ]

/-- DMED341MID7ER -/
def meterDmed341mid7er : List MeterDefinition :=
  [ register 2 (.registerSet .voltageL1N) (1 / 100) .int32 false,
    register 4 (.registerSet .voltageL2N) (1 / 100) .int32 false,
    register 6 (.registerSet .voltageL3N) (1 / 100) .int32 false,
    register 8 (.registerSet .currentL1ImExSum) (1 / 10000) .int32 true,
    register 10 (.registerSet .currentL2ImExSum) (1 / 10000) .int32 true,
    register 12 (.registerSet .currentL3ImExSum) (1 / 10000) .int32 true,
    register 14 (.registerSet .voltageL1L2) (1 / 100) .int32 false,
    register 16 (.registerSet .voltageL2L3) (1 / 100) .int32 false,
    register 18 (.registerSet .voltageL3L1) (1 / 100) .int32 false,
    register 20 (.registerSet .powerActiveL1ImExDiff) (1 / 100) .int32 false,
    register 22 (.registerSet .powerActiveL2ImExDiff) (1 / 100) .int32 false,
    register 24 (.registerSet .powerActiveL3ImExDiff) (1 / 100) .int32 false,
    register 26 (.registerSet .powerReactiveL1IndCapDiff) (1 / 100) .int32 false,
    register 28 (.registerSet .powerReactiveL2IndCapDiff) (1 / 100) .int32 false,
    register 30 (.registerSet .powerReactiveL3IndCapDiff) (1 / 100) .int32 false,
    register 32 (.registerSet .powerApparentL1ImExSum) (1 / 100) .int32 false,
    register 34 (.registerSet .powerApparentL2ImExSum) (1 / 100) .int32 false,
    register 36 (.registerSet .powerApparentL3ImExSum) (1 / 100) .int32 false,
    register 38 (.registerSet .powerFactorL1Directional) (1 / 10000) .int32 false,
    register 40 (.registerSet .powerFactorL2Directional) (1 / 10000) .int32 false,
    register 42 (.registerSet .powerFactorL3Directional) (1 / 10000) .int32 false,
    register 50 (.registerSet .frequencyLAvg) (1 / 100) .int32 false,
    register 58 (.registerSet .powerActiveLSumImExDiff) (1 / 100) .int32 true,
    register 64 (.registerSet .powerFactorLSumDirectional) (1 / 10000) .int32 false,
    register 6688 (.registerSet .energyActiveLSumImport) (1 / 1000) .int32 false,
    register 6690 (.registerSet .energyActiveLSumExport) (1 / 1000) .int32 false,
    register 6692 (.registerSet .energyReactiveLSumInductive) (1 / 1000) .int32 false,
    register 6694 (.registerSet .energyReactiveLSumCapacitive) (1 / 1000) .int32 false,
    register 6708 (.registerSet .energyActiveL1Import) (1 / 1000) .int32 false,
    register 6710 (.registerSet .energyActiveL1Export) (1 / 1000) .int32 false,
    register 6712 (.registerSet .energyReactiveL1Inductive) (1 / 1000) .int32 false,
    register 6714 (.registerSet .energyReactiveL1Capacitive) (1 / 1000) .int32 false,
    register 6728 (.registerSet .energyActiveL2Import) (1 / 1000) .int32 false,
    register 6730 (.registerSet .energyActiveL2Export) (1 / 1000) .int32 false,
    register 6732 (.registerSet .energyReactiveL2Inductive) (1 / 1000) .int32 false,
    register 6734 (.registerSet .energyReactiveL2Capacitive) (1 / 1000) .int32 false,
    register 6748 (.registerSet .energyActiveL3Import) (1 / 1000) .int32 false,
    register 6750 (.registerSet .energyActiveL3Export) (1 / 1000) .int32 false,
    register 6752 (.registerSet .energyReactiveL3Inductive) (1 / 1000) .int32 false,
    register 6754 (.registerSet .energyReactiveL3Capacitive) (1 / 1000) .int32 false,
    stopMarker,
    calculated .energyActiveLSumImExSumResettable,
    calculated .energyActiveLSumImportResettable,
    calculated .energyActiveLSumExportResettable ]

/-- WM3M4C, WM3M4 -/
def meterWm3m4c : List MeterDefinition :=
  [ register 108 (.registerSet .voltageL1N) 1 .t5 false,
    register 110 (.registerSet .voltageL2N) 1 .t5 false,
    register 112 (.registerSet .voltageL3N) 1 .t5 false,
    register 127 (.registerSet .currentL1ImExSum) 1 .t5 false,
    register 129 (.registerSet .currentL2ImExSum) 1 .t5 false,
    register 131 (.registerSet .currentL3ImExSum) 1 .t5 false,
    register 143 (.registerSet .powerActiveL1ImExDiff) 1 .t6 false,
    register 145 (.registerSet .powerActiveL2ImExDiff) 1 .t6 false,
    register 147 (.registerSet .powerActiveL3ImExDiff) 1 .t6 false,
    register 159 (.registerSet .powerApparentL1ImExSum) 1 .t5 false,
    register 161 (.registerSet .powerApparentL2ImExSum) 1 .t5 false,
    register 163 (.registerSet .powerApparentL3ImExSum) 1 .t5 false,
    register 151 (.registerSet .powerReactiveL1IndCapDiff) 1 .t6 false,
    register 153 (.registerSet .powerReactiveL2IndCapDiff) 1 .t6 false,
    register 155 (.registerSet .powerReactiveL3IndCapDiff) 1 .t6 false,
    register 167 (.registerSet .powerFactorL1Directional) 1 .t7 false,
    register 169 (.registerSet .powerFactorL2Directional) 1 .t7 false,
    register 171 (.registerSet .powerFactorL3Directional) 1 .t7 false,
    register 174 (.registerSet .phaseAngleL1) 1 .t17 false,
    register 175 (.registerSet .phaseAngleL2) 1 .t17 false,
    register 176 (.registerSet .phaseAngleL3) 1 .t17 false,
    register 114 (.registerSet .voltageLNAvg) 1 .t5 false,
    register 137 (.registerSet .currentLAvgImExSum) 1 .t5 false,
    register 139 (.registerSet .currentLSumImExSum) 1 .t5 false,
    register 141 (.registerSet .powerActiveLSumImExDiff) 1 .t6 false,
    register 157 (.registerSet .powerApparentLSumImExSum) 1 .t5 false,
    register 149 (.registerSet .powerReactiveLSumIndCapDiff) 1 .t6 false,
    register 165 (.registerSet .powerFactorLSumDirectional) 1 .t7 false,
    register 173 (.registerSet .phaseAngleLSum) 1 .t17 false,
    register 106 (.registerSet .frequencyLAvg) 1 .t5 false,
    register 119 (.registerSet .voltageL1L2) 1 .t5 false,
    register 121 (.registerSet .voltageL2L3) 1 .t5 false,
    register 123 (.registerSet .voltageL3L1) 1 .t5 false,
    register 125 (.registerSet .voltageLLAvg) 1 .t5 false,
    register 183 (.registerSet .voltageTHDL1N) 1 .t16 false,
    register 184 (.registerSet .voltageTHDL2N) 1 .t16 false,
    register 185 (.registerSet .voltageTHDL3N) 1 .t16 false,
    register 189 (.registerSet .currentTHDL1) 1 .t16 false,
    register 190 (.registerSet .currentTHDL2) 1 .t16 false,
    register 191 (.registerSet .currentTHDL3) 1 .t16 false,
    register 415 (.energyCounterExponent 0) 1 .t2 false,
    register 416 (.energyCounterExponent 1) 1 .t2 false,
    register 419 (.energyCounter 0) 1 .t3 false,
    register 421 (.energyCounter 1) 1 .t3 false,
    register 435 (.energyCounter1000x 0) 1 .t3 false,
    register 437 (.energyCounter1000x 1) 1 .t3 false,
    register 5582 (.registerSet .temperature) 1 .t17 false,
    register 5000 (.registerSet .runTime) 1 .t3 false,
    stopMarker,
    calculated .energyActiveLSumImExSum,
    calculated .energyActiveLSumImport,
    calculated .energyActiveLSumExport ]

/-- The two blocks of the fast read; this table is indexed, never scanned. -/
def meterWm3m4cFast : List MeterDefinition :=
  [ register 106 (.registerSet .frequencyLAvg) 1 .t5 false,
    register 108 (.registerSet .voltageL1N) 1 .t5 false,
    register 110 (.registerSet .voltageL2N) 1 .t5 false,
    register 112 (.registerSet .voltageL3N) 1 .t5 false,
    register 127 (.registerSet .currentL1ImExSum) 1 .t5 false,
    register 129 (.registerSet .currentL2ImExSum) 1 .t5 false,
    register 131 (.registerSet .currentL3ImExSum) 1 .t5 false ]

end Bricklib2
