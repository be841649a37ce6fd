/-
Bricklib2/Warp/Wem/MissingFile.lean

The two definitions of an entry without data: what a read makes up for a missing
file, and what a new file holds.  They agree for the wallbox data and, read one
entry at a time, for the daily energy manager data; the price of a five minute
energy manager entry is 0xFFFFFFFF in the one and 0 in the other.

Main results: `missing_like_fresh`, which says for which reads they agree, and
`missing_unlike_fresh`.
-/
import Bricklib2.Warp.Wem.SdContent
import Bricklib2.Warp.Wem.SdFormat

namespace Bricklib2

open FileStore

variable {b : Build} {k : DataKind} {r : GetRequest} {amount offset : ℕ} {sd : SdFiles}
  {codes old : ReadCodes} {data : List UInt8}

/-! ### A file with other slots written -/

/-- A file that was created and into which `points` were written one after the other. -/
def fileWith (b : Build) (k : DataKind) (points : List (DataPoint b)) : List UInt8 :=
  points.foldl (fun content p => Session.patch content p.position p.data) (newFile b k)

theorem fileFormed_fileWith {f : FileName} {points : List (DataPoint b)}
    (hpoints : ∀ p ∈ points, p.InRange ∧ p.kind = k ∧ p.fileName = f) :
    FileFormed (· ∈ points) k f (fileWith b k points) := by
  have hfold (ps : List (DataPoint b)) (content : List UInt8) (hps : ∀ p ∈ ps, p ∈ points)
      (hcontent : FileFormed (· ∈ points) k f content) :
      FileFormed (· ∈ points) k f
        (ps.foldl (fun content p => Session.patch content p.position p.data) content) := by
    induction ps generalizing content with
    | nil => exact hcontent
    | cons p ps ih =>
      obtain ⟨hp, rfl, rfl⟩ := hpoints p (hps p List.mem_cons_self)
      apply ih _ fun q hq => hps q (List.mem_cons_of_mem p hq)
      exact hcontent.patch hp (hps p List.mem_cons_self)
  exact hfold points (newFile b k) (fun _ hp => hp) (fileFormed_newFile _ _ _)

/-- The bytes of slots that hold the entry without data. -/
theorem window_newEntry {content : List UInt8} {j : ℕ}
    (h : ∀ i < amount, slotOf b k content (j + i) = newEntry b k) :
    (content.drop (slotPosition b k j)).take (amount * entrySize b k) =
      (List.replicate amount (newEntry b k)).flatten := by
  induction amount with
  | zero => simp
  | succ amount ih =>
    have hlast := h amount (Nat.lt_succ_self amount)
    rw [slotOf, slotPosition, Nat.add_mul, ← Nat.add_assoc] at hlast
    rw [Nat.succ_mul, List.take_add, ih fun i hi => h i (Nat.lt_succ_of_lt hi), List.drop_drop,
      slotPosition, hlast, List.replicate_succ', List.flatten_append, List.flatten_singleton]

/-! ### The byte loops of the reads -/

section Fill

variable {size start : ℕ} {bytes : List UInt8}

theorem fillEntries_succ :
    fillEntries size start bytes (amount + 1) data =
      Bytes.overwrite (fillEntries size start bytes amount data) (amount * size + start) bytes := by
  rw [fillEntries, List.range_succ, List.foldl_append]
  rfl

theorem length_fillEntries (hfit : start + bytes.length ≤ size)
    (h : amount * size ≤ data.length) :
    (fillEntries size start bytes amount data).length = data.length := by
  induction amount with
  | zero => rfl
  | succ amount ih =>
    rw [Nat.succ_mul] at h
    rw [fillEntries_succ, Bytes.length_overwrite, ih (by omega)]
    rw [ih (by omega)]
    omega

/-- Entries that are filled as a whole. -/
theorem take_fillEntries (hsize : bytes.length = size) (h : amount * size ≤ data.length) :
    (fillEntries size 0 bytes amount data).take (amount * size) =
      (List.replicate amount bytes).flatten := by
  induction amount with
  | zero => simp
  | succ amount ih =>
    rw [Nat.succ_mul] at h
    have hlength : (fillEntries size 0 bytes amount data).length = data.length :=
      length_fillEntries (by omega) (by omega)
    have htake := Bytes.take_overwrite bytes (by omega :
      amount * size ≤ (fillEntries size 0 bytes amount data).length)
    rw [hsize, ih (by omega)] at htake
    rw [fillEntries_succ, Nat.add_zero (amount * size), Nat.succ_mul, htake, List.replicate_succ',
      List.flatten_append, List.flatten_singleton]

/-- Bytes between the filled places stay as they were. -/
theorem getElem?_fillEntries (size start : ℕ) (bytes : List UInt8) {j : ℕ}
    (hfit : start + bytes.length ≤ size)
    (h : amount * size ≤ data.length)
    (hj : ∀ i < amount, j < i * size + start ∨ i * size + start + bytes.length ≤ j) :
    (fillEntries size start bytes amount data)[j]? = data[j]? := by
  induction amount with
  | zero => rfl
  | succ amount ih =>
    rw [Nat.succ_mul] at h
    have hlength : (fillEntries size start bytes amount data).length = data.length :=
      length_fillEntries hfit (by omega)
    have hbefore := ih (by omega) fun i hi => hj i (Nat.lt_succ_of_lt hi)
    rw [fillEntries_succ, ← hbefore]
    rcases hj amount (Nat.lt_succ_self amount) with hbelow | habove
    · have htake : (Bytes.overwrite _ (amount * size + start) bytes).take (j + 1) = _ :=
        Bytes.take_overwrite_of_le (by omega :
          amount * size + start ≤ (fillEntries size start bytes amount data).length) hbelow
      have hget := congrArg (fun l : List UInt8 => l[j]?) htake
      simpa [List.getElem?_take] using hget
    · exact Bytes.getElem?_overwrite_above (by omega) habove

/-- The filled place of the first entry. -/
theorem window_fillEntries (size start : ℕ) (bytes : List UInt8) (hamount : 1 ≤ amount)
    (hfit : start + bytes.length ≤ size)
    (h : amount * size ≤ data.length) :
    ((fillEntries size start bytes amount data).drop start).take bytes.length = bytes := by
  induction amount, hamount using Nat.le_induction with
  | base =>
    rw [Nat.one_mul] at h
    have htake := Bytes.take_overwrite bytes (by omega : start ≤ data.length)
    have hfill : fillEntries size start bytes 1 data = Bytes.overwrite data start bytes := by
      rw [fillEntries_succ, Nat.zero_mul, Nat.zero_add]
      rfl
    rw [hfill, List.take_drop, htake]
    exact List.drop_left' (List.length_take_of_le (by omega))
  | succ amount hamount ih =>
    rw [Nat.succ_mul] at h
    have hlength : (fillEntries size start bytes amount data).length = data.length :=
      length_fillEntries hfit (by omega)
    have hmul : size ≤ amount * size := Nat.le_mul_of_pos_left size hamount
    rw [fillEntries_succ, List.take_drop, Bytes.take_overwrite_of_le (by omega) (by omega),
      ← List.take_drop]
    exact ih (by omega)

end Fill

theorem take_fillFF {n : ℕ} : (fillFF n data).take n = List.replicate n 0xFF := by
  have htake := Bytes.take_overwrite (List.replicate n (0xFF : UInt8)) (Nat.zero_le data.length)
  rwa [List.length_replicate, Nat.zero_add, List.take_zero, List.nil_append] at htake

/-! ### Reads of a missing file -/

/-- What a read makes up for a missing file, with the buffer it was given. -/
def missingData (b : Build) (k : DataKind) (amount : ℕ) (data : List UInt8) : List UInt8 :=
  match k, b with
  | .wallbox, _ => fillEntries (entrySize b .wallbox) 0 (sd5minFlagNoData b ++ [0, 0]) amount data
  | .wallboxDaily, _ => fillFF (amount * entrySize b .wallboxDaily) data
  | .energyManager, .v1 =>
    fillPrice (entrySize .v1 .energyManager) amount
      (fillEntries energyManager5MinDataOldSize 0 (sd5minFlagNoData .v1 ++ List.replicate 28 0)
        amount data)
  | .energyManager, .v2 =>
    fillEntries (entrySize .v2 .energyManager) 0
      (sd5minFlagNoData .v2 ++ List.replicate 28 0 ++ List.replicate 4 0xFF) amount data
  | .energyManagerDaily, .v1 =>
    fillPrice (entrySize .v1 .energyManagerDaily) amount
      (fillFF (amount * energyManager1DayDataOldSize) data)
  | .energyManagerDaily, .v2 => fillFF (amount * entrySize .v2 .energyManagerDaily) data

/-- There is no file for the request, in the V1 build not in the old format either,
and the module does not remember anything else. -/
structure Missing (b : Build) (k : DataKind) (r : GetRequest) (sd : SdFiles) : Prop where
  consistent : sd.Consistent
  faithful : sd.Faithful (r.fileName k)
  missing : sd.lfs.files (sdGetPathWithFilename (r.fileName k)) = none
  faithfulOld : b = .v1 → sd.Faithful (r.oldFileName k)
  missingOld : b = .v1 → sd.lfs.files (sdGetPathWithFilename (r.oldFileName k)) = none

/-- What the V1 build finds when it goes on to look for the old format. -/
theorem Missing.opened (h : Missing .v1 k r sd) (hname : r.fileName k ≠ r.oldFileName k)
    (codes : OpenReadCodes) :
    (sdLfsOpenBufferedRead (r.fileName k) codes sd).1.Consistent ∧
      (sdLfsOpenBufferedRead (r.fileName k) codes sd).1.Faithful (r.oldFileName k) ∧
      (sdLfsOpenBufferedRead (r.fileName k) codes sd).1.lfs.files
        (sdGetPathWithFilename (r.oldFileName k)) = none := by
  refine ⟨h.consistent.sdLfsOpenBufferedRead _ _,
    (h.faithfulOld rfl).sdLfsOpenBufferedRead h.consistent hname, ?_⟩
  rw [files_sdLfsOpenBufferedRead h.consistent]
  exact h.missingOld rfl

theorem GetRequest.fileName_ne_old (h : k = .energyManager ∨ k = .energyManagerDaily) :
    r.fileName k ≠ r.oldFileName k := by
  rcases h with rfl | rfl <;> exact fun heq => by cases congrArg FileName.filePostfix heq

/-- **A read of a missing file** that succeeds returns what it makes up. -/
theorem sdRead_of_missing (h : Missing b k r sd)
    (hok : (sdRead b k r amount offset codes old data sd).ok = true) :
    (sdRead b k r amount offset codes old data sd).data = missingData b k amount data := by
  cases k with
  | wallbox =>
    exact congrArg ReadResult.data (readDataPoints_of_missing h.consistent h.faithful h.missing hok)
  | wallboxDaily =>
    exact congrArg ReadResult.data (readDataPoints_of_missing h.consistent h.faithful h.missing hok)
  | energyManager =>
    have hread : sdRead b .energyManager r amount offset codes old data sd = _ :=
      readDataPoints_of_missing h.consistent h.faithful h.missing hok
    cases b with
    | v2 => exact congrArg ReadResult.data hread
    | v1 =>
      rw [hread] at hok ⊢
      obtain ⟨hconsistent, hfaithful, hmissing⟩ :=
        h.opened (GetRequest.fileName_ne_old (Or.inl rfl)) codes.opening
      exact congrArg (fun ret => fillPrice _ amount ret.data)
        (readDataPoints_of_missing hconsistent hfaithful hmissing hok)
  | energyManagerDaily =>
    have hread : sdRead b .energyManagerDaily r amount offset codes old data sd = _ :=
      readDataPoints_of_missing h.consistent h.faithful h.missing hok
    cases b with
    | v2 => exact congrArg ReadResult.data hread
    | v1 =>
      rw [hread] at hok ⊢
      obtain ⟨hconsistent, hfaithful, hmissing⟩ :=
        h.opened (GetRequest.fileName_ne_old (Or.inr rfl)) codes.opening
      exact congrArg (fun ret => fillPrice _ amount ret.data)
        (readDataPoints_of_missing hconsistent hfaithful hmissing hok)

/-! ### The two against each other -/

/-- Whatever the buffer held, the made up entries are those of a new file. -/
theorem take_missingData (h : k = .wallbox ∨ k = .wallboxDaily ∨
      k = .energyManagerDaily ∧ (b = .v2 ∨ amount = 1))
    (hroom : amount * entrySize b k ≤ data.length) :
    (missingData b k amount data).take (amount * entrySize b k) =
      (List.replicate amount (newEntry b k)).flatten := by
  rcases h with rfl | rfl | ⟨rfl, rfl | rfl⟩
  · cases b <;> exact take_fillEntries rfl hroom
  · cases b <;> exact take_fillFF.trans List.flatten_replicate_replicate.symm
  · exact take_fillFF.trans List.flatten_replicate_replicate.symm
  · cases b with
    | v2 => exact take_fillFF.trans List.flatten_replicate_replicate.symm
    | v1 =>
      have hlength : (fillFF 56 data).length = data.length :=
        Bytes.length_overwrite (by rw [List.length_replicate]; change 60 ≤ _ at hroom; omega)
      have htake := Bytes.take_overwrite (List.replicate 4 (0xFF : UInt8))
        (by rw [hlength]; change 60 ≤ _ at hroom; omega : 56 ≤ (fillFF 56 data).length)
      rw [take_fillFF] at htake
      exact htake

/-- The price of a made up five minute entry. -/
theorem price_missingData (hamount : 1 ≤ amount)
    (hroom : amount * entrySize b .energyManager ≤ data.length) :
    ((missingData b .energyManager amount data).drop (entrySize b .energyManager - 4)).take 4 =
      List.replicate 4 0xFF := by
  cases b with
  | v1 =>
    change amount * 33 ≤ _ at hroom
    have hlength : (fillEntries energyManager5MinDataOldSize 0
        (sd5minFlagNoData .v1 ++ List.replicate 28 0) amount data).length = data.length :=
      length_fillEntries (by decide) (by rw [energyManager5MinDataOldSize]; omega)
    exact window_fillEntries 33 29 (List.replicate 4 0xFF) hamount (by decide) (by omega)
  | v2 =>
    have hwindow := window_fillEntries 34 0
      (sd5minFlagNoData .v2 ++ List.replicate 28 0 ++ List.replicate 4 0xFF) hamount
      (by decide) hroom
    have hprice := congrArg (fun entry : List UInt8 => (entry.drop 30).take 4) hwindow
    change (((List.drop 0 _).take 34).drop 30).take 4 = _ at hprice
    rw [Bytes.window_take (by decide), List.drop_drop] at hprice
    exact hprice

/-- The price of a five minute entry of a new file. -/
theorem price_newEntry (hamount : 1 ≤ amount) :
    ((List.replicate amount (newEntry b .energyManager)).flatten.drop
      (entrySize b .energyManager - 4)).take 4 = List.replicate 4 0 := by
  obtain ⟨n, rfl⟩ := Nat.exists_eq_add_of_le' hamount
  rw [List.replicate_succ, List.flatten_cons]
  cases b <;> rfl

/-- In the V1 build the last of several made up daily entries shows what was in the
buffer. -/
theorem rest_missingData (hamount : 2 ≤ amount) (hroom : amount * 60 ≤ data.length) :
    (missingData .v1 .energyManagerDaily amount data)[(amount - 1) * 60 + 52]? =
      data[(amount - 1) * 60 + 52]? := by
  obtain ⟨n, rfl⟩ := Nat.exists_eq_add_of_le' hamount
  have hlength : (fillFF ((n + 2) * 56) data).length = data.length :=
    Bytes.length_overwrite (by rw [List.length_replicate]; omega)
  have hprice : (missingData .v1 .energyManagerDaily (n + 2) data)[(n + 2 - 1) * 60 + 52]? =
      (fillFF ((n + 2) * 56) data)[(n + 2 - 1) * 60 + 52]? := by
    apply getElem?_fillEntries 60 56 (List.replicate 4 0xFF) (by decide)
    · exact hlength.symm ▸ hroom
    · intro i hi
      rw [List.length_replicate]
      omega
  rw [hprice]
  exact Bytes.getElem?_overwrite_above (Nat.zero_le _) (by rw [List.length_replicate]; omega)

/-- Reading slots that were never written returns the same bytes whether there is no
file or a file in which other slots were written. -/
def SameAsFresh (b : Build) (k : DataKind) (r : GetRequest) (amount offset : ℕ) : Prop :=
  ∀ (sd sd' : SdFiles) (codes old codes' old' : ReadCodes) (data data' : List UInt8)
    (points : List (DataPoint b)),
    Missing b k r sd → sd'.Consistent → sd'.Faithful (r.fileName k) →
    sd'.lfs.files (sdGetPathWithFilename (r.fileName k)) = some (fileWith b k points) →
    (∀ p ∈ points, p.InRange ∧ p.kind = k ∧ p.fileName = r.fileName k) →
    (∀ p ∈ points, ∀ i < amount, k.slot r.day r.hour r.minute + offset + i ≠ p.slot) →
    Error.isMissing codes'.opening.openFile = false → (k.daily = true → codes'.seek = none) →
    amount * entrySize b k ≤ data.length →
    (sdRead b k r amount offset codes old data sd).ok = true →
    (sdRead b k r amount offset codes' old' data' sd').ok = true →
    (sdRead b k r amount offset codes old data sd).data.take (amount * entrySize b k) =
      (sdRead b k r amount offset codes' old' data' sd').data.take (amount * entrySize b k)

/-- The slots of a new file, through a read. -/
theorem take_sdRead_fileWith {points : List (DataPoint b)}
    (hrange : k.InRange r.day r.hour r.minute)
    (hfit : k.slot r.day r.hour r.minute + offset + amount ≤ k.slots) (hamount : 1 ≤ amount)
    (h : sd.Consistent) (hf : sd.Faithful (r.fileName k))
    (hfile : sd.lfs.files (sdGetPathWithFilename (r.fileName k)) = some (fileWith b k points))
    (hpoints : ∀ p ∈ points, p.InRange ∧ p.kind = k ∧ p.fileName = r.fileName k)
    (hother : ∀ p ∈ points, ∀ i < amount, k.slot r.day r.hour r.minute + offset + i ≠ p.slot)
    (hcode : Error.isMissing codes.opening.openFile = false)
    (hseek : k.daily = true → codes.seek = none)
    (hok : (sdRead b k r amount offset codes old data sd).ok = true) :
    (sdRead b k r amount offset codes old data sd).data.take (amount * entrySize b k) =
      (List.replicate amount (newEntry b k)).flatten := by
  have hformed := fileFormed_fileWith hpoints
  obtain ⟨hdata, -⟩ := sdRead_of_file h hf hfile
    (fun hmissing => absurd (hcode.symm.trans hmissing) Bool.false_ne_true) hseek hok
  rw [hdata, DataKind.position_eq hrange.1 (by omega)]
  apply window_newEntry
  intro i hi
  refine (hformed.slots _ (by omega)).resolve_right ?_
  rintro ⟨p, hp, -, -, hslot, -⟩
  exact hother p hp i hi hslot.symm

/-- The module right behind its start on a card. -/
theorem faithful_cleared {lfs : Lfs} {f : FileName} (h : f.Dated) :
    ({ lfs := lfs } : SdFiles).Faithful f where
  cached := SdFiles.cacheCoherent_cleared lfs f h
  remembered _ hmissing := by cases hmissing
  buffered hopen := by cases hopen

theorem GetRequest.dated_fileName (h : k.InRange r.day r.hour r.minute) :
    (r.fileName k).Dated ∧ (r.oldFileName k).Dated := by
  have hdated : (r.fileName k).Dated := DataKind.dated_fileName h.1
  exact ⟨hdated, hdated⟩

theorem readDataPoints_ok_of_missing {f : FileName} {returns : Bool} {pos n : ℕ}
    {missing : List UInt8 → SdFiles → ReadResult} (h : sd.Consistent) (hf : sd.Faithful f)
    (hfile : sd.lfs.files (sdGetPathWithFilename f) = none)
    (hok : (missing data (sdLfsOpenBufferedRead f {} sd).1).ok = true) :
    (readDataPoints f returns pos n missing {} data sd).ok = true := by
  have hmissing : Error.isMissing (sdLfsOpenBufferedRead f {} sd).2 = true :=
    (SdFiles.Faithful.open_iff h hf rfl).2.mpr hfile
  unfold readDataPoints
  dsimp only
  rwa [if_pos hmissing]

/-- A read without an error on an empty card. -/
theorem sdRead_ok_of_missing (h : Missing b k r sd) :
    (sdRead b k r amount offset {} {} data sd).ok = true := by
  cases k with
  | wallbox => exact readDataPoints_ok_of_missing h.consistent h.faithful h.missing rfl
  | wallboxDaily => exact readDataPoints_ok_of_missing h.consistent h.faithful h.missing rfl
  | energyManager =>
    apply readDataPoints_ok_of_missing h.consistent h.faithful h.missing
    cases b with
    | v2 => rfl
    | v1 =>
      obtain ⟨hconsistent, hfaithful, hmissing⟩ :=
        h.opened (GetRequest.fileName_ne_old (Or.inl rfl)) {}
      exact readDataPoints_ok_of_missing hconsistent hfaithful hmissing rfl
  | energyManagerDaily =>
    apply readDataPoints_ok_of_missing h.consistent h.faithful h.missing
    cases b with
    | v2 => rfl
    | v1 =>
      obtain ⟨hconsistent, hfaithful, hmissing⟩ :=
        h.opened (GetRequest.fileName_ne_old (Or.inr rfl)) {}
      exact readDataPoints_ok_of_missing hconsistent hfaithful hmissing rfl

theorem readEntries_ok {returns : Bool} {pos n : ℕ}
    (hlength : ((sd.bufferedReadFile.content.drop pos).take n).length = n) :
    (readEntries returns pos n {} data sd).ok = true := by
  have hbytes : (sd.setBufferedRead (sd.bufferedRead.seek pos none)).bufferedRead.readBytes n none =
      some ((sd.bufferedReadFile.content.drop pos).take n) := rfl
  unfold readEntries
  simp only [Option.isSome_none, Bool.false_and, Bool.false_eq_true, if_false, hbytes,
    Option.map_some, hlength, if_true]

theorem readDataPoints_ok_of_file {f : FileName} {returns : Bool} {pos n : ℕ}
    {missing : List UInt8 → SdFiles → ReadResult} {content : List UInt8} (h : sd.Consistent)
    (hf : sd.Faithful f) (hfile : sd.lfs.files (sdGetPathWithFilename f) = some content)
    (hlength : pos + n ≤ content.length) :
    (readDataPoints f returns pos n missing {} data sd).ok = true := by
  have hopen : (sdLfsOpenBufferedRead f {} sd).2 = none :=
    (SdFiles.Faithful.open_iff h hf rfl).1.mpr (by rw [hfile]; rfl)
  have hcontent := (SdFiles.Faithful.open h hf fun hmissing => by cases hmissing).2 hopen
  rw [hfile] at hcontent
  have hwindow : (((sdLfsOpenBufferedRead f {} sd).1.bufferedReadFile.content.drop pos).take
      n).length = n := by
    rw [← Option.some.inj hcontent, List.length_take, List.length_drop]
    omega
  unfold readDataPoints
  dsimp only
  rw [hopen]
  show (readEntries returns pos n {} data _).ok = true
  exact readEntries_ok hwindow

/-- A read without an error of entries that are in the file. -/
theorem sdRead_ok_of_file {content : List UInt8} (h : sd.Consistent)
    (hf : sd.Faithful (r.fileName k))
    (hfile : sd.lfs.files (sdGetPathWithFilename (r.fileName k)) = some content)
    (hlength : k.position (entrySize b k) r.day r.hour r.minute offset + amount * entrySize b k ≤
      content.length) : (sdRead b k r amount offset {} {} data sd).ok = true := by
  cases k <;> exact readDataPoints_ok_of_file h hf hfile hlength

/-- **Missing file and fresh file.**  The bytes are the same exactly for nothing, the
wallbox data, and the daily energy manager data unless the V1 build is to make up
several entries. -/
theorem missing_like_fresh (b : Build) (k : DataKind) (r : GetRequest) (amount offset : ℕ)
    (hrange : k.InRange r.day r.hour r.minute)
    (hfit : k.slot r.day r.hour r.minute + offset + amount ≤ k.slots) :
    SameAsFresh b k r amount offset ↔ amount = 0 ∨ k = .wallbox ∨ k = .wallboxDaily ∨
      k = .energyManagerDaily ∧ (b = .v2 ∨ amount = 1) := by
  constructor
  · intro hsame
    rcases Nat.eq_zero_or_pos amount with hzero | hamount
    · exact Or.inl hzero
    right
    -- an empty card against a new file
    have hfill (data : List UInt8) (hroom : amount * entrySize b k ≤ data.length) :
        (missingData b k amount data).take (amount * entrySize b k) =
          (List.replicate amount (newEntry b k)).flatten := by
      obtain ⟨hdated, hdatedOld⟩ := GetRequest.dated_fileName hrange
      let sd : SdFiles := { lfs := { files := fun _ => none } }
      let sd' : SdFiles := { lfs := { files := fun _ => some (newFile b k) } }
      have hmissing : Missing b k r sd :=
        ⟨(SdFiles.counted_cleared rfl).toConsistent, faithful_cleared hdated, rfl,
          fun _ => faithful_cleared hdatedOld, fun _ => rfl⟩
      have hconsistent : sd'.Consistent := (SdFiles.counted_cleared rfl).toConsistent
      have hfaithful : sd'.Faithful (r.fileName k) := faithful_cleared hdated
      have hok : (sdRead b k r amount offset {} {} data sd).ok = true :=
        sdRead_ok_of_missing hmissing
      have hok' : (sdRead b k r amount offset {} {} data sd').ok = true := by
        apply sdRead_ok_of_file hconsistent hfaithful rfl
        rw [DataKind.position_eq hrange.1 (by omega), length_newFile, slotPosition, Nat.add_assoc,
          ← Nat.add_mul]
        exact Nat.add_le_add_left (Nat.mul_le_mul_right _ hfit) _
      have hbytes := hsame sd sd' {} {} {} {} data data [] hmissing hconsistent hfaithful rfl
        (List.forall_mem_nil _) (List.forall_mem_nil _) rfl (fun _ => rfl) hroom hok hok'
      rw [sdRead_of_missing hmissing hok] at hbytes
      exact hbytes.trans (take_sdRead_fileWith hrange hfit hamount hconsistent hfaithful
        (show _ = some (fileWith b k []) from rfl) (List.forall_mem_nil _) (List.forall_mem_nil _)
        rfl (fun _ => rfl) hok')
    cases k with
    | wallbox => exact Or.inl rfl
    | wallboxDaily => exact Or.inr (Or.inl rfl)
    | energyManager =>
      exfalso
      have hroom : amount * entrySize b .energyManager ≤
          (List.replicate (amount * entrySize b .energyManager) (0 : UInt8)).length :=
        List.length_replicate.ge
      have hprice := congrArg (fun l : List UInt8 =>
        (l.drop (entrySize b .energyManager - 4)).take 4) (hfill _ hroom)
      have hentry : entrySize b .energyManager ≤ amount * entrySize b .energyManager :=
        Nat.le_mul_of_pos_left _ hamount
      have hfour : 4 ≤ entrySize b .energyManager := by cases b <;> decide
      rw [Bytes.window_take (by omega), price_missingData hamount hroom, price_newEntry hamount]
        at hprice
      exact absurd hprice (by decide)
    | energyManagerDaily =>
      refine Or.inr (Or.inr ⟨rfl, ?_⟩)
      cases b with
      | v2 => exact Or.inl rfl
      | v1 =>
        right
        by_contra hone
        change ∀ data : List UInt8, amount * 60 ≤ data.length →
          (missingData .v1 .energyManagerDaily amount data).take (amount * 60) = _ at hfill
        have hbytes := hfill (List.replicate (amount * 60) 0) List.length_replicate.ge
        have hrest := congrArg (fun l : List UInt8 => l[(amount - 1) * 60 + 52]?) hbytes
        rw [List.getElem?_take_of_lt (by omega), rest_missingData (by omega)
          List.length_replicate.ge] at hrest
        have hfresh : (List.replicate amount (newEntry .v1 .energyManagerDaily)).flatten =
            List.replicate (amount * 60) 0xFF := List.flatten_replicate_replicate
        rw [hfresh, List.getElem?_replicate_of_lt (by omega),
          List.getElem?_replicate_of_lt (by omega)] at hrest
        exact absurd (Option.some.inj hrest) (by decide)
  · intro hagree sd sd' codes old codes' old' data data' points hmissing hconsistent hfaithful
      hfile hpoints hother hcode hseek hroom hok hok'
    rcases Nat.eq_zero_or_pos amount with rfl | hamount
    · simp
    · rw [take_sdRead_fileWith hrange hfit hamount hconsistent hfaithful hfile hpoints hother hcode
        hseek hok', sdRead_of_missing hmissing hok]
      exact take_missingData (hagree.resolve_left hamount.ne') hroom

/-- Two wallbox entries of the first of January 2024. -/
theorem missing_like_fresh_wallbox :
    SameAsFresh .v2 .wallbox { year := 24, month := 1, day := 1, amount := 2 } 2 0 :=
  (missing_like_fresh .v2 .wallbox { year := 24, month := 1, day := 1, amount := 2 } 2 0 (by decide)
    (by decide)).mpr (Or.inr (Or.inl rfl))

/-- The entry of midnight, without a file and next to an entry that was written: the
prices differ. -/
theorem missing_unlike_fresh :
    ¬ ∀ b k r amount offset, DataKind.InRange k r.day r.hour r.minute →
      k.slot r.day r.hour r.minute + offset + amount ≤ k.slots →
      SameAsFresh b k r amount offset := by
  intro h
  let r : GetRequest := { year := 24, month := 1, day := 1, amount := 1 }
  let other : DataPoint .v2 := .filled .v2 .energyManager 5 1
  have hdated : (r.fileName .energyManager).Dated := by decide
  have hbytes := h .v2 .energyManager r 1 0 (by decide) (by decide)
    { lfs := { files := fun _ => none } }
    { lfs := { files := fun _ => some (fileWith .v2 .energyManager [other]) } } {} {} {} {}
    (List.replicate 34 0) (List.replicate 34 0) [other]
    ⟨(SdFiles.counted_cleared rfl).toConsistent, faithful_cleared hdated, rfl, nofun, nofun⟩
    (SdFiles.counted_cleared rfl).toConsistent (faithful_cleared hdated) rfl (by decide)
    (by decide) rfl (fun _ => rfl) (by decide) (by decide +kernel) (by decide +kernel)
  revert hbytes
  decide +kernel

end Bricklib2
