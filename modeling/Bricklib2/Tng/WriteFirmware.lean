/-
Bricklib2/Tng/WriteFirmware.lean

Which flash cells `tng_write_firmware` erases and programs, over any sequence
of messages.

The erase covers whole pages of the new-firmware region and nothing else.  A
chunk is programmed at region start + pointer, in wrapping 32-bit arithmetic,
and neither `tng_set_write_firmware_pointer` nor `tng_write_firmware` looks at
the pointer: the status INVALID_POINTER only reports a failed HAL call.  So a
chunk stays in the region exactly when it ends there, `pointer + 64 ≤ size`.

Main result: `tng_writeFirmware_contained`; `tng_writeFirmware_escapes` is the
pointer that reaches the running firmware.
-/
import Bricklib2.Tng.Communication

namespace Bricklib2

open Machine

/-! ### Cells of an access -/

/-- Who the access to the flash is for. -/
def FlashAccess.user : FlashAccess → FlashUser
  | .erase user _ _ => user
  | .program user _ _ => user

/-- The first cell of an access. -/
def FlashAccess.first : FlashAccess → ℕ
  | .erase _ pageAddress _ => pageAddress
  | .program _ address _ => address

/-- The number of cells of an access. -/
def FlashAccess.size (config : TNGConfig) : FlashAccess → ℕ
  | .erase _ _ nbPages => nbPages * config.flashPageSize
  | .program _ _ _ => 4

/-- All cells lie in the new-firmware region. -/
def FlashAccess.InNewFirmware (config : TNGConfig) (a : FlashAccess) : Prop :=
  stm32f0FirmwareNewPosStart ≤ a.first ∧
    a.first + a.size config ≤ stm32f0FirmwareNewPosStart + stm32f0FirmwareSize

/-- What `tng_write_firmware` has done to the flash is confined to the
new-firmware region. -/
def Contained (config : TNGConfig) (s : TNGCommunication) : Prop :=
  ∀ a ∈ s.flash, a.user = .writeFirmware → a.InNewFirmware config

/-- A chunk is only written where it ends inside the region. -/
def ChunkFits (s : TNGCommunication) (m : TNGMessage) : Prop :=
  tfpGetFidFromMessage m.message = tngFidWriteFirmware →
    s.tngFirmwarePointer + tngWriteFirmwareChunkSize ≤ stm32f0FirmwareSize

/-- No HAL call of a message fails. -/
def TNGMessage.HalOk (m : TNGMessage) : Prop :=
  m.env.eraseOk = true ∧ ∀ i, m.env.programOk i = true

variable {config : TNGConfig} {env : TNGEnvironment} {message : List UInt8}
variable {s s' : TNGCommunication}

/-! ### Addresses -/

theorem wordAt_lt (data : List UInt8) (i : ℕ) : wordAt data i < 2 ^ 32 := by
  have h0 := (byteAt data i).toNat_lt
  have h1 := (byteAt data (i + 1)).toNat_lt
  have h2 := (byteAt data (i + 2)).toNat_lt
  have h3 := (byteAt data (i + 3)).toNat_lt
  unfold wordAt
  omega

/-- A word of a fitting chunk lies in the region. -/
theorem program_inNewFirmware {i data : ℕ}
    (hfit : s.tngFirmwarePointer + tngWriteFirmwareChunkSize ≤ stm32f0FirmwareSize)
    (hi : i + 4 ≤ tngWriteFirmwareChunkSize) :
    (FlashAccess.program .writeFirmware (s.writeAddress i) data).InNewFirmware config := by
  have hsize : stm32f0FirmwareSize = 61440 := by decide
  have hstart : stm32f0FirmwareNewPosStart = 0x8011000 := by decide
  show stm32f0FirmwareNewPosStart ≤ s.writeAddress i ∧
    s.writeAddress i + 4 ≤ stm32f0FirmwareNewPosStart + stm32f0FirmwareSize
  unfold TNGCommunication.writeAddress
  rw [hsize] at hfit ⊢
  rw [hstart]
  omega

/-- The first and the last word of a chunk that does not fit cannot both lie
in the region: either the end or the 32-bit wrap gets in between. -/
theorem chunkFits_of_inNewFirmware {data data' : ℕ} (hp : s.tngFirmwarePointer < 2 ^ 32)
    (hfirst : (FlashAccess.program .writeFirmware (s.writeAddress 0) data).InNewFirmware config)
    (hlast : (FlashAccess.program .writeFirmware (s.writeAddress 60) data').InNewFirmware
      config) :
    s.tngFirmwarePointer + tngWriteFirmwareChunkSize ≤ stm32f0FirmwareSize := by
  have hsize : stm32f0FirmwareSize = 61440 := by decide
  have hstart : stm32f0FirmwareNewPosStart = 0x8011000 := by decide
  have h0 : stm32f0FirmwareNewPosStart ≤ s.writeAddress 0 ∧
    s.writeAddress 0 + 4 ≤ stm32f0FirmwareNewPosStart + stm32f0FirmwareSize := hfirst
  have h60 : stm32f0FirmwareNewPosStart ≤ s.writeAddress 60 ∧
    s.writeAddress 60 + 4 ≤ stm32f0FirmwareNewPosStart + stm32f0FirmwareSize := hlast
  unfold TNGCommunication.writeAddress at h0 h60
  rw [hsize, hstart] at h0 h60
  rw [hsize, tngWriteFirmwareChunkSize]
  omega

/-- The erase covers at most the region, whatever the page size is. -/
theorem erase_inNewFirmware :
    (FlashAccess.erase .writeFirmware stm32f0FirmwareNewPosStart
      (stm32f0FirmwareSize / config.flashPageSize)).InNewFirmware config :=
  ⟨le_rfl, Nat.add_le_add_left (Nat.div_mul_le_self _ _) _⟩

/-! ### What one message does -/

/-- The accesses a state has seen since another one. -/
def Logged (P : FlashAccess → Prop) (s s' : TNGCommunication) : Prop :=
  ∃ l, s'.flash = s.flash ++ l ∧ ∀ a ∈ l, P a

theorem Logged.refl (P : FlashAccess → Prop) (s : TNGCommunication) : Logged P s s :=
  ⟨[], (List.append_nil _).symm, nofun⟩

theorem Logged.log {P : FlashAccess → Prop} {a : FlashAccess} (h : Logged P s s') (ha : P a) :
    Logged P s (s'.log a) := by
  obtain ⟨l, hl, hP⟩ := h
  refine ⟨l ++ [a], ?_, ?_⟩
  · show s'.flash ++ [a] = s.flash ++ (l ++ [a])
    rw [hl, List.append_assoc]
  · intro b hb
    rcases List.mem_append.mp hb with hb | hb
    · exact hP b hb
    · rw [List.mem_singleton.mp hb]
      exact ha

/-- An access of the chunk loop: a word at an offset inside the chunk. -/
def ChunkAccess (s : TNGCommunication) (a : FlashAccess) : Prop :=
  ∃ i data, i + 4 ≤ tngWriteFirmwareChunkSize ∧
    a = .program .writeFirmware (s.writeAddress i) data

/-- The loop keeps the pointer and only programs words of its chunk. -/
theorem tngWriteFirmwareLoop_spec (env : TNGEnvironment) (message : List UInt8) {words : ℕ}
    (hw : 4 * words ≤ tngWriteFirmwareChunkSize) (s₀ : TNGCommunication)
    (hp : s.tngFirmwarePointer = s₀.tngFirmwarePointer)
    (hl : Logged (ChunkAccess s₀) s₀ s) :
    (tngWriteFirmwareLoop env message words s).2.tngFirmwarePointer = s₀.tngFirmwarePointer ∧
      Logged (ChunkAccess s₀) s₀ (tngWriteFirmwareLoop env message words s).2 := by
  induction words generalizing s with
  | zero => exact ⟨hp, hl⟩
  | succ words ih =>
    have haddr : ∀ i, s.writeAddress i = s₀.writeAddress i := by
      intro i
      rw [TNGCommunication.writeAddress, hp, TNGCommunication.writeAddress]
    have hlog := hl.log (a := .program .writeFirmware
      (s.writeAddress (tngWriteFirmwareChunkSize - 4 * (words + 1)))
      (wordAt message (8 + (tngWriteFirmwareChunkSize - 4 * (words + 1)))))
      ⟨tngWriteFirmwareChunkSize - 4 * (words + 1), _, by omega, by rw [haddr]⟩
    simp only [tngWriteFirmwareLoop]
    split
    · exact ih (by omega) hp hlog
    · exact ⟨hp, hlog⟩

/-- While no word fails, the loop programs all of them. -/
theorem tngWriteFirmwareLoop_all (message : List UInt8) (words : ℕ)
    (hok : ∀ i, env.programOk i = true) :
    (∀ a ∈ s.flash, a ∈ (tngWriteFirmwareLoop env message words s).2.flash) ∧
      ∀ k < words, ∃ data, FlashAccess.program .writeFirmware
        (s.writeAddress (tngWriteFirmwareChunkSize - 4 * (k + 1))) data ∈
          (tngWriteFirmwareLoop env message words s).2.flash := by
  induction words generalizing s with
  | zero => exact ⟨fun _ ha => ha, nofun⟩
  | succ words ih =>
    simp only [tngWriteFirmwareLoop, hok, if_true]
    obtain ⟨hkeep, hall⟩ := ih (s := s.log (.program .writeFirmware
      (s.writeAddress (tngWriteFirmwareChunkSize - 4 * (words + 1)))
      (wordAt message (8 + (tngWriteFirmwareChunkSize - 4 * (words + 1))))))
    refine ⟨fun a ha => hkeep a (List.mem_append_left _ ha), fun k hk => ?_⟩
    rcases Nat.lt_succ_iff_lt_or_eq.mp hk with hlt | rfl
    · exact hall k hlt
    · exact ⟨_, hkeep _ (List.mem_append_right _ (List.mem_singleton_self _))⟩

/-- An access of `tng_write_firmware`: the erase, for pointer 0, or a word of
the chunk. -/
def WriteAccess (config : TNGConfig) (s : TNGCommunication) (a : FlashAccess) : Prop :=
  a = .erase .writeFirmware stm32f0FirmwareNewPosStart
      (stm32f0FirmwareSize / config.flashPageSize) ∨ ChunkAccess s a

theorem Logged.mono {P Q : FlashAccess → Prop} (h : Logged P s s') (hPQ : ∀ a, P a → Q a) :
    Logged Q s s' := by
  obtain ⟨l, hl, hP⟩ := h
  exact ⟨l, hl, fun a ha => hPQ a (hP a ha)⟩

/-- The erase in front of a chunk keeps the pointer. -/
theorem tngWriteFirmwareErase_spec (config : TNGConfig) (env : TNGEnvironment)
    (s : TNGCommunication) :
    (tngWriteFirmwareErase config env s).2.tngFirmwarePointer = s.tngFirmwarePointer ∧
      Logged (WriteAccess config s) s (tngWriteFirmwareErase config env s).2 := by
  unfold tngWriteFirmwareErase
  split
  · exact ⟨rfl, (Logged.refl _ s).log (Or.inl rfl)⟩
  · exact ⟨rfl, Logged.refl _ s⟩

theorem Logged.trans {P : FlashAccess → Prop} {s'' : TNGCommunication} (h : Logged P s s')
    (h' : Logged P s' s'') : Logged P s s'' := by
  obtain ⟨l, hl, hP⟩ := h
  obtain ⟨l', hl', hP'⟩ := h'
  refine ⟨l ++ l', by rw [hl', hl, List.append_assoc], fun a ha => ?_⟩
  exact (List.mem_append.mp ha).elim (hP a) (hP' a)

/-- `tng_write_firmware` ends with the erase alone or with the loop behind it. -/
theorem tngWriteFirmware_fst (response : List UInt8) :
    (tngWriteFirmware config env message s response).1 =
      if (tngWriteFirmwareErase config env s).1 then
        (tngWriteFirmwareLoop env message (tngWriteFirmwareChunkSize / 4)
          (tngWriteFirmwareErase config env s).2).2
      else (tngWriteFirmwareErase config env s).2 := by
  unfold tngWriteFirmware
  rcases e : tngWriteFirmwareErase config env s with ⟨goOn, t⟩
  cases goOn with
  | false => rfl
  | true =>
    rcases e' : tngWriteFirmwareLoop env message (tngWriteFirmwareChunkSize / 4) t with ⟨ok, u⟩
    cases ok <;> simp only [e', if_true]

theorem tngWriteFirmware_spec (config : TNGConfig) (env : TNGEnvironment) (message : List UInt8)
    (s : TNGCommunication) (response : List UInt8) :
    (tngWriteFirmware config env message s response).1.tngFirmwarePointer =
        s.tngFirmwarePointer ∧
      Logged (WriteAccess config s) s (tngWriteFirmware config env message s response).1 := by
  rw [tngWriteFirmware_fst]
  obtain ⟨hp, hl⟩ := tngWriteFirmwareErase_spec config env s
  split
  · -- the loop starts where the erase has left the log, with the same pointer
    obtain ⟨hp', hl'⟩ := tngWriteFirmwareLoop_spec env message
      (by decide : 4 * (tngWriteFirmwareChunkSize / 4) ≤ tngWriteFirmwareChunkSize)
      (tngWriteFirmwareErase config env s).2 rfl (Logged.refl _ _)
    refine ⟨hp'.trans hp, hl.trans (hl'.mono ?_)⟩
    rintro a ⟨i, data, hi, rfl⟩
    refine Or.inr ⟨i, data, hi, ?_⟩
    rw [TNGCommunication.writeAddress, hp, TNGCommunication.writeAddress]
  · exact ⟨hp, hl⟩

/-- While no HAL call fails, the first and the last word are programmed. -/
theorem tngWriteFirmware_all (response : List UInt8) (herase : env.eraseOk = true)
    (hok : ∀ i, env.programOk i = true) :
    ∃ data data',
      FlashAccess.program .writeFirmware (s.writeAddress 0) data ∈
          (tngWriteFirmware config env message s response).1.flash ∧
        FlashAccess.program .writeFirmware (s.writeAddress 60) data' ∈
          (tngWriteFirmware config env message s response).1.flash := by
  have hgo : (tngWriteFirmwareErase config env s).1 = true := by
    unfold tngWriteFirmwareErase
    split
    · exact herase
    · rfl
  have hp := (tngWriteFirmwareErase_spec config env s).1
  have haddr : ∀ i, (tngWriteFirmwareErase config env s).2.writeAddress i = s.writeAddress i := by
    intro i
    rw [TNGCommunication.writeAddress, hp, TNGCommunication.writeAddress]
  rw [tngWriteFirmware_fst, if_pos hgo]
  have hall := (tngWriteFirmwareLoop_all message 16
    (s := (tngWriteFirmwareErase config env s).2) hok).2
  obtain ⟨data, hfirst⟩ := hall 15 (by omega)
  obtain ⟨data', hlast⟩ := hall 0 (by omega)
  rw [haddr] at hfirst hlast
  exact ⟨data, data', hfirst, hlast⟩

theorem tngCopyFirmware_spec (env : TNGEnvironment) (s : TNGCommunication)
    (response : List UInt8) :
    (tngCopyFirmware env s response).1.tngFirmwarePointer = s.tngFirmwarePointer ∧
      Logged (fun a => a.user ≠ .writeFirmware) s (tngCopyFirmware env s response).1 := by
  have herase := (Logged.refl (fun a => a.user ≠ .writeFirmware) s).log
    (a := .erase .copyFirmware stm32f0BootInfoPosition 1) nofun
  simp only [tngCopyFirmware, tngFirmwareSetBootInfo]
  split
  · split
    · exact ⟨rfl, herase.log nofun⟩
    · exact ⟨rfl, herase⟩
  · exact ⟨rfl, Logged.refl _ s⟩

theorem tngWriteUid_spec (env : TNGEnvironment) (message : List UInt8) (s : TNGCommunication)
    (response : List UInt8) :
    (tngWriteUid env message s response).1.tngFirmwarePointer = s.tngFirmwarePointer ∧
      Logged (fun a => a.user ≠ .writeFirmware) s (tngWriteUid env message s response).1 := by
  have herase := (Logged.refl (fun a => a.user ≠ .writeFirmware) s).log
    (a := .erase .writeUid stm32f0UidPosition 1) nofun
  simp only [tngWriteUid]
  split
  · exact ⟨rfl, Logged.refl _ s⟩
  · split
    · split <;> exact ⟨rfl, herase.log nofun⟩
    · exact ⟨rfl, herase⟩

/-- Every other message keeps off the new firmware and stores 32-bit pointers
only. -/
theorem tngMessageStep_other {m : TNGMessage}
    (hfid : tfpGetFidFromMessage m.message ≠ tngFidWriteFirmware)
    (hp : s.tngFirmwarePointer < 2 ^ 32) (hs : tngMessageStep config s m = some s') :
    s'.tngFirmwarePointer < 2 ^ 32 ∧ Logged (fun a => a.user ≠ .writeFirmware) s s' := by
  have hrefl : Logged (fun a => a.user ≠ .writeFirmware) s s := Logged.refl _ s
  unfold tngMessageStep tngHandleMessage at hs
  simp only [if_neg hfid] at hs
  split at hs
  · rename_i t response ret hhandle
    obtain rfl := Option.some.inj hs
    split_ifs at hhandle <;> have heq := (Prod.mk.inj (Option.some.inj hhandle)).1
    · rw [← heq]
      exact ⟨hp, hrefl⟩
    · obtain ⟨hpointer, hlog⟩ := tngCopyFirmware_spec m.env s m.response
      rw [← heq]
      exact ⟨hpointer ▸ hp, hlog⟩
    · -- the new pointer is a 32-bit word of the message
      rw [← heq]
      exact ⟨wordAt_lt m.message 8, [], (List.append_nil _).symm, nofun⟩
    · rw [← heq]
      exact ⟨hp, hrefl⟩
    · obtain ⟨hpointer, hlog⟩ := tngWriteUid_spec m.env m.message s m.response
      rw [← heq]
      exact ⟨hpointer ▸ hp, hlog⟩
    all_goals
      rw [← heq]
      exact ⟨hp, hrefl⟩
  · obtain rfl := Option.some.inj hs
    exact ⟨Nat.two_pow_pos 32, [], (List.append_nil _).symm, nofun⟩

theorem tngMessageStep_writeFirmware {m : TNGMessage}
    (hfid : tfpGetFidFromMessage m.message = tngFidWriteFirmware) :
    tngMessageStep config s m =
      some (tngWriteFirmware config m.env m.message s m.response).1 := by
  unfold tngMessageStep tngHandleMessage
  simp only [hfid]
  rfl

/-! ### Runs -/

theorem Contained.logged {P : FlashAccess → Prop} (h : Contained config s) (hl : Logged P s s')
    (hP : ∀ a, P a → a.user = .writeFirmware → a.InNewFirmware config) :
    Contained config s' := by
  obtain ⟨l, hflash, hl⟩ := hl
  intro a ha huser
  rw [hflash] at ha
  rcases List.mem_append.mp ha with ha | ha
  · exact h a ha huser
  · exact hP a (hl a ha) huser

/-- One message that meets the condition keeps the writes contained. -/
theorem contained_step {m : TNGMessage} (hp : s.tngFirmwarePointer < 2 ^ 32)
    (h : Contained config s) (hfits : ChunkFits s m)
    (hs : tngMessageStep config s m = some s') :
    s'.tngFirmwarePointer < 2 ^ 32 ∧ Contained config s' := by
  by_cases hfid : tfpGetFidFromMessage m.message = tngFidWriteFirmware
  · rw [tngMessageStep_writeFirmware hfid] at hs
    obtain rfl := Option.some.inj hs
    obtain ⟨hpointer, hlog⟩ := tngWriteFirmware_spec config m.env m.message s m.response
    refine ⟨by rw [hpointer]; exact hp, h.logged hlog ?_⟩
    rintro a (rfl | ⟨i, data, hi, rfl⟩) -
    · exact erase_inNewFirmware
    · exact program_inNewFirmware (hfits hfid) hi
  · obtain ⟨hp', hlog⟩ := tngMessageStep_other hfid hp hs
    exact ⟨hp', h.logged hlog fun a ha huser => absurd huser ha⟩

/-- What a message has done to the flash stays in the log. -/
theorem flash_subset {m : TNGMessage} (hp : s.tngFirmwarePointer < 2 ^ 32)
    (hs : tngMessageStep config s m = some s') :
    s'.tngFirmwarePointer < 2 ^ 32 ∧ s.flash ⊆ s'.flash := by
  by_cases hfid : tfpGetFidFromMessage m.message = tngFidWriteFirmware
  · rw [tngMessageStep_writeFirmware hfid] at hs
    obtain rfl := Option.some.inj hs
    obtain ⟨hpointer, l, hl, -⟩ := tngWriteFirmware_spec config m.env m.message s m.response
    exact ⟨by rw [hpointer]; exact hp, fun a ha => by rw [hl]; exact List.mem_append_left _ ha⟩
  · obtain ⟨hp', l, hl, -⟩ := tngMessageStep_other hfid hp hs
    exact ⟨hp', fun a ha => by rw [hl]; exact List.mem_append_left _ ha⟩

/-- A chunk whose HAL calls all succeed stays in the region only if it fits. -/
theorem chunkFits_of_contained {m : TNGMessage} (hp : s.tngFirmwarePointer < 2 ^ 32)
    (hok : m.HalOk) (hs : tngMessageStep config s m = some s') (h : Contained config s') :
    ChunkFits s m := by
  intro hfid
  rw [tngMessageStep_writeFirmware hfid] at hs
  obtain rfl := Option.some.inj hs
  obtain ⟨data, data', hfirst, hlast⟩ := tngWriteFirmware_all m.response hok.1 hok.2
  exact chunkFits_of_inNewFirmware hp (h _ hfirst rfl) (h _ hlast rfl)

/-- **Firmware write containment.**  Over any messages, `tng_write_firmware`
touches the new-firmware region only if every chunk is written where it fits;
and where no HAL call fails, that is exactly when. -/
theorem tng_writeFirmware_contained (config : TNGConfig) {ms : List TNGMessage}
    {s : TNGCommunication} (hr : run (tngMessageStep config) tngCommunicationInit ms = some s) :
    (Meets (tngMessageStep config) ChunkFits tngCommunicationInit ms → Contained config s) ∧
      ((∀ m ∈ ms, m.HalOk) → Contained config s →
        Meets (tngMessageStep config) ChunkFits tngCommunicationInit ms) := by
  constructor
  · intro hm
    have hinv := run_induct_meets (P := fun t => t.tngFirmwarePointer < 2 ^ 32 ∧ Contained config t)
      (fun t m t' ht hc hs => contained_step ht.1 ht.2 hc hs)
      ⟨Nat.two_pow_pos 32, fun _ ha => absurd ha List.not_mem_nil⟩ hm hr
    exact hinv.2
  · -- from any start: a run that ends contained was contained all along
    suffices hgen : ∀ ms t, t.tngFirmwarePointer < 2 ^ 32 →
        run (tngMessageStep config) t ms = some s → (∀ m ∈ ms, m.HalOk) → Contained config s →
        t.flash ⊆ s.flash ∧ Meets (tngMessageStep config) ChunkFits t ms from
      fun hok hs => (hgen ms _ (Nat.two_pow_pos 32) hr hok hs).2
    intro ms
    induction ms with
    | nil =>
      intro t _ hrun _ _
      obtain rfl := Option.some.inj hrun
      exact ⟨fun _ ha => ha, trivial⟩
    | cons m ms ih =>
      intro t hp hrun hok hcont
      obtain ⟨t', hstep, hrest⟩ := run_cons_eq_some.mp hrun
      obtain ⟨hp', hsub⟩ := flash_subset hp hstep
      obtain ⟨hsub', hmeets⟩ :=
        ih t' hp' hrest (fun m hm => hok m (List.mem_cons_of_mem _ hm)) hcont
      have ht' : Contained config t' := fun a ha => hcont a (hsub' ha)
      refine ⟨List.Subset.trans hsub hsub',
        chunkFits_of_contained hp (hok m List.mem_cons_self) hstep ht', fun u hu => ?_⟩
      obtain rfl := Option.some.inj (hstep.symm.trans hu)
      exact hmeets

/-! ### A pointer that reaches the running firmware -/

/-- A message of `fid` with a payload, on a flash that does what it is told. -/
def plainMessage (fid : UInt8) (payload : List UInt8) : TNGMessage where
  message := [0, 0, 0, 0, UInt8.ofNat (8 + payload.length), fid, 0, 0] ++ payload
  response := List.replicate tngBufferSize 0
  env := ⟨2, 0, 0, true, fun _ => true⟩

/-- A device to write firmwares to. -/
def plainConfig : TNGConfig := ⟨0, [1, 0, 0], [2, 0, 0], 2048⟩

/-- Set the pointer to 0xFFFF1000, then write one chunk of 0x55. -/
def escapingWrite : List TNGMessage :=
  [plainMessage 237 [0x00, 0x10, 0xFF, 0xFF], plainMessage 238 (List.replicate 64 0x55)]

/-- The pointer is not checked: the chunk goes to the start of the running
firmware. -/
theorem tng_writeFirmware_escapes :
    ∃ s, run (tngMessageStep plainConfig) tngCommunicationInit escapingWrite = some s ∧
      FlashAccess.program .writeFirmware stm32f0FirmwareActivePosStart 0x55555555 ∈ s.flash ∧
      ¬ Contained plainConfig s := by
  have hs : run (tngMessageStep plainConfig) tngCommunicationInit escapingWrite = some
      (after (tngMessageStep plainConfig) tngCommunicationInit escapingWrite) :=
    run_eq_after (by decide +kernel)
  have hmem : FlashAccess.program .writeFirmware stm32f0FirmwareActivePosStart 0x55555555 ∈
      (after (tngMessageStep plainConfig) tngCommunicationInit escapingWrite).flash := by
    decide +kernel
  refine ⟨_, hs, hmem, fun hcont => ?_⟩
  have hin := (hcont _ hmem rfl).1
  revert hin
  decide

/-- A chunk at pointer 0 is erased and written inside the region. -/
theorem tng_writeFirmware_first :
    Contained plainConfig (after (tngMessageStep plainConfig) tngCommunicationInit
      [plainMessage 238 (List.replicate 64 0x55)]) := by
  refine (tng_writeFirmware_contained plainConfig (run_eq_after (by decide +kernel))).1
    ⟨fun _ => by decide, fun _ _ => trivial⟩

end Bricklib2
