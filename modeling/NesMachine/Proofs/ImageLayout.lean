import NesMachine.Proofs.Install
/-!
# Reading an iNES image

`Cartridge.ofInes` threads an offset through the image: past the 16-byte header, past the
512-byte trainer when flags 6 announce one, past the program ROM. Each section is cut at the
offset reached so far, and a section that runs past the end of the image is reported with the
bytes that remain after its offset. With `t` the trainer's length (0 or 512) and `P` the program
ROM's, the offsets are `16`, `16 + t` and `16 + t + P`:

* `Header.parse_eq`: too short, then a bad magic, then the four header bytes;
* `Cartridge.ofInes_eq`: the whole reader in closed form, with its errors in their order, and
  every truncation reporting exactly the bytes after its section's offset, an offset the image
  always reaches.
-/

namespace NesMachine

/-! ## The header -/

/-- The first four bytes of a list of at least four. -/
theorem List.take_four_eq {bytes : List UInt8} (long : 4 ≤ bytes.length) :
    bytes.take 4 = [bytes.getD 0 0, bytes.getD 1 0, bytes.getD 2 0, bytes.getD 3 0] := by
  match bytes, long with
  | _ :: _ :: _ :: _ :: _, _ => rfl

/-- The header is refused when the image is shorter than 16 bytes, then when its first four
bytes are not the magic; otherwise it is bytes 4 to 7. -/
theorem Header.parse_eq (data : ByteArray) :
    Header.parse data =
      if data.size < 16 then .error (.tooShort data.size)
      else if data.toList.take 4 ≠ inesMagic then .error (.badMagic (data.toList.take 4))
      else .ok ⟨data.toList.getD 4 0, data.toList.getD 5 0, data.toList.getD 6 0,
        data.toList.getD 7 0⟩ := by
  have byte : ∀ i, data[i]?.getD 0 = data.toList.getD i 0 := fun i => by
    rw [List.getD_eq_getElem?_getD, ByteArray.getElem?_toList]
  unfold Header.parse headerLen
  by_cases short : data.size < 16
  · simp only [short, if_true]
  · have magic : data.toList.take 4 =
        [data.toList.getD 0 0, data.toList.getD 1 0, data.toList.getD 2 0, data.toList.getD 3 0] :=
      List.take_four_eq (by rw [ByteArray.length_toList]; omega)
    simp only [short, if_false, byte, magic, bne_iff_ne, ne_eq]

/-! ## The sections -/

/-- A section of `len` bytes at `offset` is cut out when the image holds it, and is otherwise
refused with the bytes the image holds past `offset`. -/
theorem Cartridge.take_eq (data : ByteArray) (offset len : Nat) (part : Section) :
    Cartridge.take data offset len part =
      if data.size < offset + len then .error (.truncated part len (data.size - offset))
      else .ok (data.extract offset (offset + len)) := by
  unfold Cartridge.take
  by_cases short : data.size < offset + len
  · rw [if_neg (by omega), if_pos short]
  · rw [if_pos (by omega), if_neg short]

theorem Except.ok_bind {ε α β : Type} (a : α) (f : α → Except ε β) : (Except.ok a >>= f) = f a := rfl

theorem Except.error_bind {ε α β : Type} (e : ε) (f : α → Except ε β) :
    (Except.error e >>= f) = Except.error e := rfl

/-- Past the header and any trainer, at `offset`, the program ROM is cut and then the character
ROM right after it, each refused when it runs past the end. -/
theorem Cartridge.sections_eq (data : ByteArray) (h : Header) (offset p c : Nat) :
    (do
      let prg ← Cartridge.take data offset p .prgRom
      let chr ← Cartridge.take data (offset + p) c .chrRom
      pure ⟨h, prg, chr⟩ : Except CartridgeError Cartridge) =
      if data.size < offset + p then .error (.truncated .prgRom p (data.size - offset))
      else if data.size < offset + p + c then .error (.truncated .chrRom c (data.size - (offset + p)))
      else .ok ⟨h, data.extract offset (offset + p), data.extract (offset + p) (offset + p + c)⟩ := by
  rw [Cartridge.take_eq, Cartridge.take_eq]
  by_cases shortPrg : data.size < offset + p
  · rw [if_pos shortPrg, if_pos shortPrg, Except.error_bind]
  rw [if_neg shortPrg, if_neg shortPrg, Except.ok_bind]
  by_cases shortChr : data.size < offset + p + c
  · rw [if_pos shortChr, if_pos shortChr, Except.error_bind]
  · rw [if_neg shortChr, if_neg shortChr, Except.ok_bind]
    rfl

/-- Reading an image. It is refused when shorter than 16 bytes, then when it does not open with
the magic; otherwise, with `t` the trainer's length (512 when bit 2 of byte 6 is set, else 0),
`P` the program ROM's (16 KiB per unit of byte 4) and `C` the character ROM's (8 KiB per unit of
byte 5), it is refused at the first of the trainer, the program ROM and the character ROM that
runs past its end, reporting the bytes that remain after the section's offset; else the
cartridge is the header bytes 4 to 7 with the two sections cut at offsets `16 + t` and
`16 + t + P`. Bytes 8 to 15, the trainer's contents and whatever follows the character ROM are
never read. Every truncation reports the bytes after an offset the image reaches, so the count
is exact and never cut off at zero. -/
theorem Cartridge.ofInes_eq (data : ByteArray) :
    (let byte (i : Nat) : UInt8 := data.toList.getD i 0
    let t := if byte 6 &&& 0x04 ≠ 0 then 512 else 0
    let p := 16384 * (byte 4).toNat
    let c := 8192 * (byte 5).toNat
    (Cartridge.ofInes data =
      if data.size < 16 then .error (.tooShort data.size)
      else if data.toList.take 4 ≠ inesMagic then .error (.badMagic (data.toList.take 4))
      else if t = 512 ∧ data.size < 16 + 512 then .error (.truncated .trainer 512 (data.size - 16))
      else if data.size < 16 + t + p then .error (.truncated .prgRom p (data.size - (16 + t)))
      else if data.size < 16 + t + p + c then
        .error (.truncated .chrRom c (data.size - (16 + t + p)))
      else .ok ⟨⟨byte 4, byte 5, byte 6, byte 7⟩, data.extract (16 + t) (16 + t + p),
        data.extract (16 + t + p) (16 + t + p + c)⟩) ∧
    ∀ part needed available, Cartridge.ofInes data = .error (.truncated part needed available) →
      available < needed ∧
        available + (match part with
          | .trainer => 16
          | .prgRom => 16 + t
          | .chrRom => 16 + t + p) = data.size) := by
  intro byte t p c
  -- the header as the reader builds it
  let h : Header := ⟨data.toList.getD 4 0, data.toList.getD 5 0, data.toList.getD 6 0,
    data.toList.getD 7 0⟩
  have lengths : h.prgLen = p ∧ h.chrLen = c := ⟨Nat.mul_comm _ _, Nat.mul_comm _ _⟩
  refine (fun chain => ⟨chain, fun part needed available truncated => ?_⟩) ?_
  · unfold Cartridge.ofInes
    rw [Header.parse_eq]
    by_cases short : data.size < 16
    · simp only [short, if_true]; rfl
    by_cases magic : data.toList.take 4 ≠ inesMagic
    · rw [if_neg short, if_pos magic, if_neg short, if_pos magic]; rfl
    rw [if_neg short, if_neg magic, if_neg short, if_neg magic, Except.ok_bind]
    change (if h.hasTrainer = true then _ else _) = _
    rw [lengths.1, lengths.2]
    simp only [headerLen, trainerLen]
    -- the trainer decides the offset the two sections are cut at
    by_cases bit : byte 6 &&& 0x04 ≠ 0
    · have hasTrainer : t = 512 := by simp [t, bit]
      have flagged : h.hasTrainer = true := by simpa [Header.hasTrainer] using bit
      rw [if_pos flagged, Cartridge.take_eq data 16 512, hasTrainer]
      by_cases shortTrainer : data.size < 16 + 512
      · rw [if_pos shortTrainer, if_pos ⟨rfl, shortTrainer⟩, Except.error_bind]
      · rw [if_neg shortTrainer, if_neg (fun both => shortTrainer both.2), Except.ok_bind, pure_bind]
        exact Cartridge.sections_eq data h (16 + 512) p c
    · have noTrainer : t = 0 := by simp [t, bit]
      have unflagged : h.hasTrainer = false := by simpa [Header.hasTrainer] using bit
      rw [if_neg (by simp [unflagged]), pure_bind, noTrainer, if_neg (fun both => absurd both.1 (by decide))]
      exact Cartridge.sections_eq data h (16 + 0) p c
  · -- every truncation comes from one branch of the chain, whose guards place the offset
    have trainerLength : t = 0 ∨ t = 512 := by simp only [t]; split <;> simp
    rw [chain] at truncated
    split_ifs at truncated with short magic noTrainer noPrg noChr <;> cases truncated <;>
      simp only <;> omega

end NesMachine
