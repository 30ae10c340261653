import WinBoot.PackedRegister

/-! The translation control register of the DART, which packs one byte for each of four streams, and
the patched driver's writes to it. -/

namespace WinBoot.DartTcr
open PackedRegister

/-- `DART_S5L8960X_TCR_BITS_PER_STREAM` -/
def tcrBitsPerStream : ℕ := 8

/-- `apple_dart_s5l8960x_write_tcr`: what is written back after the register was read. -/
def writeTcr (tcr : BitVec 32) (sid : Fin 4) (val : BitVec 32) : BitVec 32 :=
  let tcr := tcr &&& ~~~(0xff#32 <<< (sid * tcrBitsPerStream))
  tcr ||| (val &&& 0xff#32) <<< (sid * tcrBitsPerStream)

abbrev Write : Type := Fin 4 × BitVec 32

def writeAll (tcr : BitVec 32) (writes : List Write) : BitVec 32 :=
  writes.foldl (fun tcr write => writeTcr tcr write.1 write.2) tcr

/-- The byte of a stream. -/
def streamByte (tcr : BitVec 32) (sid : Fin 4) : BitVec 8 := (tcr >>> (sid * tcrBitsPerStream)).setWidth 8

def lowByte (val : BitVec 32) : BitVec 8 := val.setWidth 8

theorem writeTcr_put (tcr : BitVec 32) (sid : Fin 4) (val : BitVec 32) :
    writeTcr tcr sid val = put 8 sid val tcr := rfl

theorem streamByte_fields (tcr : BitVec 32) : streamByte tcr = fields 8 4 tcr := by
  funext sid
  apply BitVec.eq_of_getLsbD_eq
  intro i small
  rw [fields, getLsbD_field small, streamByte, tcrBitsPerStream]
  simp [small]

theorem streamByte_writeTcr (tcr : BitVec 32) (sid : Fin 4) (val : BitVec 32) :
    streamByte (writeTcr tcr sid val) = Function.update (streamByte tcr) sid (lowByte val) := by
  rw [streamByte_fields, streamByte_fields, writeTcr_put]
  exact fields_put (Nat.le_refl 32) sid val tcr

/-- The packed register is as good as four registers of a byte. -/
theorem streamByte_writeAll (tcr : BitVec 32) (writes : List Write) :
    streamByte (writeAll tcr writes) = stored lowByte (streamByte tcr) writes := by
  induction writes generalizing tcr with
  | nil => rfl
  | cons write writes ih =>
    have rest := ih (writeTcr tcr write.1 write.2)
    rw [streamByte_writeTcr] at rest
    exact rest

theorem streamByte_injective : Function.Injective streamByte := by
  intro tcr other same
  rw [streamByte_fields, streamByte_fields] at same
  exact fields_injective rfl same

/-- Each stream has what was last written to it, writes to several streams may come in any order, and
a write to one changes no other. -/
theorem streams_isolated (tcr : BitVec 32) (writes : List Write) :
    (∀ sid, streamByte (writeAll tcr writes) sid =
      ((writtenTo sid writes).getLast?.map lowByte).getD (streamByte tcr sid)) ∧
    (∀ others, (∀ sid, writtenTo sid writes = writtenTo sid others) →
      writeAll tcr writes = writeAll tcr others) ∧
    ∀ sid val other, other ≠ sid →
      streamByte (writeAll tcr (writes ++ [(sid, val)])) other = streamByte (writeAll tcr writes) other := by
  refine ⟨fun sid => ?_, fun others same => streamByte_injective ?_, fun sid val other apart => ?_⟩
  · rw [streamByte_writeAll]
    exact stored_apply lowByte _ writes sid
  · rw [streamByte_writeAll, streamByte_writeAll]
    exact stored_reorder lowByte _ same
  · have last : writeAll tcr (writes ++ [(sid, val)]) = writeTcr (writeAll tcr writes) sid val :=
      List.foldl_append
    rw [last, streamByte_writeTcr, Function.update_of_ne apart]

/-- Streams 0 and 1 enabled either way round, and 1 disabled. -/
theorem streams_swapped :
    writeAll 0x12345678 [(0, 0x80), (1, 0x180)] = writeAll 0x12345678 [(1, 0x180), (0, 0x80)] ∧
    streamByte (writeAll 0x12345678 ([(0, 0x80), (1, 0x180)] ++ [(1, 0)])) 0 =
      streamByte (writeAll 0x12345678 [(0, 0x80), (1, 0x180)]) 0 :=
  ⟨(streams_isolated 0x12345678 [(0, 0x80), (1, 0x180)]).2.1 _ (by decide),
    (streams_isolated 0x12345678 [(0, 0x80), (1, 0x180)]).2.2 1 0 0 (by decide)⟩

example : writeAll 0x12345678 [(0, 0x80), (1, 0x180)] = 0x12348080 := by decide

end WinBoot.DartTcr
