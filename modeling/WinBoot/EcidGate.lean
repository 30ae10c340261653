import WinBoot.CStrings

/-! The last check before the exploit: that the serial of the device in DFU mode has the chip and the
ECID that were asked for. Every read of a string is one that may lie outside it. -/

namespace WinBoot.EcidGate
open CStrings

/-- A character of a string literal. -/
def ascii (text : String) : List UInt8 := text.toList.map fun c => UInt8.ofNat c.toNat

/-- `"ECID:"` -/
def ecidMarker : CString := ⟨ascii "ECID:", by decide⟩

/-- `"CPID:7000"` -/
def cpidMarker : CString := ⟨ascii "CPID:7000", by decide⟩

def space : UInt8 := 32

/-- `'0'` to `'9'`, `'a'` to `'f'`, `'A'` to `'F'` -/
def isHexDigit (c : UInt8) : Bool := (48 ≤ c && c ≤ 57) || (97 ≤ c && c ≤ 102) || (65 ≤ c && c ≤ 70)

/-- The loop of `is_hex_string`, with so many characters left. -/
def isHexFrom (value : CString) : ℕ → ℕ → Option Bool
  | 0, _ => some true
  | n + 1, i => do
    let c ← value.read i
    if isHexDigit c then isHexFrom value n (i + 1) else return false

def isHexString : Option CString → Option Bool
  | none => some false
  | some value =>
    let n := strlen value
    if n = 0 ∨ n > 16 then some false else isHexFrom value n 0

/-- `a - 'a' + 'A'`, for `'a'` to `'f'` -/
def folded (a : UInt8) : UInt8 := if 97 ≤ a ∧ a ≤ 102 then a - 97 + 65 else a

/-- The loop of `serial_has_expected_ecid` and what follows it, with so many characters left. -/
def compareFrom (serial expected : CString) (found : ℕ) : ℕ → ℕ → Option Bool
  | 0, i => do
    let last ← serial.read (found + i)
    return last = 0 || last = space
  | n + 1, i => do
    let a ← serial.read (found + i)
    let b ← expected.read i
    if folded a ≠ folded b then return false
    compareFrom serial expected found n (i + 1)

def serialHasExpectedEcid (expected serial : Option CString) : Option Bool :=
  match serial, expected with
  | some serial, some expected =>
    match strstr serial ecidMarker with
    | none => some false
    | some found => compareFrom serial expected (found + strlen ecidMarker) (strlen expected) 0
  | _, _ => some false

/-- A chip is taken for a T7000 by the serial that YOLO leaves of it. -/
def yoloFallback (serialHasYolo : CString → Bool) (serial : CString) (cpid : UInt16) : UInt16 :=
  if cpid = 0 ∧ (strstr serial cpidMarker).isSome ∧ serialHasYolo serial then 0x7000 else cpid

def targetGate (expected : Option CString) (serial : CString) (cpid : UInt16) : Option UInt16 := do
  let cpid := if cpid ≠ 0 ∧ cpid ≠ 0x7000 then 0 else cpid
  if cpid = 0x7000 then
    let matched ← serialHasExpectedEcid expected (some serial)
    return if matched then cpid else 0
  else return cpid

/-- What `checkm8_check_usb_device` makes of a serial. What it was before the patch is what detects the
chip, before the fallback and after it. -/
def checkUsbDevice (detect later : CString → UInt16 → UInt16) (serialHasYolo : CString → Bool)
    (expected : Option CString) (serial : CString) : Option UInt16 :=
  targetGate expected serial (later serial (yoloFallback serialHasYolo serial (detect serial 0)))

/-- What stands after the first `ECID:`, up to a space or the end. -/
def Token (serial token : List UInt8) : Prop :=
  ∃ k, Occurs ecidMarker.bytes serial k ∧ (∀ j < k, ¬ Occurs ecidMarker.bytes serial j) ∧
    token = (serial.drop (k + ecidMarker.bytes.length)).takeWhile (· ≠ space)

/-- The token of a serial is the expected one, up to the case of `a` to `f`. -/
def HasToken (serial expected : List UInt8) : Prop :=
  ∃ token, Token serial token ∧ token.map folded = expected.map folded

section

variable {value serial expected : CString}

theorem isHexFrom_eq (n i : ℕ) (left : n + i = value.bytes.length) :
    isHexFrom value n i = some ((value.bytes.drop i).all isHexDigit) := by
  induction n generalizing i with
  | zero =>
    rw [Nat.zero_add] at left
    rw [isHexFrom, left, List.drop_length]
    rfl
  | succ n ih =>
    have inside : i < value.bytes.length := by omega
    have rest := ih (i + 1) (by omega)
    rw [isHexFrom, read_drop (Nat.le_of_lt inside), List.drop_eq_getElem_cons inside, List.all_cons]
    refine (?_ : (if isHexDigit value.bytes[i] then isHexFrom value n (i + 1) else some false) = _)
    cases isHexDigit value.bytes[i] with
    | false => rfl
    | true => exact rest

theorem isHexString_digits (accepted : isHexString (some value) = some true) :
    ∀ b ∈ value.bytes, isHexDigit b = true := by
  rw [isHexString] at accepted
  split at accepted
  · cases accepted
  · rw [isHexFrom_eq (strlen value) 0 rfl, List.drop_zero] at accepted
    exact List.all_eq_true.mp (Option.some.inj accepted)

/-- A hexadecimal digit matches neither the end nor a space. -/
theorem folded_digit {b : UInt8} (digit : isHexDigit b = true) :
    folded b ≠ 0 ∧ folded b ≠ space := by
  have each : ∀ n : Fin 256, isHexDigit (UInt8.ofFin n) = true →
      folded (UInt8.ofFin n) ≠ 0 ∧ folded (UInt8.ofFin n) ≠ space := by decide +kernel
  exact each b.toFin digit

/-- What follows a token is a space or the end. -/
theorem token_ends {rest : List UInt8} (plain : 0 ∉ rest) :
    (decide (rest.headD 0 = 0) || decide (rest.headD 0 = space)) =
      decide ((rest.takeWhile (· ≠ space)).map folded = []) := by
  cases rest with
  | nil => rfl
  | cons c rest =>
    have present : c ≠ 0 := fun zero => plain (zero ▸ List.mem_cons_self)
    by_cases last : c = space <;> simp [last, present]

/-- The first characters of a token and of what is expected. -/
theorem token_starts {rest digits : List UInt8} {b : UInt8} (digit : isHexDigit b = true) :
    ((rest.takeWhile (· ≠ space)).map folded = folded b :: digits) ↔
      ∃ c tail, rest = c :: tail ∧ folded c = folded b ∧ (tail.takeWhile (· ≠ space)).map folded = digits := by
  obtain ⟨-, visible⟩ := folded_digit digit
  cases rest with
  | nil => simp
  | cons c rest =>
    by_cases last : c = space
    · have other : folded c ≠ folded b := last ▸ Ne.symm visible
      simp [last, last ▸ other]
    · simp [last]

/-- The comparison reads no further than the terminating NUL, and compares what stands up to a space. -/
theorem compareFrom_eq {found : ℕ} (digits : ∀ b ∈ expected.bytes, isHexDigit b = true) (n i : ℕ)
    (left : n + i = expected.bytes.length) (inside : found + i ≤ serial.bytes.length) :
    compareFrom serial expected found n i =
      some (decide ((((serial.bytes.drop (found + i)).takeWhile (· ≠ space)).map folded) =
        (expected.bytes.drop i).map folded)) := by
  induction n generalizing i with
  | zero =>
    have plain : 0 ∉ serial.bytes.drop (found + i) := fun zero =>
      serial.plain (List.mem_of_mem_drop zero)
    have ended : expected.bytes.drop i = [] := List.drop_eq_nil_of_le (by omega)
    rw [compareFrom, read_drop inside, ended]
    exact congrArg some (token_ends plain)
  | succ n ih =>
    have more : i < expected.bytes.length := by omega
    have digit := digits _ (List.getElem_mem more)
    rw [compareFrom, read_drop inside, read_drop (Nat.le_of_lt more), List.drop_eq_getElem_cons more, List.map_cons]
    cases rest : serial.bytes.drop (found + i) with
    | nil =>
      have ended : folded 0 ≠ folded expected.bytes[i] := Ne.symm (folded_digit digit).1
      refine (if_pos ended).trans (congrArg some (decide_eq_false fun same => ?_).symm)
      cases same
    | cons c tail =>
      have short : found + i < serial.bytes.length := by
        by_contra long
        rw [List.drop_eq_nil_of_le (Nat.le_of_not_lt long)] at rest
        cases rest
      have later : serial.bytes.drop (found + (i + 1)) = tail := by
        rw [← Nat.add_assoc, ← List.drop_drop, rest]
        rfl
      by_cases same : folded c = folded expected.bytes[i]
      · refine (if_neg (not_not.mpr same)).trans ?_
        rw [ih (i + 1) (by omega) short, later]
        refine congrArg some (decide_eq_decide.mpr ⟨fun more => ?_, fun whole => ?_⟩)
        · exact (token_starts digit).mpr ⟨c, tail, rfl, same, more⟩
        · obtain ⟨_, _, split, -, more⟩ := (token_starts digit).mp whole
          cases split
          exact more
      · refine (if_pos same).trans (congrArg some (decide_eq_false fun whole => ?_).symm)
        obtain ⟨_, _, split, starts, -⟩ := (token_starts digit).mp whole
        cases split
        exact same starts

theorem hasToken_first {serial expected : List UInt8} {k : ℕ}
    (occurs : Occurs ecidMarker.bytes serial k)
    (first : ∀ j < k, ¬ Occurs ecidMarker.bytes serial j) : HasToken serial expected ↔
      ((serial.drop (k + ecidMarker.bytes.length)).takeWhile (· ≠ space)).map folded = expected.map folded := by
  constructor
  · rintro ⟨_, ⟨j, other, earlier, rfl⟩, same⟩
    have together : j = k := by
      obtain below | equal | above := Nat.lt_trichotomy j k
      · exact absurd other (first j below)
      · exact equal
      · exact absurd occurs (earlier k above)
    rwa [together] at same
  · intro same
    exact ⟨_, ⟨k, occurs, first, rfl⟩, same⟩

/-- The check answers for every serial, and says whether its token is the expected one. -/
theorem serialHasExpectedEcid_eq (hex : isHexString (some expected) = some true) :
    ∃ answer, serialHasExpectedEcid (some expected) (some serial) = some answer ∧
      (answer = true ↔ HasToken serial.bytes expected.bytes) := by
  rw [serialHasExpectedEcid]
  cases search : strstr serial ecidMarker with
  | none =>
    refine ⟨false, rfl, iff_of_false Bool.false_ne_true ?_⟩
    rintro ⟨_, ⟨k, occurs, -, -⟩, -⟩
    exact find_none search k occurs
  | some k =>
    obtain ⟨occurs, first⟩ := find_some.mp search
    have inside : k + ecidMarker.bytes.length ≤ serial.bytes.length := by
      obtain ⟨before, rest, whole, size⟩ := occurs
      rw [whole, List.length_append, List.length_append, size]
      exact Nat.le_add_right _ _
    refine ⟨_, compareFrom_eq (isHexString_digits hex) (strlen expected) 0 rfl inside, ?_⟩
    rw [decide_eq_true_iff, hasToken_first occurs first]
    rfl

/-- What the gate leaves of a chip id. -/
theorem targetGate_left (hex : isHexString (some expected) = some true) (cpid : UInt16) :
    ∃ left, targetGate (some expected) serial cpid = some left ∧
      (left ≠ 0 → left = 0x7000 ∧ cpid = 0x7000 ∧ HasToken serial.bytes expected.bytes) := by
  obtain ⟨answer, answered, matched⟩ : ∃ answer, serialHasExpectedEcid (some expected) (some serial) =
    some answer ∧ (answer = true ↔ HasToken serial.bytes expected.bytes) := serialHasExpectedEcid_eq hex
  by_cases t7000 : cpid = 0x7000
  · refine ⟨if answer then 0x7000 else 0, ?_, fun nonzero => ?_⟩
    · simp [targetGate, t7000, answered]
    · cases answer with
      | false => exact absurd rfl nonzero
      | true => exact ⟨rfl, t7000, matched.mp rfl⟩
  · refine ⟨0, ?_, fun nonzero => absurd rfl nonzero⟩
    by_cases none : cpid = 0 <;> simp [targetGate, t7000, none]

/-- Whatever detects the chip, what the callback leaves is nothing or a T7000 with the token. -/
theorem checkUsbDevice_left (detect later : CString → UInt16 → UInt16)
    (serialHasYolo : CString → Bool)
    (hex : isHexString (some expected) = some true) :
    ∃ left, checkUsbDevice detect later serialHasYolo (some expected) serial = some left ∧
      (left ≠ 0 → left = 0x7000 ∧ HasToken serial.bytes expected.bytes) := by
  obtain ⟨left, done, only⟩ := targetGate_left hex _
  exact ⟨left, done, fun nonzero => ⟨(only nonzero).1, (only nonzero).2.2⟩⟩

/-- The check of the token is exact and reads no further than the strings, and the gate lets nothing
through but a T7000 with that token. -/
theorem ecid_gate (serial expected : CString) (hex : isHexString (some expected) = some true) :
    (∃ answer, serialHasExpectedEcid (some expected) (some serial) = some answer ∧
      (answer = true ↔ HasToken serial.bytes expected.bytes)) ∧
    ∀ cpid, ∃ left, targetGate (some expected) serial cpid = some left ∧
      (left ≠ 0 → left = 0x7000 ∧ cpid = 0x7000 ∧ HasToken serial.bytes expected.bytes) :=
  ⟨serialHasExpectedEcid_eq hex, targetGate_left hex⟩

def dfuSerial : CString where
  bytes := ascii "CPID:7000 CPRV:11 CPFM:03 SCEP:01 BDID:34 ECID:001A2B3C4D5E6F70 IBFL:1C SRTG:[iBoot-1992.0.0.1.19]"
  plain := by decide

def confirmedEcid : CString := ⟨ascii "001a2b3c4d5e6f70", by decide⟩

/-- The token matches in the other case, and no other chip comes through. -/
theorem dfuSerial_gate : HasToken dfuSerial.bytes confirmedEcid.bytes ∧
    ∀ cpid, cpid ≠ 0x7000 → targetGate (some confirmedEcid) dfuSerial cpid = some 0 := by
  obtain ⟨⟨answer, answered, matched⟩, gate⟩ := ecid_gate dfuSerial confirmedEcid (by decide +kernel)
  have yes : serialHasExpectedEcid (some confirmedEcid) (some dfuSerial) = some true := by decide +kernel
  refine ⟨matched.mp (Option.some.inj (answered.symm.trans yes)), fun cpid other => ?_⟩
  obtain ⟨left, done, only⟩ := gate cpid
  by_cases none : left = 0
  · rw [done, none]
  · exact absurd (only none).2.1 other

end

end WinBoot.EcidGate
