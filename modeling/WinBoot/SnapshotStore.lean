import Mathlib.Data.List.GetD
import Mathlib.Data.List.Induction
import WinBoot.AtomicFile

/-! The host-side snapshot store: encrypted generations named by their hash, and the pointer
`current` that selects one. A save is two atomic writes, the generation and then the pointer,
and may stop after any file-system step. Names are case-exact, and SHA-256 is a parameter. -/

namespace WinBoot.SnapshotStore
open AtomicFile

/-- A SHA-256 digest. -/
def Digest : Type := {bytes : List UInt8 // bytes.length = 32}

variable (sha256 : List UInt8 → Digest)

def hexDigit (n : Nat) : Char :=
  ['0', '1', '2', '3', '4', '5', '6', '7', '8', '9', 'A', 'B', 'C', 'D', 'E', 'F'].getD n '?'

/-- `[Convert]::ToHexString` -/
def toHexString (bytes : List UInt8) : List Char :=
  bytes.flatMap fun b => [hexDigit (b.toNat / 16), hexDigit (b.toNat % 16)]

/-- `Get-A1625Sha256` -/
def getSha256 (bytes : List UInt8) : List Char := toHexString (sha256 bytes).1

def statePart : List Char := ['s', 't', 'a', 't', 'e', '-']
def dpapiPart : List Char := ['.', 'd', 'p', 'a', 'p', 'i']
def currentName : List Char := ['c', 'u', 'r', 'r', 'e', 'n', 't']
def nextName (path : List Char) : List Char := path ++ ['.', 'n', 'e', 'x', 't']
def previousName (path : List Char) : List Char :=
  path ++ ['.', 'p', 'r', 'e', 'v', 'i', 'o', 'u', 's']

/-- The file that a ciphertext is stored in. -/
def generationName (cipher : List UInt8) : List Char :=
  statePart ++ (getSha256 sha256 cipher).take 32 ++ dpapiPart

def asciiBytes (text : List Char) : List UInt8 :=
  text.map fun c => if c.toNat < 128 then UInt8.ofNat c.toNat else 63

def asciiString (bytes : List UInt8) : List Char :=
  bytes.map fun b => if b.toNat < 128 then Char.ofNat b.toNat else '?'

/-- `String.Trim` on ASCII text. -/
def trim (text : List Char) : List Char :=
  let blank (c : Char) : Bool := (9 ≤ c.toNat && c.toNat ≤ 13) || c.toNat = 32
  ((text.dropWhile blank).reverse.dropWhile blank).reverse

def isHexDigit (c : Char) : Bool :=
  ('0' ≤ c && c ≤ '9') || ('A' ≤ c && c ≤ 'F') || ('a' ≤ c && c ≤ 'f')

/-- `-match '^state-([A-F0-9]{32})\.dpapi$'`, which ignores case; gives the captured digits. -/
def matchGeneration (name : List Char) : Option (List Char) :=
  let digits := (name.drop 6).take 32
  if name.length = 44 ∧ (name.take 6).map Char.toLower = statePart ∧ digits.all isHexDigit ∧
      (name.drop 38).map Char.toLower = dpapiPart then some digits
  else none

def cipherLimit : Nat := 400 * 1024 * 1024

abbrev Store : Type := Directory (List Char) UInt8

/-- The generation that the host side of `Restore-A1625RamState` decrypts. -/
def restoreSelects (store : Store) : Option (List Char × List UInt8) := do
  let pointer ← store currentName
  let name := trim (asciiString pointer)
  let digits ← matchGeneration name
  let cipher ← store name
  if cipher.length > cipherLimit then none
  else if digits.isPrefixOf (getSha256 sha256 cipher) then some (name, cipher)
  else none

/-- `Write-A1625AtomicBytes` -/
def writeAtomicBytes (path : List Char) (bytes : List UInt8) : List (FileStep (List Char) UInt8) :=
  writeSteps (nextName path) path (previousName path) bytes

/-- The file-system steps of one `Save-A1625RamState` after encryption. -/
def saveSteps (cipher : List UInt8) : List (FileStep (List Char) UInt8) :=
  if cipher.length > cipherLimit then []
  else
    let name := generationName sha256 cipher
    writeAtomicBytes name cipher ++ writeAtomicBytes currentName (asciiBytes name)

/-- One run of the save script: its ciphertext and the number of steps it got to make. -/
structure Save where
  cipher : List UInt8
  progress : Nat

def Save.steps (save : Save) : List (FileStep (List Char) UInt8) :=
  (saveSteps sha256 save.cipher).take save.progress

/-- The save reached the end of its pointer update. -/
def Save.Completed (save : Save) : Prop :=
  save.cipher.length ≤ cipherLimit ∧ (saveSteps sha256 save.cipher).length ≤ save.progress

instance (save : Save) : Decidable (save.Completed sha256) :=
  inferInstanceAs (Decidable (_ ∧ _))

def runSave (store : Store) (save : Save) : Store := applyAll (save.steps sha256) store

/-- The store after a history of saves, starting empty. -/
def storeAfter (history : List Save) : Store := history.foldl (runSave sha256) fun _ => none

/-- The last save whose pointer update completed. -/
def lastCompleted (history : List Save) : Option Save :=
  (history.filter fun save => save.Completed sha256).getLast?

section Names

theorem toHexString_length (bytes : List UInt8) :
    (toHexString bytes).length = 2 * bytes.length := by
  induction bytes with
  | nil => rfl
  | cons b bytes ih =>
    simp only [toHexString, List.flatMap_cons, List.length_append, List.length_cons,
      List.length_nil] at ih ⊢
    omega

theorem generationName_length (cipher : List UInt8) :
    (generationName sha256 cipher).length = 44 := by
  have digest := (sha256 cipher).2
  simp only [generationName, List.length_append, List.length_take, getSha256, toHexString_length,
    digest, statePart, dpapiPart, List.length_cons, List.length_nil]
  rfl

@[simp] theorem nextName_length (path : List Char) :
    (nextName path).length = path.length + 5 := by simp [nextName]

@[simp] theorem previousName_length (path : List Char) :
    (previousName path).length = path.length + 9 := by simp [previousName]

theorem name_ne {a b : List Char} (h : a.length ≠ b.length) : a ≠ b := fun e => h (e ▸ rfl)

theorem next_ne_path (path : List Char) : nextName path ≠ path := name_ne (by simp)

theorem next_ne_previous (path : List Char) : nextName path ≠ previousName path :=
  name_ne (by simp)

theorem previous_ne_path (path : List Char) : previousName path ≠ path := name_ne (by simp)

end Names

section Pointer

theorem hexDigit_ascii (n : Nat) : (hexDigit n).toNat < 128 := by
  by_cases h : n < 16
  · exact (by decide : ∀ n < 16, (hexDigit n).toNat < 128) n h
  · rw [hexDigit, List.getD_eq_default _ _ (by simp only [List.length_cons, List.length_nil]; omega)]
    decide

theorem isHexDigit_hexDigit {n : Nat} (h : n < 16) : isHexDigit (hexDigit n) :=
  (by decide : ∀ n < 16, isHexDigit (hexDigit n)) n h

theorem mem_toHexString {bytes : List UInt8} {c : Char} (h : c ∈ toHexString bytes) :
    ∃ n < 16, c = hexDigit n := by
  simp only [toHexString, List.mem_flatMap, List.mem_cons, List.not_mem_nil, or_false] at h
  obtain ⟨b, -, rfl | rfl⟩ := h
  · exact ⟨_, by have := b.toNat_lt; omega, rfl⟩
  · exact ⟨_, Nat.mod_lt _ (by omega), rfl⟩

theorem generationName_ascii (cipher : List UInt8) :
    ∀ c ∈ generationName sha256 cipher, c.toNat < 128 := by
  intro c hc
  simp only [generationName, List.mem_append] at hc
  have fixed : (statePart ++ dpapiPart).all (·.toNat < 128) := by decide
  simp only [List.all_append, Bool.and_eq_true, List.all_eq_true, decide_eq_true_eq] at fixed
  rcases hc with (hc | hc) | hc
  · exact fixed.1 c hc
  · obtain ⟨n, -, rfl⟩ := mem_toHexString (List.mem_of_mem_take hc)
    exact hexDigit_ascii n
  · exact fixed.2 c hc

theorem asciiString_asciiBytes {text : List Char} (h : ∀ c ∈ text, c.toNat < 128) :
    asciiString (asciiBytes text) = text := by
  induction text with
  | nil => rfl
  | cons c text ih =>
    have hc := h c List.mem_cons_self
    have small : (UInt8.ofNat c.toNat).toNat = c.toNat := by
      rw [UInt8.toNat_ofNat', Nat.mod_eq_of_lt (by omega)]
    have tail := ih fun c hc => h c (List.mem_cons_of_mem _ hc)
    simp only [asciiString, asciiBytes, List.map_cons, if_pos hc, small] at tail ⊢
    rw [tail, Char.ofNat_toNat]

/-- Neither end of a generation name is blank. -/
theorem trim_generationName (cipher : List UInt8) :
    trim (generationName sha256 cipher) = generationName sha256 cipher := by
  have front : generationName sha256 cipher =
      's' :: (generationName sha256 cipher).tail := rfl
  have back : (generationName sha256 cipher).reverse =
      'i' :: ['p', 'a', 'p', 'd', '.'] ++ (statePart ++
        (getSha256 sha256 cipher).take 32).reverse := by
    simp [generationName, dpapiPart]
  rw [trim, front, List.dropWhile_cons_of_neg (by decide), ← front, back, List.cons_append,
    List.dropWhile_cons_of_neg (by decide), ← List.cons_append, ← back, List.reverse_reverse]

theorem matchGeneration_generationName (cipher : List UInt8) :
    matchGeneration (generationName sha256 cipher) = some ((getSha256 sha256 cipher).take 32) := by
  have length : ((getSha256 sha256 cipher).take 32).length = 32 := by
    simp only [List.length_take, getSha256, toHexString_length, (sha256 cipher).2]
    rfl
  have middle : ((generationName sha256 cipher).drop 6).take 32 =
      (getSha256 sha256 cipher).take 32 := by
    rw [generationName, List.append_assoc, show 6 = statePart.length from rfl,
      List.drop_left]
    exact List.take_left' length
  have tail : (generationName sha256 cipher).drop 38 = dpapiPart := by
    have front : (statePart ++ (getSha256 sha256 cipher).take 32).length = 38 := by
      rw [List.length_append, length]
      rfl
    rw [generationName, ← front, List.drop_left]
  have hex : ((getSha256 sha256 cipher).take 32).all isHexDigit := by
    rw [List.all_eq_true]
    intro c hc
    obtain ⟨n, hn, rfl⟩ := mem_toHexString (List.mem_of_mem_take hc)
    exact isHexDigit_hexDigit hn
  have front : (generationName sha256 cipher).take 6 = statePart := by
    rw [generationName, List.append_assoc, show 6 = statePart.length from rfl, List.take_left]
  unfold matchGeneration
  rw [middle, front, tail, if_pos]
  exact ⟨generationName_length sha256 cipher, by decide, hex, by decide⟩

/-- A pointer to a stored generation that matches its name is what a restore selects. -/
theorem restoreSelects_of_pointer {store : Store} {cipher bytes : List UInt8}
    (pointer : store currentName = some (asciiBytes (generationName sha256 cipher)))
    (stored : store (generationName sha256 cipher) = some bytes)
    (named : generationName sha256 cipher = generationName sha256 bytes)
    (small : bytes.length ≤ cipherLimit) :
    restoreSelects sha256 store = some (generationName sha256 cipher, bytes) := by
  have match_ := matchGeneration_generationName sha256 bytes
  rw [named] at pointer stored ⊢
  simp only [restoreSelects, pointer, Option.bind_eq_bind, Option.bind_some,
    asciiString_asciiBytes (generationName_ascii sha256 bytes), trim_generationName, match_, stored]
  rw [if_neg (by omega), if_pos]
  rw [List.isPrefixOf_iff_prefix]
  exact List.take_prefix ..

end Pointer

section Runs

/-- What holds of the store between any two steps; `last` is the ciphertext of the last save
whose pointer update completed. -/
structure StoreInvariant (ciphers : List (List UInt8)) (last : Option (List UInt8))
    (store : Store) : Prop where
  pointer : store currentName = last.map fun c => asciiBytes (generationName sha256 c)
  selected : ∀ c ∈ last, (store (generationName sha256 c)).isSome
  generations : ∀ name bytes, name.length = 44 → store name = some bytes →
    name = generationName sha256 bytes ∧ bytes ∈ ciphers ∧ bytes.length ≤ cipherLimit
  retained : ∀ p, store (previousName currentName) = some p → ∃ c,
    p = asciiBytes (generationName sha256 c) ∧ (store (generationName sha256 c)).isSome

variable {sha256} {ciphers : List (List UInt8)} {last : Option (List UInt8)} {store : Store}

theorem StoreInvariant.mono (inv : StoreInvariant sha256 ciphers last store)
    {more : List (List UInt8)} (sub : ∀ c ∈ ciphers, c ∈ more) :
    StoreInvariant sha256 more last store :=
  { inv with generations := fun name bytes hn hb =>
      let ⟨h₁, h₂, h₃⟩ := inv.generations name bytes hn hb
      ⟨h₁, sub _ h₂, h₃⟩ }

/-- Only the pointer, its backup and the generations matter. -/
theorem StoreInvariant.congr (inv : StoreInvariant sha256 ciphers last store) {store' : Store}
    (same : ∀ name, name = currentName ∨ name = previousName currentName ∨ name.length = 44 →
      store' name = store name) : StoreInvariant sha256 ciphers last store' where
  pointer := (same _ (.inl rfl)).trans inv.pointer
  selected c hc := by
    rw [same _ (.inr (.inr (generationName_length sha256 c)))]
    exact inv.selected c hc
  generations name bytes hn hb := inv.generations name bytes hn (same name (.inr (.inr hn)) ▸ hb)
  retained p hp := by
    obtain ⟨c, hc, stored⟩ := inv.retained p (same _ (.inr (.inl rfl)) ▸ hp)
    exact ⟨c, hc, by rwa [same _ (.inr (.inr (generationName_length sha256 c)))]⟩

/-- An interrupted atomic write of a generation or of the pointer changes nothing that counts. -/
theorem StoreInvariant.interrupted (inv : StoreInvariant sha256 ciphers last store)
    {path : List Char} (hpath : path = currentName ∨ path.length = 44) {bytes : List UInt8}
    {k : Nat} (cut : k < (writeAtomicBytes path bytes).length) :
    StoreInvariant sha256 ciphers last (applyAll ((writeAtomicBytes path bytes).take k) store) := by
  refine inv.congr fun name hname => interrupted_write cut store (name_ne ?_)
  have h₁ : currentName.length = 7 := rfl
  rcases hpath with rfl | hpath <;> rcases hname with rfl | rfl | hname <;>
    simp only [nextName_length, previousName_length] <;> omega

theorem StoreInvariant.writeGeneration (inv : StoreInvariant sha256 ciphers last store)
    {cipher : List UInt8} (mem : cipher ∈ ciphers) (small : cipher.length ≤ cipherLimit) :
    StoreInvariant sha256 ciphers last
        (applyAll (writeAtomicBytes (generationName sha256 cipher) cipher) store) ∧
      applyAll (writeAtomicBytes (generationName sha256 cipher) cipher) store
        (generationName sha256 cipher) = some cipher := by
  have h₁ : currentName.length = 7 := rfl
  have h₂ := generationName_length sha256 cipher
  have written : applyAll (writeAtomicBytes (generationName sha256 cipher) cipher) store
      (generationName sha256 cipher) = some cipher :=
    completed_write_path (next_ne_path _) cipher store
  have other (name : List Char) (hn : name ≠ generationName sha256 cipher)
      (hl : name.length = 7 ∨ name.length = 16 ∨ name.length = 44) :
      applyAll (writeAtomicBytes (generationName sha256 cipher) cipher) store name = store name :=
    completed_write_other (next_ne_path _) cipher store (name_ne (by simp; omega)) hn
      (name_ne (by simp; omega))
  have present (c : List UInt8) (stored : (store (generationName sha256 c)).isSome) :
      (applyAll (writeAtomicBytes (generationName sha256 cipher) cipher) store
        (generationName sha256 c)).isSome := by
    by_cases hc : generationName sha256 c = generationName sha256 cipher
    · rw [hc, written]
      rfl
    · rwa [other _ hc (.inr (.inr (generationName_length sha256 c)))]
  refine ⟨⟨?_, fun c hc => present c (inv.selected c hc), fun name bytes hn hb => ?_, ?_⟩, written⟩
  · rw [other _ (name_ne (by omega)) (.inl rfl), inv.pointer]
  · by_cases hc : name = generationName sha256 cipher
    · rw [hc, written] at hb
      cases hb
      exact ⟨hc, mem, small⟩
    · rw [other name hc (.inr (.inr hn))] at hb
      exact inv.generations name bytes hn hb
  · intro p hp
    rw [other _ (name_ne (by simp; omega)) (.inr (.inl rfl))] at hp
    obtain ⟨c, hc, stored⟩ := inv.retained p hp
    exact ⟨c, hc, present c stored⟩

theorem StoreInvariant.writePointer (inv : StoreInvariant sha256 ciphers last store)
    {cipher : List UInt8} (stored : store (generationName sha256 cipher) = some cipher) :
    StoreInvariant sha256 ciphers (some cipher)
      (applyAll (writeAtomicBytes currentName (asciiBytes (generationName sha256 cipher))) store) := by
  have h₁ : currentName.length = 7 := rfl
  have generation (name : List Char) (hn : name.length = 44) :
      applyAll (writeAtomicBytes currentName (asciiBytes (generationName sha256 cipher))) store name =
        store name :=
    completed_write_other (next_ne_path _) _ store (name_ne (by simp; omega)) (name_ne (by omega))
      (name_ne (by simp; omega))
  have at_ (c : List UInt8) := generation _ (generationName_length sha256 c)
  refine ⟨completed_write_path (next_ne_path _) _ store, fun c hc => ?_, fun name bytes hn hb => ?_,
    fun p hp => ?_⟩
  · cases hc
    rw [at_, stored]
    rfl
  · rw [generation name hn] at hb
    exact inv.generations name bytes hn hb
  · rw [writeAtomicBytes, completed_write_backup (next_ne_path _) (next_ne_previous _)
      (previous_ne_path _), inv.pointer] at hp
    cases last with
    | none =>
      obtain ⟨c, hc, kept⟩ := inv.retained p hp
      exact ⟨c, hc, by rwa [at_]⟩
    | some c =>
      cases hp
      exact ⟨c, rfl, by rw [at_]; exact inv.selected c rfl⟩

theorem saveSteps_small {cipher : List UInt8} (small : cipher.length ≤ cipherLimit) :
    saveSteps sha256 cipher = writeAtomicBytes (generationName sha256 cipher) cipher ++
      writeAtomicBytes currentName (asciiBytes (generationName sha256 cipher)) :=
  if_neg (by omega)

/-- One save, however far it got. -/
theorem StoreInvariant.runSave (inv : StoreInvariant sha256 ciphers last store) (save : Save) :
    StoreInvariant sha256 (save.cipher :: ciphers)
      (if save.Completed sha256 then some save.cipher else last) (runSave sha256 store save) := by
  have inv : StoreInvariant sha256 (save.cipher :: ciphers) last store :=
    inv.mono fun c hc => List.mem_cons_of_mem _ hc
  by_cases small : save.cipher.length ≤ cipherLimit
  · have done : save.Completed sha256 ↔
        (writeAtomicBytes (generationName sha256 save.cipher) save.cipher).length +
          (writeAtomicBytes currentName (asciiBytes (generationName sha256 save.cipher))).length ≤
        save.progress := by
      rw [Save.Completed, saveSteps_small small, List.length_append]
      exact and_iff_right small
    simp only [done, SnapshotStore.runSave, Save.steps, saveSteps_small small, List.take_append,
      applyAll_append]
    by_cases first : save.progress < (writeAtomicBytes (generationName sha256 save.cipher)
        save.cipher).length
    · rw [Nat.sub_eq_zero_of_le (by omega), List.take_zero, applyAll_nil, if_neg (by omega)]
      exact inv.interrupted (.inr (generationName_length ..)) first
    rw [List.take_of_length_le (Nat.not_lt.mp first)]
    obtain ⟨inv, stored⟩ := inv.writeGeneration List.mem_cons_self small
    by_cases second : save.progress - (writeAtomicBytes (generationName sha256 save.cipher)
        save.cipher).length < (writeAtomicBytes currentName
          (asciiBytes (generationName sha256 save.cipher))).length
    · rw [if_neg (by omega)]
      exact inv.interrupted (.inl rfl) second
    · rw [if_pos (by omega), List.take_of_length_le (by omega)]
      exact inv.writePointer stored
  · have none : ¬ save.Completed sha256 := fun done => small done.1
    have steps : save.steps sha256 = [] := by
      rw [Save.steps, saveSteps, if_pos (by omega), List.take_nil]
    rwa [if_neg none, SnapshotStore.runSave, steps]

theorem lastCompleted_append (history : List Save) (save : Save) :
    lastCompleted sha256 (history ++ [save]) =
      if save.Completed sha256 then some save else lastCompleted sha256 history := by
  by_cases done : save.Completed sha256 <;> simp [lastCompleted, List.filter_append, done]

theorem storeAfter_append (history : List Save) (save : Save) :
    storeAfter sha256 (history ++ [save]) = runSave sha256 (storeAfter sha256 history) save := by
  simp [storeAfter, List.foldl_append]

/-- The invariant holds after every history, by induction on its saves. -/
theorem storeAfter_invariant (history : List Save) :
    StoreInvariant sha256 (history.map Save.cipher)
      ((lastCompleted sha256 history).map Save.cipher) (storeAfter sha256 history) := by
  induction history using List.reverseRecOn with
  | nil => exact ⟨rfl, by simp [lastCompleted], by simp [storeAfter], by simp [storeAfter]⟩
  | append_singleton history save ih =>
    rw [storeAfter_append, lastCompleted_append]
    have step := ih.runSave save
    by_cases done : save.Completed sha256
    · simp only [if_pos done] at step ⊢
      exact step.mono (by simp [or_comm])
    · simp only [if_neg done] at step ⊢
      exact step.mono (by simp [or_comm])

/-- The pointer names a stored generation, which therefore is what a restore selects. -/
theorem StoreInvariant.restoreSelects {cipher : List UInt8}
    (inv : StoreInvariant sha256 ciphers (some cipher) store) :
    ∃ bytes ∈ ciphers, store (generationName sha256 cipher) = some bytes ∧
      generationName sha256 bytes = generationName sha256 cipher ∧
      restoreSelects sha256 store = some (generationName sha256 cipher, bytes) := by
  obtain ⟨bytes, stored⟩ := Option.isSome_iff_exists.mp (inv.selected cipher rfl)
  obtain ⟨named, mem, small⟩ :=
    inv.generations _ bytes (generationName_length sha256 cipher) stored
  exact ⟨bytes, mem, stored, named.symm,
    restoreSelects_of_pointer sha256 inv.pointer stored named small⟩

theorem StoreInvariant.restoreSelects_none (inv : StoreInvariant sha256 ciphers none store) :
    SnapshotStore.restoreSelects sha256 store = none := by
  have pointer : store currentName = none := inv.pointer
  rw [SnapshotStore.restoreSelects, pointer]
  rfl

end Runs

/-- No two of the ciphertexts share the 128 hash bits that make up a name. -/
def CollisionFree (history : List Save) : Prop :=
  ∀ a ∈ history, ∀ b ∈ history,
    generationName sha256 a.cipher = generationName sha256 b.cipher → a.cipher = b.cipher

/-- What `current` and `current.previous` say after a history of saves. -/
structure PointersSound (history : List Save) : Prop where
  current : ∀ save, lastCompleted sha256 history = some save → ∃ bytes,
    storeAfter sha256 history currentName = some (asciiBytes (generationName sha256 save.cipher)) ∧
    storeAfter sha256 history (generationName sha256 save.cipher) = some bytes ∧
    generationName sha256 bytes = generationName sha256 save.cipher ∧
    (CollisionFree sha256 history → bytes = save.cipher) ∧
    restoreSelects sha256 (storeAfter sha256 history) =
      some (generationName sha256 save.cipher, bytes)
  previous : ∀ pointer, storeAfter sha256 history (previousName currentName) = some pointer →
    ∃ name bytes, pointer = asciiBytes name ∧ storeAfter sha256 history name = some bytes ∧
      generationName sha256 bytes = name

/-- After any history of interrupted and completed saves the pointers are sound, and a further
interrupted save changes neither the generation a restore selects nor its bytes. -/
theorem store_crash_consistent (history : List Save) :
    PointersSound sha256 history ∧
      ∀ save : Save, ¬ save.Completed sha256 →
        (restoreSelects sha256 (storeAfter sha256 (history ++ [save]))).map Prod.fst =
            (restoreSelects sha256 (storeAfter sha256 history)).map Prod.fst ∧
          (CollisionFree sha256 (history ++ [save]) →
            restoreSelects sha256 (storeAfter sha256 (history ++ [save])) =
              restoreSelects sha256 (storeAfter sha256 history)) := by
  have inv := @storeAfter_invariant sha256 history
  refine ⟨⟨fun save last => ?_, fun pointer hp => ?_⟩, fun save cut => ?_⟩
  · rw [last] at inv
    obtain ⟨bytes, mem, stored, named, selects⟩ := inv.restoreSelects
    refine ⟨bytes, inv.pointer, stored, named, fun free => ?_, selects⟩
    obtain ⟨other, hother, rfl⟩ := List.mem_map.mp mem
    exact free other hother save (List.mem_filter.mp (List.mem_of_getLast? last)).1 named
  · obtain ⟨c, rfl, kept⟩ := inv.retained pointer hp
    obtain ⟨bytes, stored⟩ := Option.isSome_iff_exists.mp kept
    obtain ⟨named, -, -⟩ := inv.generations _ bytes (generationName_length sha256 c) stored
    exact ⟨_, bytes, rfl, stored, named.symm⟩
  · have after := @storeAfter_invariant sha256 (history ++ [save])
    rw [lastCompleted_append, if_neg cut] at after
    cases last : lastCompleted sha256 history with
    | none =>
      rw [last] at inv after
      rw [inv.restoreSelects_none, after.restoreSelects_none]
      exact ⟨rfl, fun _ => rfl⟩
    | some good =>
      rw [last] at inv after
      obtain ⟨bytes, mem, -, named, selects⟩ := inv.restoreSelects
      obtain ⟨bytes', mem', -, named', selects'⟩ := after.restoreSelects
      rw [selects, selects']
      refine ⟨rfl, fun free => ?_⟩
      obtain ⟨a, ha, rfl⟩ := List.mem_map.mp mem
      obtain ⟨b, hb, rfl⟩ := List.mem_map.mp mem'
      rw [free b hb a (List.mem_append_left _ ha) (named'.trans named.symm)]

/-- SHA-256 on the two one-byte ciphertexts used below. -/
def sampleSha256 (bytes : List UInt8) : Digest :=
  if bytes = [1] then
    ⟨[75, 245, 18, 47, 52, 69, 84, 197, 59, 222, 46, 187, 140, 210, 183, 227, 209, 96, 10,
      214, 49, 195, 133, 165, 215, 204, 226, 60, 119, 133, 69, 154], rfl⟩
  else
    ⟨[219, 193, 180, 201, 0, 255, 228, 141, 87, 91, 93, 165, 198, 56, 4, 1, 37, 246, 93, 176,
      254, 62, 36, 73, 75, 118, 234, 152, 100, 87, 217, 134], rfl⟩

theorem interrupted_save_keeps_first :
    restoreSelects sampleSha256 (storeAfter sampleSha256 ([⟨[1], 100⟩] ++ [⟨[2], 20⟩])) =
      restoreSelects sampleSha256 (storeAfter sampleSha256 [⟨[1], 100⟩]) :=
  ((store_crash_consistent sampleSha256 [⟨[1], 100⟩]).2 ⟨[2], 20⟩ (by decide +kernel)).2 (by
    unfold CollisionFree
    decide +kernel)

end WinBoot.SnapshotStore
