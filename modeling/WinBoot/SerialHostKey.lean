import WinBoot.Checks
import WinBoot.LineSearch
import WinBoot.PackageIndex

/-! `Get-SerialHostKey`, which learns the SSH host key of the device over its USB console and pins
it. The console's text arrives in pieces, and anyone may answer on the network. -/

namespace WinBoot.SerialHostKey
open LineSearch PackageIndex

abbrev Text := List Char

/-! ### The patterns -/

section Patterns

variable (fold : Char → Char)

def startsWith (literal text : Text) : Bool :=
  (text.take literal.length).map fold = literal.map fold

/-- `\r?$` with `(?m)`. -/
def atLineEnd : Text → Bool
  | [] | '\n' :: _ | ['\r'] | '\r' :: '\n' :: _ => true
  | _ => false

def beginMarker : Text := "__A1625_KEY_BEGIN__".toList
def endMarker : Text := "__A1625_KEY_END__".toList

/-- `^marker\r?$`, read where a line begins. -/
def markerAt (marker text : Text) : Option Unit :=
  if startsWith fold marker text && atLineEnd (text.drop marker.length) then some () else none

def hasMarker (marker text : Text) : Bool := (search '\n' (markerAt fold marker) text).isSome

/-- The literal occurs somewhere. -/
def contains (text literal : Text) : Bool := text.tails.any (startsWith fold literal)

/-- `[A-Za-z0-9+/]` -/
def isBase64 (c : Char) : Bool :=
  isLetter c || ('0' ≤ c && c ≤ '9') || c = '+' || c = '/'

def isBreak (c : Char) : Bool := c = '\r' || c = '\n'

/-- `[^\r\n]*\r?$` -/
def restOfLine (text : Text) : Bool := atLineEnd (text.dropWhile (!isBreak ·))

/-- `\s+[^\r\n]*\r?$`, where the blanks may go on over line ends. -/
def blankRest : Text → Bool
  | [] => false
  | c :: text => isSpace c && (restOfLine text || blankRest text)

/-- `([A-Za-z0-9+/]+={0,2})(?:\s+[^\r\n]*)?\r?$` and what its group holds. -/
def readKey (text : Text) : Option Text :=
  let digits := text.takeWhile isBase64
  let rest := text.dropWhile isBase64
  let padding := rest.takeWhile (· = '=')
  let rest := rest.dropWhile (· = '=')
  if digits ≠ [] ∧ padding.length ≤ 2 ∧ (atLineEnd rest || blankRest rest) then
    some (digits ++ padding)
  else none

def keyType : Text := "ssh-ed25519".toList

/-- `^ssh-ed25519\s+` and the key, read where a line begins. -/
def keyAt (text : Text) : Option Text :=
  if startsWith id keyType text then
    let rest := text.drop keyType.length
    if rest.takeWhile isSpace = [] then none else readKey (rest.dropWhile isSpace)
  else none

def fingerprintWord : Text := "Fingerprint:".toList
def sha256Word : Text := "SHA256:".toList

/-- `Fingerprint:\s+(SHA256:[A-Za-z0-9+/]+)` and what its group holds, read from here on. -/
def fingerprintAt (text : Text) : Option Text :=
  if startsWith id fingerprintWord text then
    let rest := text.drop fingerprintWord.length
    let digest := rest.dropWhile isSpace
    let digits := (digest.drop sha256Word.length).takeWhile isBase64
    if rest.takeWhile isSpace ≠ [] ∧ startsWith id sha256Word digest ∧ digits ≠ [] then
      some (sha256Word ++ digits)
    else none
  else none

def findFingerprint (text : Text) : Option Text := text.tails.findSome? fingerprintAt

def address : Text := "172.16.42.1".toList

/-- `^172\.16\.42\.1\s+ssh-ed25519\s+\S+$` on a line of its own, and its third word. -/
def scannedKey (line : Text) : Option Text :=
  let second := (line.drop address.length).dropWhile isSpace
  let third := (second.drop keyType.length).dropWhile isSpace
  if startsWith fold address line ∧ (line.drop address.length).takeWhile isSpace ≠ [] ∧
      startsWith fold keyType second ∧ (second.drop keyType.length).takeWhile isSpace ≠ [] ∧
      third ≠ [] ∧ third.all (!isSpace ·) then
    some third
  else none

end Patterns

/-! ### The function -/

structure SerialDevice where
  pnpDeviceId : Text
  deviceId : Text

/-- What the other programs do: `ssh-keygen -lf -` with its exit status, and `ssh-keyscan`. -/
structure Tools where
  keygen : Text → Int × Text
  keyscan : List Text

/-- `digit` is `\d`. -/
structure Culture where
  fold : Char → Char
  digit : Char → Bool

section Script

variable (culture : Culture) (tools : Tools)

def usbAcm : Text := "USB\\VID_05AC&PID_4142&MI_02\\".toList

/-- `^COM\d+$` -/
def isComPort (name : Text) : Bool :=
  let number := name.drop 3
  let number := if number.getLast? = some '\n' then number.dropLast else number
  startsWith culture.fold "COM".toList name && number ≠ [] && number.all culture.digit

def selectPort (devices : List SerialDevice) : Except Text Text :=
  match devices.filter fun device => startsWith culture.fold usbAcm device.pnpDeviceId with
  | [device] =>
    if isComPort culture device.deviceId then .ok device.deviceId
    else .error "Expected exactly one A1625 USB ACM COM port; found 1.".toList
  | found => .error
      ("Expected exactly one A1625 USB ACM COM port; found ".toList ++ (toString found.length).toList ++
        ".".toList)

/-- One read of the port in each turn before the deadline. -/
def collect : List (Except Text Text) → Text → Except Text Text
  | [], text => .ok text
  | piece :: pieces, text =>
    if hasMarker culture.fold endMarker text then .ok text
    else match piece with
      | .error error => .error error
      | .ok more => collect pieces (text ++ more)

def throwUnless (condition : Bool) (message : String) : Except Text Unit :=
  if condition then .ok () else .error message.toList

def demand (found : Option Text) (message : String) : Except Text Text :=
  match found with
  | some text => .ok text
  | none => .error message.toList

/-- The first line of the scan decides; letter case does not count in the comparison. -/
def networkAgrees (blob : Text) : Bool :=
  match tools.keyscan.filterMap (scannedKey culture.fold) with
  | [] => true
  | scanned :: _ => scanned.map culture.fold = blob.map culture.fold

def checkResponse (portName : String) (text : Text) : Except Text Text := do
  throwUnless (hasMarker culture.fold beginMarker text && hasMarker culture.fold endMarker text)
    s!"Did not receive a complete host-key response from {portName}."
  let unparsed := s!"Could not parse the Dropbear Ed25519 public key from {portName}."
  let blob ← demand (search '\n' keyAt text) unparsed
  let fingerprint ← demand (findFingerprint text) unparsed
  let computed := tools.keygen (keyType ++ ' ' :: blob)
  throwUnless (computed.1 = 0 && contains culture.fold computed.2 fingerprint)
    "The independently computed Ed25519 fingerprint does not match the USB ACM response."
  throwUnless (networkAgrees culture tools blob)
    "The network SSH key does not match the key obtained through USB ACM."
  return blob

/-- What is written to the new `known_hosts` file. -/
def getSerialHostKey (devices : List SerialDevice) (pieces : List (Except Text Text)) :
    Except Text Text := do
  let portName ← selectPort culture devices
  let text ← collect culture pieces []
  let blob ← checkResponse culture tools (String.ofList portName) text
  return address ++ ' ' :: keyType ++ ' ' :: blob

end Script

/-! ### Literals and lines -/

section Literals

variable {fold : Char → Char} {literal line : Text}

theorem startsWith_of_front {shown : Text} (front : shown <+: line)
    (starts : startsWith fold literal shown = true) : startsWith fold literal line = true := by
  obtain ⟨rest, rfl⟩ := front
  simp only [startsWith, decide_eq_true_eq] at starts ⊢
  have length := congrArg List.length starts
  simp only [List.length_map, List.length_take] at length
  rwa [List.take_append_of_le_length (by omega)]

theorem startsWith_of_line (apart : fold '\n' ∉ literal.map fold) {rest : Text}
    (starts : startsWith fold literal (line ++ '\n' :: rest) = true) :
    startsWith fold literal line = true := by
  simp only [startsWith, decide_eq_true_eq] at starts ⊢
  by_cases long : literal.length ≤ line.length
  · rwa [List.take_append_of_le_length long] at starts
  · have member : '\n' ∈ (line ++ '\n' :: rest).take literal.length := by
      rw [List.take_append, List.mem_append]
      obtain ⟨more, length⟩ : ∃ more, literal.length - line.length = more + 1 :=
        ⟨literal.length - line.length - 1, by omega⟩
      rw [length]
      exact .inr (.head _)
    exact absurd (starts ▸ List.mem_map_of_mem member) apart

theorem startsWith_append (rest : Text) : startsWith fold literal (literal ++ rest) = true := by
  simp [startsWith]

end Literals

theorem markerAt_none {fold : Char → Char} {marker text : Text}
    (other : startsWith fold marker text = false) : markerAt fold marker text = none := by
  simp [markerAt, other]

theorem keyAt_none {text : Text} (other : startsWith id keyType text = false) :
    keyAt text = none := by
  simp [keyAt, other]

/-! ### What the device prints -/

/-- `dropbearkey -y` on the console, between the markers, and the lines in front of it. -/
structure Reply where
  noise : List Text
  digits : Text
  padding : Nat
  comment : Text
  digest : Text

def Reply.key (reply : Reply) : Text := reply.digits ++ List.replicate reply.padding '='

def Reply.keyLine (reply : Reply) : Text := keyType ++ ' ' :: reply.key ++ reply.comment ++ ['\r']

def Reply.fingerprint (reply : Reply) : Text := sha256Word ++ reply.digest

def Reply.opening (reply : Reply) : List Text :=
  reply.noise ++ [beginMarker ++ ['\r'], "Public key portion is:\r".toList]

def Reply.beforeEnd (reply : Reply) : List Text :=
  reply.opening ++ [reply.keyLine, fingerprintWord ++ ' ' :: reply.fingerprint ++ ['\r']]

def Reply.stream (reply : Reply) (after : Text) : Text :=
  unlines '\n' reply.beforeEnd ++ (endMarker ++ '\r' :: '\n' :: after)

/-- Letter case is all that is folded among ASCII characters. -/
def FoldsCase (fold : Char → Char) : Prop :=
  ∀ c d : Char, c.toNat < 128 → d.toNat < 128 → fold c = fold d → c.toLower = d.toLower

structure Reply.Sound (reply : Reply) (fold : Char → Char) : Prop where
  quiet : ∀ line ∈ reply.noise, '\n' ∉ line ∧ startsWith fold endMarker line = false ∧
    startsWith id keyType line = false
  digits : reply.digits ≠ [] ∧ ∀ c ∈ reply.digits, isBase64 c = true
  padding : reply.padding ≤ 2
  comment : reply.comment = [] ∨ ∃ words, reply.comment = ' ' :: words ∧ ∀ c ∈ words, isBreak c = false
  digest : reply.digest ≠ [] ∧ ∀ c ∈ reply.digest, isBase64 c = true
  unprinted : ¬ fingerprintWord <:+: unlines '\n' (reply.opening ++ [reply.keyLine])

theorem startsWith_false {fold : Char → Char} {literal text : Text} (i : Nat) (c d : Char)
    (here : text[i]? = some c) (wanted : literal[i]? = some d) (differ : fold c ≠ fold d) :
    startsWith fold literal text = false := by
  rw [startsWith, decide_eq_false_iff_not]
  intro same
  have within : i < literal.length := (List.getElem?_eq_some_iff.mp wanted).1
  have found := congrArg (·[i]?) same
  simp only [List.getElem?_map, List.getElem?_take_of_lt within, here, wanted, Option.map_some,
    Option.some.injEq] at found
  exact differ found

theorem base64_plain {c : Char} (digit : isBase64 c = true) :
    isSpace c = false ∧ c ≠ '=' ∧ c ≠ '\r' ∧ c ≠ '\n' := by
  have range : c.toNat = 43 ∨ 47 ≤ c.toNat ∧ c.toNat ≤ 57 ∨ 65 ≤ c.toNat ∧ c.toNat ≤ 90 ∨
      97 ≤ c.toNat ∧ c.toNat ≤ 122 := by
    simp only [isBase64, isLetter, Char.le_def, UInt32.le_iff_toNat_le, Bool.or_eq_true,
      Bool.and_eq_true, decide_eq_true_eq] at digit
    obtain (((⟨low, high⟩ | ⟨low, high⟩) | ⟨low, high⟩) | rfl) | rfl := digit
    · exact .inr (.inr (.inl ⟨low, high⟩))
    · exact .inr (.inr (.inr ⟨low, high⟩))
    · exact .inr (.inl ⟨le_trans (by decide) low, high⟩)
    · exact .inl rfl
    · exact .inr (.inl (by decide))
  refine ⟨?_, ?_, ?_, ?_⟩
  · simp [isSpace]
    omega
  all_goals
    rintro rfl
    revert range
    decide

section Reply

variable {reply : Reply} {fold : Char → Char}

theorem FoldsCase.differ (folds : FoldsCase fold) {c d : Char}
    (ascii : c.toNat < 128 ∧ d.toNat < 128)
    (other : c.toLower ≠ d.toLower) : fold c ≠ fold d :=
  fun same => other (folds c d ascii.1 ascii.2 same)

theorem FoldsCase.apart (folds : FoldsCase fold) : fold '\n' ∉ endMarker.map fold := by
  intro member
  obtain ⟨c, inside, same⟩ := List.mem_map.mp member
  have plain : (endMarker.all fun c => c.toNat < 128 && c.toLower != '\n'.toLower) = true := by
    decide
  have here := List.all_eq_true.mp plain c inside
  simp only [Bool.and_eq_true, decide_eq_true_eq, bne_iff_ne] at here
  exact folds.differ ⟨here.1, by decide⟩ here.2 same

theorem blind_of_other (folds : FoldsCase fold) {line : Text} (whole : '\n' ∉ line)
    (other : startsWith fold endMarker line = false) :
    Blind (markerAt fold endMarker) '\n' line where
  whole := whole
  misses _ := markerAt_none (Bool.eq_false_iff.mpr fun starts =>
    Bool.eq_false_iff.mp other (startsWith_of_line folds.apart starts))
  cut _ front := markerAt_none (Bool.eq_false_iff.mpr fun starts =>
    Bool.eq_false_iff.mp other (startsWith_of_front front starts))

theorem Reply.Sound.key_plain (sound : reply.Sound fold) {c : Char} (member : c ∈ reply.key) :
    c ≠ '\r' ∧ c ≠ '\n' := by
  obtain digit | padding := List.mem_append.mp member
  · exact (base64_plain (sound.digits.2 c digit)).2.2
  · rw [List.eq_of_mem_replicate padding]
    decide

theorem Reply.Sound.comment_plain (sound : reply.Sound fold) :
    ∀ c ∈ reply.comment, isBreak c = false := by
  obtain none | ⟨words, some, plain⟩ := sound.comment
  · simp [none]
  · rw [some, List.forall_mem_cons]
    exact ⟨rfl, plain⟩

theorem Reply.Sound.keyLine_whole (sound : reply.Sound fold) : '\n' ∉ reply.keyLine := by
  intro member
  simp only [Reply.keyLine, List.mem_append, List.mem_cons, List.not_mem_nil, or_false] at member
  obtain ((type | blank | key) | comment) | ret := member
  · exact absurd type (by decide)
  · exact absurd blank (by decide)
  · exact (sound.key_plain key).2 rfl
  · exact absurd (sound.comment_plain _ comment) (by decide)
  · exact absurd ret (by decide)

theorem Reply.Sound.beforeEnd_blind (sound : reply.Sound fold) (folds : FoldsCase fold) :
    ∀ line ∈ reply.beforeEnd, Blind (markerAt fold endMarker) '\n' line := by
  intro line member
  simp only [Reply.beforeEnd, Reply.opening, List.mem_append, List.mem_cons, List.not_mem_nil,
    or_false] at member
  obtain (noise | rfl | rfl) | rfl | rfl := member
  · obtain ⟨whole, other, -⟩ := sound.quiet line noise
    exact blind_of_other folds whole other
  · have other : fold 'B' ≠ fold 'E' := folds.differ (by decide) (by decide)
    exact blind_of_other folds (by decide) (startsWith_false 12 'B' 'E' (by decide) (by decide) other)
  · have other : fold 'P' ≠ fold '_' := folds.differ (by decide) (by decide)
    exact blind_of_other folds (by decide) (startsWith_false 0 'P' '_' (by decide) (by decide) other)
  · have other : fold 's' ≠ fold '_' := folds.differ (by decide) (by decide)
    exact blind_of_other folds sound.keyLine_whole (startsWith_false 0 's' '_' rfl (by decide) other)
  · have other : fold 'F' ≠ fold '_' := folds.differ (by decide) (by decide)
    refine blind_of_other folds (fun member => ?_) (startsWith_false 0 'F' '_' rfl (by decide) other)
    simp only [Reply.fingerprint, List.mem_append, List.mem_cons, List.not_mem_nil, or_false] at member
    obtain (word | blank | kind | digest) | ret := member
    · exact absurd word (by decide)
    · exact absurd blank (by decide)
    · exact absurd kind (by decide)
    · exact (base64_plain (sound.digest.2 _ digest)).2.2.2 rfl
    · exact absurd ret (by decide)

/-- What stands behind the key is the rest of its line. -/
theorem Reply.Sound.behindKey (sound : reply.Sound fold) (more : Text) :
    ∃ c rest, reply.comment ++ '\r' :: '\n' :: more = c :: rest ∧ isBase64 c = false ∧ c ≠ '=' ∧
      (atLineEnd (c :: rest) || blankRest (c :: rest)) = true := by
  obtain none | ⟨words, some, plain⟩ := sound.comment
  · exact ⟨'\r', '\n' :: more, by rw [none]; rfl, rfl, by decide, rfl⟩
  · refine ⟨' ', words ++ '\r' :: '\n' :: more, by rw [some]; rfl, rfl, by decide, ?_⟩
    have line : restOfLine (words ++ '\r' :: '\n' :: more) = true := by
      rw [restOfLine, List.dropWhile_append_of_pos (by simpa using plain)]
      rfl
    simp [blankRest, line, isSpace]

theorem Reply.Sound.readKey (sound : reply.Sound fold) (more : Text) :
    SerialHostKey.readKey (reply.key ++ (reply.comment ++ '\r' :: '\n' :: more)) = some reply.key := by
  obtain ⟨c, rest, behind, notDigit, notPadding, fits⟩ := sound.behindKey more
  rw [behind, SerialHostKey.readKey, Reply.key, List.append_assoc,
    List.takeWhile_append_of_pos sound.digits.2, List.dropWhile_append_of_pos sound.digits.2]
  have paddings : ∀ d ∈ List.replicate reply.padding '=', decide (d = '=') = true := by
    simp
  have digits : (List.replicate reply.padding '=' ++ c :: rest).takeWhile isBase64 = [] ∧
      (List.replicate reply.padding '=' ++ c :: rest).dropWhile isBase64 =
        List.replicate reply.padding '=' ++ c :: rest := by
    cases reply.padding with
    | zero => simp [notDigit]
    | succ n => simp [List.replicate_succ, isBase64, isLetter]
  rw [digits.1, digits.2, List.append_nil, List.takeWhile_append_of_pos paddings,
    List.dropWhile_append_of_pos paddings]
  have ends : (c :: rest).takeWhile (fun d => decide (d = '=')) = [] ∧
      (c :: rest).dropWhile (fun d => decide (d = '=')) = c :: rest := by
    simp [notPadding]
  rw [ends.1, ends.2, List.append_nil, if_pos ⟨sound.digits.1, by simpa using sound.padding, fits⟩]

theorem Reply.Sound.keyAt (sound : reply.Sound fold) (more : Text) :
    SerialHostKey.keyAt (reply.keyLine ++ '\n' :: more) = some reply.key := by
  have spelled : reply.keyLine ++ '\n' :: more =
      keyType ++ ' ' :: (reply.key ++ (reply.comment ++ '\r' :: '\n' :: more)) := by
    simp [Reply.keyLine]
  have first : ∃ c rest, reply.key ++ (reply.comment ++ '\r' :: '\n' :: more) = c :: rest ∧
      isSpace c = false := by
    obtain ⟨any, digits⟩ := sound.digits
    obtain ⟨c, rest, whole⟩ := List.exists_cons_of_ne_nil any
    refine ⟨c, _, by rw [Reply.key, whole]; rfl, (base64_plain (digits c ?_)).1⟩
    rw [whole]
    exact .head _
  obtain ⟨c, rest, begins, unspaced⟩ := first
  have spaces : (' ' :: c :: rest).takeWhile isSpace = [' '] ∧
      (' ' :: c :: rest).dropWhile isSpace = c :: rest := by
    have blank : isSpace ' ' = true := rfl
    simp [blank, unspaced]
  rw [spelled, SerialHostKey.keyAt, if_pos (startsWith_append _), List.drop_left, begins]
  dsimp only
  rw [spaces.1, spaces.2, if_neg (List.cons_ne_nil _ _), ← begins]
  exact sound.readKey more

/-- Whatever follows its line, the key is the first that is found. -/
theorem Reply.Sound.search_key (sound : reply.Sound fold) (rest : Text) :
    search '\n' SerialHostKey.keyAt (unlines '\n' reply.beforeEnd ++ rest) = some reply.key := by
  have misses : ∀ line ∈ reply.opening, '\n' ∉ line ∧
      ∀ rest, SerialHostKey.keyAt (line ++ '\n' :: rest) = none := by
    intro line member
    have other : '\n' ∉ line ∧ startsWith id keyType line = false := by
      simp only [Reply.opening, List.mem_append, List.mem_cons, List.not_mem_nil, or_false] at member
      obtain noise | rfl | rfl := member
      · obtain ⟨whole, -, other⟩ := sound.quiet line noise
        exact ⟨whole, other⟩
      · decide
      · decide
    refine ⟨other.1, fun rest => keyAt_none (Bool.eq_false_iff.mpr fun starts => ?_)⟩
    exact Bool.eq_false_iff.mp other.2 (startsWith_of_line (by decide) starts)
  rw [Reply.beforeEnd, unlines_append, List.append_assoc, search_unlines misses, unlines_cons,
    List.append_assoc, List.cons_append]
  exact search_of_hit (sound.keyAt _)

theorem Reply.Sound.fingerprintAt (sound : reply.Sound fold) (more : Text) :
    SerialHostKey.fingerprintAt (fingerprintWord ++ ' ' :: reply.fingerprint ++ '\r' :: more) =
      some reply.fingerprint := by
  have spelled : fingerprintWord ++ ' ' :: reply.fingerprint ++ '\r' :: more =
      fingerprintWord ++ ' ' :: (sha256Word ++ (reply.digest ++ '\r' :: more)) := by
    simp [Reply.fingerprint]
  have spaces : (' ' :: (sha256Word ++ (reply.digest ++ '\r' :: more))).takeWhile isSpace = [' '] ∧
      (' ' :: (sha256Word ++ (reply.digest ++ '\r' :: more))).dropWhile isSpace =
        sha256Word ++ (reply.digest ++ '\r' :: more) := ⟨rfl, rfl⟩
  have digits : (reply.digest ++ '\r' :: more).takeWhile isBase64 = reply.digest := by
    have notDigit : isBase64 '\r' = false := rfl
    rw [List.takeWhile_append_of_pos sound.digest.2, List.takeWhile_cons_of_neg (by simp [notDigit]),
      List.append_nil]
  rw [spelled, SerialHostKey.fingerprintAt, if_pos (startsWith_append _), List.drop_left]
  dsimp only
  rw [spaces.1, spaces.2, List.drop_left, digits]
  exact if_pos ⟨List.cons_ne_nil _ _, startsWith_append _, sound.digest.1⟩

end Reply

theorem prefix_of_startsWith {literal text : Text} (starts : startsWith id literal text = true) :
    literal <+: text := by
  simp only [startsWith, List.map_id, decide_eq_true_eq] at starts
  exact starts ▸ List.take_prefix ..

theorem findFingerprint_front {front : Text} (rest : Text) (quiet : ¬ fingerprintWord <:+: front)
    (ended : front = [] ∨ ∃ body, front = body ++ ['\n']) :
    findFingerprint (front ++ rest) = findFingerprint rest := by
  induction front with
  | nil => rfl
  | cons c front ih =>
    obtain none | ⟨body, whole⟩ := ended
    · cases none
    have other : startsWith id fingerprintWord (c :: front ++ rest) = false := by
      rw [Bool.eq_false_iff, whole, List.append_assoc]
      intro starts
      have inside := prefix_of_startsWith (startsWith_of_line (by decide) starts)
      exact quiet (whole ▸ (inside.trans (List.prefix_append ..)).isInfix)
    have misses : fingerprintAt (c :: front ++ rest) = none := by
      rw [fingerprintAt, other, if_neg Bool.false_ne_true]
    have later : findFingerprint (c :: front ++ rest) = findFingerprint (front ++ rest) := by
      rw [findFingerprint, List.cons_append, List.tails_cons,
        List.findSome?_cons_of_isNone (by simpa using misses), findFingerprint]
    rw [later]
    refine ih (fun inside => quiet (inside.trans (List.suffix_cons c front).isInfix)) ?_
    cases body with
    | nil => exact .inl (List.cons.inj whole).2
    | cons d body => exact .inr ⟨body, (List.cons.inj whole).2⟩

theorem findFingerprint_of_hit {text fingerprint : Text}
    (hit : fingerprintAt text = some fingerprint) :
    findFingerprint text = some fingerprint := by
  cases text with
  | nil => cases hit
  | cons c text =>
    rw [findFingerprint, List.tails_cons, List.findSome?_cons_of_isSome (by simp [hit]), hit]

theorem Reply.Sound.find_fingerprint {reply : Reply} {fold : Char → Char} (sound : reply.Sound fold)
    (rest : Text) :
    findFingerprint (unlines '\n' reply.beforeEnd ++ rest) = some reply.fingerprint := by
  have split : unlines '\n' reply.beforeEnd ++ rest =
      unlines '\n' (reply.opening ++ [reply.keyLine]) ++
        (fingerprintWord ++ ' ' :: reply.fingerprint ++ '\r' :: '\n' :: rest) := by
    simp [Reply.beforeEnd, unlines]
  have ended : ∃ body, unlines '\n' (reply.opening ++ [reply.keyLine]) = body ++ ['\n'] :=
    ⟨unlines '\n' reply.opening ++ reply.keyLine, by simp [unlines]⟩
  rw [split, findFingerprint_front _ sound.unprinted (.inr ended)]
  exact findFingerprint_of_hit (sound.fingerprintAt _)

/-! ### What is collected -/

/-- What the port delivers before an error or the deadline. -/
def delivered : List (Except Text Text) → Text
  | .ok piece :: pieces => piece ++ delivered pieces
  | _ => []

section Collect

variable {culture : Culture} {pieces : List (Except Text Text)} {start text : Text}

theorem collect_front (collected : collect culture pieces start = .ok text) :
    text <+: start ++ delivered pieces := by
  induction pieces generalizing start with
  | nil =>
    cases collected
    simp [delivered]
  | cons piece pieces ih =>
    unfold collect at collected
    split_ifs at collected with ended
    · cases collected
      exact List.prefix_append ..
    · cases piece with
      | error error => cases collected
      | ok more =>
        rw [delivered, ← List.append_assoc]
        exact ih collected

/-- Once the end of the response has been delivered, it is found. -/
theorem collect_ended (arrived : hasMarker culture.fold endMarker (start ++ delivered pieces) = true) :
    ∃ text, collect culture pieces start = .ok text ∧ hasMarker culture.fold endMarker text = true := by
  induction pieces generalizing start with
  | nil => exact ⟨start, rfl, by simpa [delivered] using arrived⟩
  | cons piece pieces ih =>
    unfold collect
    split_ifs with ended
    · exact ⟨start, rfl, ended⟩
    · cases piece with
      | error error => exact absurd (by simpa [delivered] using arrived) ended
      | ok more =>
        rw [delivered, ← List.append_assoc] at arrived
        exact ih arrived

end Collect

/-- The end of the response has been delivered before the deadline. -/
def Reply.Arrived (reply : Reply) (pieces : List (Except Text Text)) : Prop :=
  unlines '\n' reply.beforeEnd ++ endMarker <+: delivered pieces

section Pinned

variable {culture : Culture} {reply : Reply} {text after : Text}

theorem throwUnless_ok {condition : Bool} {message : String} {u : Unit} :
    throwUnless condition message = .ok u ↔ condition = true := by
  cases condition <;> simp [throwUnless]

theorem demand_ok {found : Option Text} {message : String} {text : Text} :
    demand found message = .ok text ↔ found = some text := by
  cases found <;> simp [demand]

/-- A front part of the stream that ends the response shows every line in front of the end. -/
theorem shown_whole (sound : reply.Sound culture.fold) (folds : FoldsCase culture.fold)
    (front : text <+: reply.stream after) (ended : hasMarker culture.fold endMarker text = true) :
    unlines '\n' reply.beforeEnd ++ endMarker <+: text := by
  obtain ⟨rest, rfl, shown, found⟩ := shown_of_search (sound.beforeEnd_blind folds) front ended
  rw [List.prefix_append_right_inj]
  obtain short | long := List.prefix_or_prefix_of_prefix shown (List.prefix_append endMarker _)
  · have bare : '\n' ∉ rest := fun member => absurd (short.subset member) (by decide)
    rw [search_bare bare] at found
    have starts : startsWith culture.fold endMarker rest = true := by
      by_contra other
      rw [markerAt_none (Bool.eq_false_iff.mpr other)] at found
      cases found
    have length := congrArg List.length (of_decide_eq_true starts)
    rw [List.length_map, List.length_take, List.length_map] at length
    rw [short.eq_of_length_le (by omega)]
  · exact long

theorem hasMarker_of_line {lines : List Text} {rest marker : Text}
    (whole : ∀ line ∈ lines, '\n' ∉ line)
    (starts : startsWith culture.fold marker rest = true)
    (ends : atLineEnd (rest.drop marker.length) = true) :
    hasMarker culture.fold marker (unlines '\n' lines ++ rest) = true :=
  search_isSome_of_line whole (by simp [markerAt, starts, ends])

/-- What is delivered of the stream ends the response when it has come to the end marker. -/
theorem ended_of_arrived (sound : reply.Sound culture.fold) (folds : FoldsCase culture.fold)
    (front : text <+: reply.stream after)
    (arrived : unlines '\n' reply.beforeEnd ++ endMarker <+: text) :
    hasMarker culture.fold endMarker text = true := by
  obtain ⟨rest, rfl⟩ := arrived
  rw [List.append_assoc] at front ⊢
  have behind : rest <+: '\r' :: '\n' :: after :=
    (List.prefix_append_right_inj _).mp ((List.prefix_append_right_inj _).mp front)
  refine hasMarker_of_line (fun line member => (sound.beforeEnd_blind folds line member).whole)
    (startsWith_append rest) ?_
  rw [List.drop_left]
  match rest, behind with
  | [], _ => rfl
  | [c], behind =>
    obtain ⟨rfl, -⟩ := List.cons_prefix_cons.mp behind
    rfl
  | c :: d :: rest, behind =>
    obtain ⟨rfl, later⟩ := List.cons_prefix_cons.mp behind
    obtain ⟨rfl, -⟩ := List.cons_prefix_cons.mp later
    rfl

theorem begun_of_arrived (sound : reply.Sound culture.fold)
    (arrived : unlines '\n' reply.beforeEnd ++ endMarker <+: text) :
    hasMarker culture.fold beginMarker text = true := by
  obtain ⟨rest, rfl⟩ := arrived
  have split : unlines '\n' reply.beforeEnd ++ endMarker ++ rest = unlines '\n' reply.noise ++
      (beginMarker ++ ('\r' :: '\n' :: (unlines '\n' ["Public key portion is:\r".toList, reply.keyLine,
        fingerprintWord ++ ' ' :: reply.fingerprint ++ ['\r']] ++ endMarker ++ rest))) := by
    simp [Reply.beforeEnd, Reply.opening, unlines]
  have noise : ∀ line ∈ reply.noise, '\n' ∉ line := fun line member => (sound.quiet line member).1
  rw [split]
  refine hasMarker_of_line noise (startsWith_append _) ?_
  rw [List.drop_left]
  rfl

/-- The lines behind `ssh-keygen` and `ssh-keyscan`. -/
structure Agrees (culture : Culture) (tools : Tools) (reply : Reply) : Prop where
  computed : (tools.keygen (keyType ++ ' ' :: reply.key)).1 = 0 ∧
    contains culture.fold (tools.keygen (keyType ++ ' ' :: reply.key)).2 reply.fingerprint = true
  network : networkAgrees culture tools reply.key = true

theorem checkResponse_ok_iff {tools : Tools} {portName : String} {blob : Text} :
    checkResponse culture tools portName text = .ok blob ↔
      (hasMarker culture.fold beginMarker text = true ∧ hasMarker culture.fold endMarker text = true) ∧
      search '\n' keyAt text = some blob ∧ ∃ fingerprint, findFingerprint text = some fingerprint ∧
      ((tools.keygen (keyType ++ ' ' :: blob)).1 = 0 ∧
        contains culture.fold (tools.keygen (keyType ++ ' ' :: blob)).2 fingerprint = true) ∧
      networkAgrees culture tools blob = true := by
  simp only [checkResponse, Checks.bind_ok, throwUnless_ok, demand_ok, pure, Except.pure,
    Bool.and_eq_true, decide_eq_true_eq, exists_const, Except.ok.injEq]
  constructor
  · rintro ⟨marked, key, found, fingerprint, printed, computed, network, rfl⟩
    exact ⟨marked, found, fingerprint, printed, computed, network⟩
  · rintro ⟨marked, found, fingerprint, printed, computed, network⟩
    exact ⟨marked, blob, found, fingerprint, printed, computed, network, rfl⟩

theorem checkResponse_ok (tools : Tools) (portName : String) (sound : reply.Sound culture.fold)
    (folds : FoldsCase culture.fold) (front : text <+: reply.stream after) {blob : Text} :
    checkResponse culture tools portName text = .ok blob ↔
      hasMarker culture.fold endMarker text = true ∧ Agrees culture tools reply ∧ blob = reply.key := by
  rw [checkResponse_ok_iff]
  by_cases ended : hasMarker culture.fold endMarker text = true
  · have arrived := shown_whole sound folds front ended
    have begun := begun_of_arrived sound arrived
    obtain ⟨rest, rfl⟩ := arrived
    rw [List.append_assoc] at ended begun ⊢
    simp only [ended, begun, sound.search_key, sound.find_fingerprint, true_and, and_true,
      Option.some.injEq, exists_eq_left']
    constructor
    · rintro ⟨rfl, computed, network⟩
      exact ⟨⟨computed, network⟩, rfl⟩
    · rintro ⟨agrees, rfl⟩
      exact ⟨rfl, agrees.computed, agrees.network⟩
  · simp [ended]

theorem getSerialHostKey_ok (folds : FoldsCase culture.fold) (tools : Tools)
    (devices : List SerialDevice) (sound : reply.Sound culture.fold)
    {pieces : List (Except Text Text)}
    (heard : delivered pieces <+: reply.stream after) {content : Text} :
    getSerialHostKey culture tools devices pieces = .ok content ↔
      ∃ portName, selectPort culture devices = .ok portName ∧ reply.Arrived pieces ∧
        Agrees culture tools reply ∧ content = address ++ ' ' :: keyType ++ ' ' :: reply.key := by
  simp only [getSerialHostKey, Checks.bind_ok, pure, Except.pure, Except.ok.injEq]
  refine exists_congr fun portName => and_congr_right fun _ => ?_
  constructor
  · rintro ⟨text, collected, blob, checked, rfl⟩
    have front : text <+: delivered pieces := by simpa using collect_front collected
    obtain ⟨ended, agrees, rfl⟩ :=
      (checkResponse_ok tools _ sound folds (front.trans heard)).mp checked
    exact ⟨(shown_whole sound folds (front.trans heard) ended).trans front, agrees, rfl⟩
  · rintro ⟨arrived, agrees, rfl⟩
    have ended := ended_of_arrived sound folds heard arrived
    obtain ⟨text, collected, seen⟩ := @collect_ended culture pieces [] (by simpa using ended)
    have front : text <+: delivered pieces := by simpa using collect_front collected
    exact ⟨text, collected, reply.key,
      (checkResponse_ok tools _ sound folds (front.trans heard)).mpr ⟨seen, agrees, rfl⟩, rfl⟩

end Pinned

/-! ### A response in three pieces -/

def plainCulture : Culture := ⟨Char.toLower, fun c => '0' ≤ c && c ≤ '9'⟩

def sampleReply : Reply where
  noise := ["# echo __A1625_KEY_BEGIN__; dropbearkey -y; echo __A1625_KEY_END__\r".toList]
  digits := "AAAAC3Nz".toList
  padding := 1
  comment := " root@a1625".toList
  digest := "q0Fy".toList

def sampleTools : Tools where
  keygen _ := (0, "256 SHA256:q0Fy no comment (ED25519)".toList)
  keyscan := ["172.16.42.1 ssh-ed25519 AAAAC3Nz=".toList]

def sampleDevices : List SerialDevice :=
  [⟨"USB\\VID_05AC&PID_4142&MI_02\\7&1".toList, "COM5".toList⟩]

def samplePieces : List (Except Text Text) :=
  [.ok ((sampleReply.stream []).take 70), .ok (((sampleReply.stream []).drop 70).take 60),
    .ok ((sampleReply.stream []).drop 130)]

theorem plainCulture_folds : FoldsCase plainCulture.fold := fun _ _ _ _ same => same

theorem sampleReply_sound : sampleReply.Sound plainCulture.fold where
  quiet := by decide +kernel
  digits := ⟨by decide, List.all_eq_true.mp (by decide)⟩
  padding := by decide
  comment := .inr ⟨"root@a1625".toList, rfl, by simp [isBreak]⟩
  digest := ⟨by decide, List.all_eq_true.mp (by decide)⟩
  unprinted := by decide +kernel

example : getSerialHostKey plainCulture sampleTools sampleDevices samplePieces =
    .ok "172.16.42.1 ssh-ed25519 AAAAC3Nz=".toList := by decide +kernel

end WinBoot.SerialHostKey
