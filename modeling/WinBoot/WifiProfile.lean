import WinBoot.Checks
import WinBoot.SnapshotStore
import WinBoot.WriteHistory

/-! The Wi-Fi profile: made from an SSID and a passphrase, kept encrypted in one file, and turned into
the configuration of the supplicant. PBKDF2, encryption and JSON are parameters. -/

namespace WinBoot.WifiProfile
open Checks SnapshotStore
open WriteHistory (Write)

abbrev Text : Type := List Char
abbrev Bytes : Type := List UInt8

/-- An element of an array of JSON, with its text for a pattern and its text in a string. An array in
it has two, and what counts as false has no text but these. -/
structure Item where
  matched : Text
  shown : Text
  truth : Bool
  shown_eq : shown = matched ∨ shown = "System.Object[]".toList
  falsehoods : truth = false → matched ∈ ["".toList, "0".toList, "-0".toList, "False".toList]

/-- What a property of an object that was read from JSON can be. -/
inductive Value
  | text (shown : Text)
  | list (items : List Item)

namespace Value

/-- The value in a string. -/
def shown : Value → Text
  | .text t => t
  | .list items => [' '].intercalate (items.map Item.shown)

def listTruth : List Item → Bool
  | [] => false
  | [item] => item.truth
  | _ => true

/-- `-cnotmatch`, which filters a list. -/
def notMatch (pattern : Text → Bool) : Value → Bool
  | .text t => !pattern t
  | .list items => listTruth (items.filter fun item => !pattern item.matched)

end Value

structure Profile where
  schema : Value
  target : Value
  country : Value
  authentication : Value
  ssidHex : Value
  pskHex : Value

def isLowerHex (c : Char) : Bool := ('0' ≤ c && c ≤ '9') || ('a' ≤ c && c ≤ 'f')

/-- `\A(?:[0-9a-f]{2}){1,32}\z` -/
def ssidPattern (text : Text) : Bool :=
  text.length % 2 = 0 && 2 ≤ text.length && text.length ≤ 64 && text.all isLowerHex

/-- `\A[0-9a-f]{64}\z` -/
def pskPattern (text : Text) : Bool := text.length = 64 && text.all isLowerHex

/-- `\A[\x20-\x7e]{8,63}\z` -/
def passphrasePattern (text : Text) : Bool :=
  8 ≤ text.length && text.length ≤ 63 && text.all fun c => 0x20 ≤ c.toNat && c.toNat ≤ 0x7e

def utf8 (text : Text) : Bytes := text.flatMap String.utf8EncodeChar

/-- `[Convert]::ToHexString($bytes).ToLowerInvariant()` -/
def toLowerHex (bytes : Bytes) : Text := (toHexString bytes).map Char.toLower

/-- The host's comparisons, its encryption, which draws a seed, and its JSON. -/
structure Host where
  isWindows : Bool
  /-- `-ne` -/
  differs : Value → ℕ → Bool
  /-- `-cne` -/
  differsFrom : Value → Text → Bool
  endsWith : Text → Text → Bool
  serialize : Profile → Bytes
  parse : Bytes → Option Profile
  protect : ℕ → Bytes → Bytes
  unprotect : Bytes → Option Bytes

def require (good : Bool) (message : String) : Except String Unit :=
  if good then .ok () else .error message

def demand {α : Type} (message : String) : Option α → Except String α
  | none => .error message
  | some a => .ok a

/-- `New-A1625WifiProfile` -/
def newProfile (pbkdf2 : Bytes → Bytes → ℕ → (length : ℕ) → {key : Bytes // key.length = length})
    (ssid passphrase : Text) : Except String Profile := do
  require (1 ≤ (utf8 ssid).length && (utf8 ssid).length ≤ 32) "SSID must encode to 1-32 UTF-8 bytes."
  require (passphrasePattern passphrase)
    "WPA2 passphrase must contain 8-63 printable ASCII characters."
  return {
    schema := .text "1".toList
    target := .text "AppleTV5,3/J42d/T7000".toList
    country := .text "JP".toList
    authentication := .text "WPA2-PSK-CCMP".toList
    ssidHex := .text (toLowerHex (utf8 ssid))
    pskHex := .text (toLowerHex (pbkdf2 (asciiBytes passphrase) (utf8 ssid) 4096 32).1) }

variable (host : Host)

/-- `Assert-A1625WifiProfile` -/
def assertProfile (profile : Profile) : Except String Unit :=
  if host.differs profile.schema 1 ||
      host.differsFrom profile.target "AppleTV5,3/J42d/T7000".toList ||
      host.differsFrom profile.country "JP".toList ||
      host.differsFrom profile.authentication "WPA2-PSK-CCMP".toList ||
      profile.ssidHex.notMatch ssidPattern || profile.pskHex.notMatch pskPattern then
    .error "Invalid A1625 Japan WPA2-CCMP profile."
  else .ok ()

/-- `Save-A1625WifiProfile` to a path that is resolved, up to what `Write-A1625AtomicBytes` is given:
`prepared` is what became of `Set-A1625StateDirectoryAcl`. -/
def saveProfile (prepared : Except String Unit) (seed : ℕ) (profile : Profile) (path : Text) :
    Except String (Text × Bytes) := do
  assertProfile host profile
  require host.isWindows "Wi-Fi profiles require Windows CurrentUser DPAPI."
  require (host.endsWith path ".wifi.dpapi".toList) "Use a .wifi.dpapi file name."
  prepared
  return (path, host.protect seed (host.serialize profile))

def profileLimit : ℕ := 16384

/-- `Read-A1625WifiProfile` -/
def readProfile (store : Store) (path : Text) : Except String Profile := do
  let bytes ← demand "Cannot find path." (store path)
  require (bytes.length ≤ profileLimit) "Wi-Fi profile is too large."
  let plain ← demand "The data is invalid." (host.unprotect bytes)
  let profile ← demand "The object has no such property." (host.parse plain)
  assertProfile host profile
  return profile

/-- The lines of the here-string. -/
def configLines (ssid psk : Text) : List Text :=
  ["country=JP".toList, "ctrl_interface=/run/a1625-wifi/control".toList, "update_config=0".toList,
    "network=\x7b".toList, "    ssid=".toList ++ ssid, "    psk=".toList ++ psk,
    "    key_mgmt=WPA-PSK".toList, "    proto=RSN".toList, "    pairwise=CCMP".toList,
    "    group=CCMP".toList, "\x7d".toList]

/-- ``-replace "`r`n", "`n"`` -/
def replaceLineEnds : Text → Text
  | '\r' :: '\n' :: rest => '\n' :: replaceLineEnds rest
  | c :: rest => c :: replaceLineEnds rest
  | [] => []

/-- The text of `ConvertTo-A1625WpaConfig`; `lineEnd` is the one its file was checked out with. -/
def wpaText (lineEnd : Text) (profile : Profile) : Text :=
  replaceLineEnds (lineEnd.intercalate (configLines profile.ssidHex.shown profile.pskHex.shown)) ++ ['\n']

/-- `ConvertTo-A1625WpaConfig` -/
def convertToWpaConfig (lineEnd : Text) (profile : Profile) : Except String Bytes := do
  assertProfile host profile
  return utf8 (wpaText lineEnd profile)

/-- Letters, digits and what a list or the name of an array adds to them. -/
def isPlain (c : Char) : Bool :=
  ('0' ≤ c && c ≤ '9') || ('a' ≤ c && c ≤ 'z') || ('A' ≤ c && c ≤ 'Z') ||
    [' ', '-', '.', '[', ']'].contains c

/-- What the lines of the configuration are made of. -/
def isConfig (c : Char) : Bool := isPlain c || "=_/\x7b\x7d".toList.contains c

section Values

variable {pattern : Text → Bool}

theorem isPlain_lowerHex {c : Char} (digit : isLowerHex c) : isPlain c := by
  simp only [isLowerHex, isPlain, Bool.or_eq_true, Bool.and_eq_true, decide_eq_true_eq] at digit ⊢
  obtain number | ⟨low, high⟩ := digit
  · exact .inl (.inl (.inl number))
  · exact .inl (.inl (.inr ⟨low, Nat.le_trans high (by decide)⟩))

theorem mem_intercalate {c separator : Char} {texts : List Text}
    (member : c ∈ [separator].intercalate texts) : c = separator ∨ ∃ text ∈ texts, c ∈ text := by
  induction texts with
  | nil => cases member
  | cons text texts ih =>
    cases texts with
    | nil =>
      rw [List.intercalate_singleton] at member
      exact .inr ⟨text, List.mem_cons_self, member⟩
    | cons other texts =>
      rw [List.intercalate_cons_cons, List.mem_append, List.mem_append, List.mem_singleton] at member
      obtain (here | rfl) | later := member
      · exact .inr ⟨text, List.mem_cons_self, here⟩
      · exact .inl rfl
      · exact (ih later).imp_right fun ⟨text, among, here⟩ =>
          ⟨text, List.mem_cons_of_mem _ among, here⟩

/-- An element of a list that passes either has the pattern or counts as false. -/
theorem Value.passes {items : List Item} (passed : (Value.list items).notMatch pattern = false)
    {item : Item} (member : item ∈ items) : pattern item.matched ∨ item.truth = false := by
  by_cases good : pattern item.matched
  · exact .inl good
  · right
    have kept : item ∈ items.filter fun item => !pattern item.matched :=
      List.mem_filter.mpr ⟨member, by simpa using good⟩
    simp only [Value.notMatch] at passed
    cases found : items.filter fun item => !pattern item.matched with
    | nil => exact absurd (found ▸ kept) List.not_mem_nil
    | cons first rest =>
      cases rest with
      | nil =>
        rw [found] at kept passed
        obtain rfl := List.mem_singleton.mp kept
        exact passed
      | cons second rest =>
        rw [found] at passed
        cases passed

theorem Item.plain (hex : ∀ text, pattern text → text.all isLowerHex) {item : Item}
    (passed : pattern item.matched ∨ item.truth = false) : item.shown.all isPlain := by
  obtain same | named := item.shown_eq
  · rw [same]
    obtain good | wrong := passed
    · exact List.all_eq_true.mpr fun c member =>
        isPlain_lowerHex (List.all_eq_true.mp (hex _ good) c member)
    · have among := item.falsehoods wrong
      simp only [List.mem_cons, List.not_mem_nil, or_false] at among
      obtain empty | zero | minus | word := among
      · rw [empty]; rfl
      · rw [zero]; rfl
      · rw [minus]; rfl
      · rw [word]; rfl
  · rw [named]
    rfl

/-- Whatever a checked value is, its text in a string has no line end and no bracket of a block. -/
theorem Value.plain (hex : ∀ text, pattern text → text.all isLowerHex) {value : Value}
    (passed : value.notMatch pattern = false) {c : Char} (member : c ∈ value.shown) :
    isPlain c := by
  cases value with
  | text t =>
    have good : pattern t := by simpa [Value.notMatch] using passed
    exact isPlain_lowerHex (List.all_eq_true.mp (hex t good) c member)
  | list items =>
    obtain rfl | ⟨text, among, here⟩ := mem_intercalate member
    · rfl
    · obtain ⟨item, listed, rfl⟩ := List.mem_map.mp among
      exact List.all_eq_true.mp (item.plain hex (Value.passes passed listed)) c here

theorem ssidPattern_hex (text : Text) (good : ssidPattern text) : text.all isLowerHex := by
  simp only [ssidPattern, Bool.and_eq_true] at good
  exact good.2

theorem pskPattern_hex (text : Text) (good : pskPattern text) : text.all isLowerHex := by
  simp only [pskPattern, Bool.and_eq_true] at good
  exact good.2

end Values

section Lines

theorem replaceLineEnds_cons {c : Char} (plain : c ≠ '\r') (rest : Text) :
    replaceLineEnds (c :: rest) = c :: replaceLineEnds rest := by
  cases rest <;> simp [replaceLineEnds, plain]

theorem replaceLineEnds_line {line : Text} (plain : '\r' ∉ line) (rest : Text) :
    replaceLineEnds (line ++ rest) = line ++ replaceLineEnds rest := by
  induction line with
  | nil => rfl
  | cons c line ih =>
    rw [List.cons_append, replaceLineEnds_cons (fun same => plain (same ▸ List.mem_cons_self)),
      ih fun member => plain (List.mem_cons_of_mem _ member), List.cons_append]

/-- Lines come out the same, however they were ended. -/
theorem replaceLineEnds_lines {lineEnd : Text} (ends : lineEnd = ['\n'] ∨ lineEnd = ['\r', '\n'])
    {lines : List Text} (plain : ∀ line ∈ lines, '\r' ∉ line) :
    replaceLineEnds (lineEnd.intercalate lines) = ['\n'].intercalate lines := by
  induction lines with
  | nil => rfl
  | cons line lines ih =>
    have first : '\r' ∉ line := plain line List.mem_cons_self
    cases lines with
    | nil => simpa [replaceLineEnds] using replaceLineEnds_line first []
    | cons other lines =>
      have later := ih fun line member => plain line (List.mem_cons_of_mem _ member)
      rw [List.intercalate_cons_cons, List.intercalate_cons_cons, List.append_assoc,
        replaceLineEnds_line first, List.append_assoc]
      obtain rfl | rfl := ends
      · rw [List.singleton_append, replaceLineEnds_cons (by decide), later]
      · rw [List.cons_append, List.singleton_append, replaceLineEnds, later]
        rfl

theorem intercalate_ended {separator : Text} {lines : List Text} (some : lines ≠ []) :
    separator.intercalate (lines ++ [[]]) = separator.intercalate lines ++ separator := by
  induction lines with
  | nil => exact absurd rfl some
  | cons line lines ih =>
    cases lines with
    | nil => simp [List.intercalate_cons_cons]
    | cons other lines =>
      have later := ih (by simp)
      rw [List.cons_append, List.cons_append, List.intercalate_cons_cons,
        List.intercalate_cons_cons, ← List.cons_append, later, List.append_assoc, List.append_assoc,
        List.append_assoc]

theorem configLines_all {ssid psk : Text} (first : ssid.all isPlain) (second : psk.all isPlain)
    {line : Text} (listed : line ∈ configLines ssid psk) : line.all isConfig := by
  have value {key text : Text} (fixed : key.all isConfig) (plain : text.all isPlain) :
      (key ++ text).all isConfig := by
    rw [List.all_append, fixed, Bool.true_and]
    exact List.all_eq_true.mpr fun c member =>
      Bool.or_eq_true_iff.mpr (.inl (List.all_eq_true.mp plain c member))
  simp only [configLines, List.mem_cons, List.not_mem_nil, or_false] at listed
  obtain rfl | rfl | rfl | rfl | rfl | rfl | rfl | rfl | rfl | rfl | rfl := listed
  case inr.inr.inr.inr.inl => exact value rfl first
  case inr.inr.inr.inr.inr.inl => exact value rfl second
  all_goals rfl

/-- A configuration with values that were checked is its eleven lines and no more, however the
here-string was ended. -/
theorem wpaText_lines {lineEnd : Text} (ends : lineEnd = ['\n'] ∨ lineEnd = ['\r', '\n'])
    {profile : Profile} (first : profile.ssidHex.shown.all isPlain)
    (second : profile.pskHex.shown.all isPlain) :
    (wpaText lineEnd profile).splitOn '\n' =
      configLines profile.ssidHex.shown profile.pskHex.shown ++ [[]] := by
  have without {c : Char} (control : isConfig c = false) {line : Text}
      (listed : line ∈ configLines profile.ssidHex.shown profile.pskHex.shown) : c ∉ line := by
    intro member
    rw [List.all_eq_true.mp (configLines_all first second listed) c member] at control
    cases control
  have joined : wpaText lineEnd profile =
      ['\n'].intercalate (configLines profile.ssidHex.shown profile.pskHex.shown ++ [[]]) := by
    rw [wpaText, replaceLineEnds_lines ends fun line listed => without rfl listed]
    exact (intercalate_ended (by simp [configLines])).symm
  rw [joined]
  refine List.splitOn_intercalate '\n' (fun line listed => ?_) (by simp)
  obtain inside | last := List.mem_append.mp listed
  · exact without rfl inside
  · rw [List.mem_singleton.mp last]
    exact List.not_mem_nil

end Lines

section Checked

variable {host : Host} {profile : Profile}

theorem require_ok {good : Bool} {message : String} {u : Unit} :
    require good message = .ok u ↔ good := by
  cases good <;> simp [require]

theorem assertProfile_ok :
    assertProfile host profile = .ok () ↔ host.differs profile.schema 1 = false ∧
      host.differsFrom profile.target "AppleTV5,3/J42d/T7000".toList = false ∧
      host.differsFrom profile.country "JP".toList = false ∧
      host.differsFrom profile.authentication "WPA2-PSK-CCMP".toList = false ∧
      profile.ssidHex.notMatch ssidPattern = false ∧ profile.pskHex.notMatch pskPattern = false := by
  rw [assertProfile]
  split
  case isTrue wrong =>
    simp only [reduceCtorEq, false_iff]
    rintro ⟨schema, target, country, authentication, ssid, psk⟩
    rw [schema, target, country, authentication, ssid, psk] at wrong
    cases wrong
  case isFalse right => simpa [and_assoc] using right

theorem assertProfile_plain (checked : assertProfile host profile = .ok ()) :
    profile.ssidHex.shown.all isPlain ∧ profile.pskHex.shown.all isPlain := by
  obtain ⟨-, -, -, -, ssid, psk⟩ := assertProfile_ok.mp checked
  exact ⟨List.all_eq_true.mpr fun _ => Value.plain ssidPattern_hex ssid,
    List.all_eq_true.mpr fun _ => Value.plain pskPattern_hex psk⟩

/-- No profile, whatever JSON it was read from, adds a line to the configuration or changes another
line than the two it has a value in. -/
theorem config_uninjected {lineEnd : Text} (ends : lineEnd = ['\n'] ∨ lineEnd = ['\r', '\n'])
    {bytes : Bytes} (written : convertToWpaConfig host lineEnd profile = .ok bytes) :
    ∃ text : Text, bytes = utf8 text ∧
      text.splitOn '\n' = configLines profile.ssidHex.shown profile.pskHex.shown ++ [[]] ∧
      profile.ssidHex.shown.all isPlain ∧ profile.pskHex.shown.all isPlain := by
  obtain ⟨_, checked, last⟩ := bind_ok.mp written
  obtain ⟨first, second⟩ := assertProfile_plain checked
  exact ⟨wpaText lineEnd profile, (Except.ok.inj last).symm, wpaText_lines ends first second, first,
    second⟩

def quoted (name : String) (text : Text) : Text := ("\"" ++ name ++ "\":\"").toList ++ text ++ ['"']

/-- `ConvertTo-Json -Compress` of a profile of texts. -/
def json (profile : Profile) : Text :=
  "\x7b\"schema\":".toList ++ profile.schema.shown ++ ",".toList ++
    [','].intercalate [quoted "target" profile.target.shown, quoted "country" profile.country.shown,
      quoted "authentication" profile.authentication.shown, quoted "ssidHex" profile.ssidHex.shown,
      quoted "pskHex" profile.pskHex.shown] ++ ['\x7d']

/-- Its inverse, by the places of the quotes. -/
def parseJson (bytes : Bytes) : Option Profile := do
  let parts := (asciiString bytes).splitOn '"'
  let schema ← parts[2]?
  let target ← parts[5]?
  let country ← parts[9]?
  let authentication ← parts[13]?
  let ssidHex ← parts[17]?
  let pskHex ← parts[21]?
  return ⟨.text ((schema.drop 1).dropLast), .text target, .text country, .text authentication,
    .text ssidHex, .text pskHex⟩

/-- A list of an empty text and of a network passes. -/
def listedProfile : Profile where
  schema := .text "1".toList
  target := .text "AppleTV5,3/J42d/T7000".toList
  country := .text "JP".toList
  authentication := .text "WPA2-PSK-CCMP".toList
  ssidHex := .list [⟨[], [], false, .inl rfl, fun _ => .head _⟩,
    ⟨"49".toList, "49".toList, true, .inl rfl, fun wrong => Bool.noConfusion wrong⟩]
  pskHex := .list []

def exactHost : Host where
  isWindows := true
  differs value n := value.shown ≠ (Nat.repr n).toList
  differsFrom value text := value.shown ≠ text
  endsWith text ending := ending.isSuffixOf text
  serialize profile := asciiBytes (json profile)
  parse := parseJson
  protect seed plain := UInt8.ofNat seed :: plain
  unprotect cipher := some (cipher.drop 1)

theorem config_uninjected_listed :
    ∃ text : Text, utf8 (wpaText ['\n'] listedProfile) = utf8 text ∧
      text.splitOn '\n' = configLines listedProfile.ssidHex.shown listedProfile.pskHex.shown ++ [[]] ∧
      listedProfile.ssidHex.shown.all isPlain ∧ listedProfile.pskHex.shown.all isPlain :=
  @config_uninjected exactHost listedProfile ['\n'] (.inl rfl) _ rfl

end Checked

section Hex

def hexValue (c : Char) : Option ℕ :=
  if '0' ≤ c ∧ c ≤ '9' then some (c.toNat - 48)
  else if 'a' ≤ c ∧ c ≤ 'f' then some (c.toNat - 87)
  else none

/-- The bytes that the supplicant takes a value without quotes for. -/
def fromHex : Text → Option Bytes
  | [] => some []
  | [_] => none
  | high :: low :: rest => do
    let h ← hexValue high
    let l ← hexValue low
    let bytes ← fromHex rest
    return UInt8.ofNat (16 * h + l) :: bytes

theorem hexValue_toLower {n : ℕ} (digit : n < 16) : hexValue (hexDigit n).toLower = some n :=
  (by decide : ∀ n < 16, hexValue (hexDigit n).toLower = some n) n digit

theorem isLowerHex_toLower {n : ℕ} (digit : n < 16) : isLowerHex (hexDigit n).toLower :=
  (by decide : ∀ n < 16, isLowerHex (hexDigit n).toLower) n digit

theorem toLowerHex_cons (b : UInt8) (bytes : Bytes) :
    toLowerHex (b :: bytes) =
      (hexDigit (b.toNat / 16)).toLower :: (hexDigit (b.toNat % 16)).toLower :: toLowerHex bytes := rfl

theorem fromHex_toLowerHex (bytes : Bytes) : fromHex (toLowerHex bytes) = some bytes := by
  induction bytes with
  | nil => rfl
  | cons b bytes ih =>
    have small : b.toNat < 256 := b.toNat_lt
    rw [toLowerHex_cons, fromHex, hexValue_toLower (by omega), hexValue_toLower (by omega), ih]
    change some (UInt8.ofNat (16 * (b.toNat / 16) + b.toNat % 16) :: bytes) = _
    rw [Nat.div_add_mod, UInt8.ofNat_toNat]

theorem toLowerHex_length (bytes : Bytes) : (toLowerHex bytes).length = 2 * bytes.length := by
  rw [toLowerHex, List.length_map, toHexString_length]

theorem toLowerHex_all (bytes : Bytes) : (toLowerHex bytes).all isLowerHex := by
  induction bytes with
  | nil => rfl
  | cons b bytes ih =>
    have small : b.toNat < 256 := b.toNat_lt
    rw [toLowerHex_cons, List.all_cons, List.all_cons, ih, isLowerHex_toLower (by omega),
      isLowerHex_toLower (by omega)]
    rfl

/-- Every profile that is made passes the check that each of the others makes. -/
theorem newProfile_checked
    {pbkdf2 : Bytes → Bytes → ℕ → (length : ℕ) → {key : Bytes // key.length = length}}
    {host : Host} {ssid passphrase : Text} {profile : Profile}
    (number : host.differs (.text "1".toList) 1 = false)
    (same : ∀ text, host.differsFrom (.text text) text = false)
    (made : newProfile pbkdf2 ssid passphrase = .ok profile) :
    assertProfile host profile = .ok () := by
  simp only [newProfile, bind_ok, require_ok, Bool.and_eq_true, decide_eq_true_eq] at made
  obtain ⟨_, ⟨least, most⟩, _, -, last⟩ := made
  rw [assertProfile_ok, ← Except.ok.inj last]
  refine ⟨number, same _, same _, same _, ?_, ?_⟩
  · have hex := toLowerHex_all (utf8 ssid)
    have length := toLowerHex_length (utf8 ssid)
    have pattern : ssidPattern (toLowerHex (utf8 ssid)) := by
      simp only [ssidPattern, hex, length, Bool.and_eq_true, decide_eq_true_eq, and_true]
      omega
    exact congrArg not pattern
  · generalize (pbkdf2 (asciiBytes passphrase) (utf8 ssid) 4096 32) = key
    have length := toLowerHex_length key.1
    rw [key.2] at length
    have pattern : pskPattern (toLowerHex key.1) := by
      simp only [pskPattern, toLowerHex_all, length, Bool.and_eq_true, decide_eq_true_eq]
      exact ⟨trivial, trivial⟩
    exact congrArg not pattern

end Hex

section Store

/-- One call of `Save-A1625WifiProfile`, whose profile and path are any, and how many steps of the
writing it got to make. -/
structure Attempt where
  prepared : Except String Unit
  seed : ℕ
  profile : Profile
  path : Text
  progress : ℕ

def Attempt.outcome (attempt : Attempt) : Except String (Text × Bytes) :=
  saveProfile host attempt.prepared attempt.seed attempt.profile attempt.path

/-- What it writes, if it comes to that. -/
def Attempt.write (attempt : Attempt) : Option (Write Text UInt8) :=
  (attempt.outcome host).toOption.map fun written => ⟨written.1, written.2, attempt.progress⟩

def storeAfter (store : Store) (history : List Attempt) : Store :=
  WriteHistory.storeAfter nextName previousName (Attempt.write host) store history

/-- The last attempt on a path to get to the end. -/
abbrev Latest (history : List Attempt) (path : Text) (attempt : Attempt) : Prop :=
  WriteHistory.Latest nextName previousName (Attempt.write host) history path attempt

/-- No name of a profile is the name of a file on its way or of a backup. -/
structure Apart (host : Host) : Prop where
  next : ∀ path, host.endsWith (nextName path) ".wifi.dpapi".toList = false
  previous : ∀ path, host.endsWith (previousName path) ".wifi.dpapi".toList = false

variable {host}

theorem Attempt.write_some {attempt : Attempt} {write : Write Text UInt8}
    (made : write ∈ attempt.write host) :
    assertProfile host attempt.profile = .ok () ∧ host.endsWith write.path ".wifi.dpapi".toList ∧
      write = ⟨attempt.path, host.protect attempt.seed (host.serialize attempt.profile),
        attempt.progress⟩ := by
  obtain ⟨result, some, rfl⟩ := Option.map_eq_some_iff.mp made
  have ok := ok_of_toOption some
  simp only [Attempt.outcome, saveProfile, bind_ok, require_ok] at ok
  obtain ⟨_, checked, -, -, -, named, -, -, last⟩ := ok
  obtain rfl := Except.ok.inj last
  exact ⟨checked, named, rfl⟩

/-- After any saves, of any profiles, refused or cut off anywhere, a path holds what its last save
that got to the end has written. -/
theorem storeAfter_latest (apart : Apart host) {history : List Attempt} {path : Text}
    {attempt : Attempt} (latest : Latest host history path attempt) (store : Store) :
    assertProfile host attempt.profile = .ok () ∧ storeAfter host store history path =
      some (host.protect attempt.seed (host.serialize attempt.profile)) := by
  have found := latest
  obtain ⟨w, made, rfl, -⟩ := found
  obtain ⟨checked, named, -⟩ := Attempt.write_some made
  have others : WriteHistory.Apart nextName previousName (Attempt.write host) history w.path := by
    intro other listed v written
    refine ⟨?_, ?_, next_ne_path _⟩
    · intro same
      rw [same, apart.next] at named
      cases named
    · intro same
      rw [same, apart.previous] at named
      cases named
  obtain ⟨v, written, held⟩ := WriteHistory.storeAfter_latest others latest store
  obtain ⟨-, -, rfl⟩ := Attempt.write_some written
  exact ⟨checked, held⟩

theorem demand_some {α : Type} {message : String} (a : α) :
    demand message (some a) = .ok a := rfl

/-- The profile that is read is the one that was saved, unless its file came out too long. -/
theorem readProfile_latest (apart : Apart host) {history : List Attempt} {path : Text}
    {attempt : Attempt} (latest : Latest host history path attempt)
    (decrypts : host.unprotect (host.protect attempt.seed (host.serialize attempt.profile)) =
      some (host.serialize attempt.profile))
    (parses : host.parse (host.serialize attempt.profile) = some attempt.profile) (store : Store) :
    readProfile host (storeAfter host store history) path =
      if (host.protect attempt.seed (host.serialize attempt.profile)).length ≤ profileLimit then
        .ok attempt.profile
      else .error "Wi-Fi profile is too large." := by
  obtain ⟨checked, held⟩ := storeAfter_latest apart latest store
  rw [readProfile, held, demand_some]
  by_cases small : (host.protect attempt.seed (host.serialize attempt.profile)).length ≤ profileLimit
  · rw [if_pos small]
    simp only [bind, Except.bind, require, small, decide_true, if_true, decrypts, demand, parses, checked]
    rfl
  · rw [if_neg small]
    simp only [bind, Except.bind, require, small, decide_false]
    rfl

/-- What `Connect-A1625Wifi.ps1` sends to the device. -/
def sentConfig (host : Host) (lineEnd : Text) (store : Store) (path : Text) : Except String Bytes := do
  let profile ← readProfile host store path
  convertToWpaConfig host lineEnd profile

/-- What is sent after any history of saves names the network and the key of the last profile whose
save got to the end, to the byte, in the eleven lines and no more. -/
theorem profile_survives
    {pbkdf2 : Bytes → Bytes → ℕ → (length : ℕ) → {key : Bytes // key.length = length}}
    {ssid passphrase : Text} {history : List Attempt} {path : Text} {attempt : Attempt}
    (latest : Latest host history path attempt)
    (made : newProfile pbkdf2 ssid passphrase = .ok attempt.profile) (apart : Apart host)
    (decrypts : host.unprotect (host.protect attempt.seed (host.serialize attempt.profile)) =
      some (host.serialize attempt.profile))
    (parses : host.parse (host.serialize attempt.profile) = some attempt.profile)
    (small : (host.protect attempt.seed (host.serialize attempt.profile)).length ≤ profileLimit)
    {lineEnd : Text} (ends : lineEnd = ['\n'] ∨ lineEnd = ['\r', '\n']) (store : Store) :
    ∃ text network key : Text,
      sentConfig host lineEnd (storeAfter host store history) path = .ok (utf8 text) ∧
      text.splitOn '\n' = configLines network key ++ [[]] ∧
      fromHex network = some (utf8 ssid) ∧
      fromHex key = some (pbkdf2 (asciiBytes passphrase) (utf8 ssid) 4096 32).1 := by
  obtain ⟨checked, -⟩ := storeAfter_latest apart latest store
  have read := readProfile_latest apart latest decrypts parses store
  rw [if_pos small] at read
  obtain ⟨first, second⟩ := assertProfile_plain checked
  refine ⟨wpaText lineEnd attempt.profile, attempt.profile.ssidHex.shown,
    attempt.profile.pskHex.shown, ?_, wpaText_lines ends first second, ?_, ?_⟩
  · rw [sentConfig, read]
    exact bind_ok.mpr ⟨_, rfl, bind_ok.mpr ⟨(), checked, rfl⟩⟩
  all_goals
    simp only [newProfile, bind_ok] at made
    obtain ⟨_, -, _, -, same⟩ := made
    rw [← Except.ok.inj same]
    exact fromHex_toLowerHex _

end Store

section Vector

/-- The key of the network `IEEE` under the passphrase `password`. -/
def vectorKey : Bytes :=
  [0xf4, 0x2c, 0x6f, 0xc5, 0x2d, 0xf0, 0xeb, 0xef, 0x9e, 0xbb, 0x4b, 0x90, 0xb3, 0x8a, 0x5f, 0x90,
    0x2e, 0x83, 0xfe, 0x1b, 0x13, 0x5a, 0x70, 0xe2, 0x3a, 0xed, 0x76, 0x2e, 0x97, 0x10, 0xa1, 0x2e]

def vectorPbkdf2 (_ _ : Bytes) (_ length : ℕ) : {key : Bytes // key.length = length} :=
  if fits : vectorKey.length = length then ⟨vectorKey, fits⟩
  else ⟨List.replicate length 0, List.length_replicate⟩

def vectorProfile : Profile where
  schema := .text "1".toList
  target := .text "AppleTV5,3/J42d/T7000".toList
  country := .text "JP".toList
  authentication := .text "WPA2-PSK-CCMP".toList
  ssidHex := .text (toLowerHex (utf8 "IEEE".toList))
  pskHex := .text (toLowerHex vectorKey)

def vectorPath : Text := "C:\\wifi\\japan.wifi.dpapi".toList

def vectorSave (progress : ℕ) : Attempt := ⟨.ok (), 7, vectorProfile, vectorPath, progress⟩

theorem vector_apart : Apart exactHost where
  next path := by simp [exactHost, nextName, List.isSuffixOf, List.isPrefixOf]
  previous path := by simp [exactHost, previousName, List.isSuffixOf, List.isPrefixOf]

theorem vector_latest :
    Latest exactHost [vectorSave 1000, vectorSave 9] vectorPath (vectorSave 1000) := by
  refine ⟨_, rfl, rfl, ?_, [], [vectorSave 9], rfl, ?_⟩
  · decide +kernel
  · intro other listed w made _
    obtain rfl := List.mem_singleton.mp listed
    obtain ⟨-, -, rfl⟩ := Attempt.write_some made
    decide +kernel

/-- A save that is cut off after one that was not. -/
theorem profile_survives_vector :
    ∃ text network key : Text,
      sentConfig exactHost ['\r', '\n']
        (storeAfter exactHost (fun _ => none) [vectorSave 1000, vectorSave 9]) vectorPath =
          .ok (utf8 text) ∧
      text.splitOn '\n' = configLines network key ++ [[]] ∧
      fromHex network = some (utf8 "IEEE".toList) ∧ fromHex key = some vectorKey :=
  @profile_survives exactHost vectorPbkdf2 "IEEE".toList "password".toList _ _ _ vector_latest rfl
    vector_apart rfl rfl (by decide +kernel) _ (.inr rfl) fun _ => none

end Vector

end WinBoot.WifiProfile
