import Mathlib.Data.List.Infix
import WinBoot.Throwing

/-! The restore command of the host as a script: local preflight, the device's stages from clean
DFU over YOLO DFU and Pongo to Linux, and the checks in front of each process it starts. What the
machine answers is arbitrary at every call, so a run may see any sequence of devices. -/

namespace WinBoot.BootGate
open Interaction

/-- Letter case and word characters, as the regular expressions and comparisons use them. -/
structure Culture where
  fold : Char → Char
  word : Char → Bool

def Culture.invariant : Culture where
  fold := Char.toLower
  word c := c.isAlphanum || c = '_'

structure UsbDevice where
  usbId : String
  status : String
  problemCode : String
  busDescription : String
  driverService : String
  instanceId : String
deriving DecidableEq

structure Manifest where
  target : String
  mode : String
  payloadSha256 : String
deriving DecidableEq

structure ProcessResult where
  exitCode : Int
  matched : Bool
  output : String
  stdoutLog : String
  stderrLog : String
deriving DecidableEq

inductive BootProfile
  | baseline | wifiExperimental | wifiFwLifetime | wifiFwResponse | wifiT7000Table | wifiT7000Leaf
deriving DecidableEq

inductive DevelopmentProfile
  | none | minimal | development
deriving DecidableEq

/-- `^[0-9A-Fa-f]{16}$`, whose end may stand before a last line feed. -/
def isEcid (text : String) : Bool :=
  let digits := if text.toList.getLast? = some '\n' then text.toList.dropLast else text.toList
  digits.length = 16 && digits.all fun c => c.isDigit || ('A' ≤ c.toUpper && c.toUpper ≤ 'F')

/-- The parameters as they are bound: an ECID that is given has passed its pattern. -/
structure Options where
  confirmRamBoot : Bool
  bootProfile : BootProfile
  expectedEcid : String
  startCodex : Bool
  enterShell : Bool
  developmentProfile : DevelopmentProfile
  enableZram : Bool
  restoreRamState : Bool
  validateOnly : Bool
  ecidPattern : expectedEcid = "" ∨ isEcid expectedEcid

/-- The other scripts this one calls. -/
inductive Step
  | prepareRuntime | prepareLayer | testRamStateSnapshot
  | waitLinuxUsbIdentity | configureUsbNetwork | getSerialHostKey | verifyHealth
  | installRuntime | installLayer | restoreRamState | startCodex | enterShell
deriving DecidableEq

inductive HostCall
  | testPath (path : String)
  | getFileHash (path : String)
  | readManifest (path : String)
  | selectString (path pattern : String)
  | getCommand (tool : String)
  | readDeviceConfig (path : String)
  | importModule (path : String)
  | getAtvUsbDetails
  | beforeDeadline
  | isInputRedirected
  | readHost
  | invokeBoundedProcess (file : String) (arguments : List String) (stopOn : List String)
  | invoke (step : Step)

/-- A call that may throw answers with its error. A layer's preparation answers with the bundle's
path, a step of the restore with nothing of use. -/
def HostCall.Reply : HostCall → Type
  | testPath _ => Bool
  | getFileHash _ => Except String String
  | readManifest _ => Except String Manifest
  | selectString _ _ => Except String Bool
  | getCommand _ => Bool
  | readDeviceConfig _ => Except String String
  | importModule _ => Except String Unit
  | getAtvUsbDetails => Except String (List UsbDevice)
  | beforeDeadline => Bool
  | isInputRedirected => Bool
  | readHost => Except String Unit
  | invokeBoundedProcess _ _ _ => Except String ProcessResult
  | invoke _ => Except String String

abbrev Host (α : Type) : Type := Script HostCall HostCall.Reply String α

abbrev HostEvent : Type := Event HostCall HostCall.Reply

def openra1n : String := "artifacts\\openra1n-win\\openra1n.exe"
def libusb : String := "artifacts\\openra1n-win\\libusb-1.0.dll"
def uploader : String := "windows-native\\pongo-uploader\\target\\release\\atv-pongo-uploader.exe"
def sshKey : String := "artifacts\\ssh\\a1625_ram_ed25519"
def atvModule : String := "windows-native\\AtvNative.psm1"
def runtimeInstaller : String := "windows-native\\codex-runtime\\Install-CodexRamRuntime.ps1"
def codexStarter : String := "windows-native\\codex-state\\Start-A1625Codex.ps1"
def shellStarter : String := "windows-native\\Enter-A1625Shell.ps1"
def deviceConfig : String := "AppleTvA1625\\state\\device.json"

def payload : BootProfile → String
  | .baseline => "artifacts\\hoolock\\payload\\m1n1-linux-a1625-minimal-ssh.bin"
  | .wifiExperimental => "artifacts\\hoolock\\payload\\m1n1-linux-a1625-wifi-experimental.bin"
  | .wifiFwLifetime => "artifacts\\hoolock\\payload\\m1n1-linux-a1625-wifi-fw-lifetime.bin"
  | .wifiFwResponse => "artifacts\\hoolock\\payload\\m1n1-linux-a1625-wifi-fw-response.bin"
  | .wifiT7000Table => "artifacts\\hoolock\\payload\\m1n1-linux-a1625-wifi-t7000-table.bin"
  | .wifiT7000Leaf => "artifacts\\hoolock\\payload\\m1n1-linux-a1625-wifi-t7000-leaf.bin"

def payloadManifest : BootProfile → String
  | .baseline => "artifacts\\hoolock\\payload\\m1n1-linux-a1625-minimal-ssh.manifest.json"
  | .wifiExperimental =>
    "artifacts\\hoolock\\payload\\m1n1-linux-a1625-wifi-experimental.manifest.json"
  | .wifiFwLifetime =>
    "artifacts\\hoolock\\payload\\m1n1-linux-a1625-wifi-fw-lifetime.manifest.json"
  | .wifiFwResponse =>
    "artifacts\\hoolock\\payload\\m1n1-linux-a1625-wifi-fw-response.manifest.json"
  | .wifiT7000Table =>
    "artifacts\\hoolock\\payload\\m1n1-linux-a1625-wifi-t7000-table.manifest.json"
  | .wifiT7000Leaf =>
    "artifacts\\hoolock\\payload\\m1n1-linux-a1625-wifi-t7000-leaf.manifest.json"

def kernelConfig : BootProfile → String
  | .baseline => "third_party\\HoolockLinux-linux-native\\.config"
  | .wifiExperimental => "artifacts\\wifi-kernel-config\\experimental-kernel\\kernel.config"
  | .wifiFwLifetime => "artifacts\\wifi-kernel-config\\fw-lifetime-kernel\\kernel.config"
  | .wifiFwResponse => "artifacts\\wifi-kernel-config\\fw-response-kernel\\kernel.config"
  | .wifiT7000Table => "artifacts\\wifi-kernel-config\\t7000-table-kernel\\kernel.config"
  | .wifiT7000Leaf => "artifacts\\wifi-kernel-config\\t7000-leaf-kernel\\kernel.config"

def expectedPayloadHash : BootProfile → String
  | .baseline => "53DC73174456FB67951F60CA242DE04B8E1920C017829F7D8FF4E866B3769756"
  | .wifiExperimental => "7886737B66DA0276FBA66A1FD3CA2EE69BB3AAB3DE8F6080B6832659CA67F9F3"
  | .wifiFwLifetime => "A2D151944C1FA813D59D60861354C3B5294D8931FFA91D3B16525716495AFDAE"
  | .wifiFwResponse => "18F1EB8512DE9E1B09227079534EAF1E1DACFB34DB7105B79901964DEFBDBC2C"
  | .wifiT7000Table => "923A737232CA063E989484986C60F966758BDAC3C9C38C256374E5A600AF693E"
  | .wifiT7000Leaf => "BC775028ABA05573AB2155CA399C5EC6C7E6F1DC42E5F3A97F3E37FFEF7D6AF1"

/-- The artifacts whose content is pinned. -/
def artifacts (profile : BootProfile) : List (String × String) :=
  [(openra1n, "ACB926409898C89DE9051268F5B1771C26F59E3A30FE25C34402EC3F880DF5AF"),
   (libusb, "39A8BE2A8C628C2A6146A3A1A85758A5F7FE44045FE425C9BF5897A11EA1B46C"),
   (uploader, "CC015641D654339E8F93D4984A3165E43DA47681498004B333DE37720829CA6E"),
   (payload profile, expectedPayloadHash profile)]

/-- `'05AC:' + ProductId`. -/
def usbIdOf (productId : String) : String := "05AC:" ++ productId

section Matching

variable (culture : Culture)

def sameText (a b : String) : Bool := a.toList.map culture.fold = b.toList.map culture.fold

/-- Whether the pattern, a literal, occurs in the text. -/
def contains (text pattern : String) : Bool :=
  text.toList.tails.any fun rest =>
    (rest.take pattern.toList.length).map culture.fold = pattern.toList.map culture.fold

/-- `\b`: a word character on exactly one side. -/
def boundary (left right : Option Char) : Bool := left.any culture.word != right.any culture.word

/-- `(?i)tag(?:_|\b)`. -/
def carriesTag (text tag : String) : Bool :=
  text.toList.tails.any fun rest =>
    let hit := rest.take tag.toList.length
    let after := (rest.drop tag.toList.length).head?
    hit.map culture.fold = tag.toList.map culture.fold &&
      (after.any (fun c => culture.fold c = culture.fold '_') ||
        boundary culture hit.getLast? after)

/-- A tag is carried where it stands in the text, up to letter case, and its end is an
underscore or the end of a word. -/
theorem carriesTag_iff (text tag : String) : carriesTag culture text tag ↔
    ∃ before hit after, text.toList = before ++ hit ++ after ∧
      hit.map culture.fold = tag.toList.map culture.fold ∧
      (after.head?.any (fun c => culture.fold c = culture.fold '_') ∨
        boundary culture hit.getLast? after.head?) := by
  simp only [carriesTag, List.any_eq_true, List.mem_tails, Bool.and_eq_true, Bool.or_eq_true,
    decide_eq_true_eq]
  constructor
  · rintro ⟨rest, ⟨before, whole⟩, same, ends⟩
    refine ⟨before, rest.take tag.toList.length, rest.drop tag.toList.length, ?_, same, ends⟩
    rw [List.append_assoc, List.take_append_drop, whole]
  · rintro ⟨before, hit, after, whole, same, ends⟩
    have length : tag.toList.length = hit.length := by simpa using congrArg List.length same.symm
    refine ⟨hit ++ after, ⟨before, by rw [whole, List.append_assoc]⟩, ?_⟩
    rw [length, List.take_left, List.drop_left]
    exact ⟨same, ends⟩

def isYolo (device : UsbDevice) : Bool := contains culture device.instanceId "YOLO:"

/-- The identity that DFU and Pongo are held to. -/
def authorized (ecid : String) (device : UsbDevice) : Bool :=
  carriesTag culture device.instanceId "CPID:7000" &&
    carriesTag culture device.instanceId "BDID:34" &&
    carriesTag culture device.instanceId ("ECID:" ++ ecid)

def healthy (device : UsbDevice) : Bool :=
  sameText culture device.status "OK" &&
    (device.problemCode = "" || device.problemCode = "0")

def ofProduct (productId : String) (device : UsbDevice) : Bool :=
  sameText culture device.usbId (usbIdOf productId)

end Matching

def isNullOrWhiteSpace (text : String) : Bool := text.toList.all Char.isWhitespace

def toUpperInvariant (text : String) : String := String.ofList (text.toList.map Char.toUpper)

section Script

variable (culture : Culture) (options : Options)

def throwUnless (condition : Bool) (message : String) : Host Unit :=
  Script.throwIf (!condition) message

def assertOptions : Host Unit := do
  throwUnless options.confirmRamBoot
    "Pass -ConfirmRamBoot to confirm the temporary A1625 RAM-only boot. No persistent storage operation is implemented."
  Script.throwIf (options.startCodex && options.enterShell)
    "Choose either -StartCodex or -EnterShell, not both."
  Script.throwIf ((options.enableZram || options.restoreRamState) &&
      options.developmentProfile = .none)
    "-EnableZram and -RestoreRamState require -DevelopmentProfile minimal or development."

def requireFile (path : String) : Host Unit := do
  let found ← Script.ask (HostCall.testPath path)
  throwUnless found ("Required file was not found: " ++ path)

def assertFileHash (path expected : String) : Host Unit := do
  requireFile path
  let actual ← Script.attempt (HostCall.getFileHash path) rfl
  throwUnless (sameText culture actual expected)
    ("SHA-256 mismatch for " ++ path ++ "\nExpected: " ++ expected ++ "\nActual:   " ++ actual)

def requireTool (tool : String) : Host Unit := do
  let found ← Script.ask (HostCall.getCommand tool)
  throwUnless found ("Required host tool was not found: " ++ tool)

def assertLocalPreflight : Host Unit := do
  let profile := options.bootProfile
  (artifacts profile).forM fun artifact => assertFileHash culture artifact.1 artifact.2
  [payloadManifest profile, kernelConfig profile, sshKey, atvModule, runtimeInstaller,
    codexStarter, shellStarter].forM requireFile
  let manifest ← Script.attempt (HostCall.readManifest (payloadManifest profile)) rfl
  throwUnless (sameText culture manifest.target "Apple TV HD A1625 / AppleTV5,3 / J42d / T7000" &&
      sameText culture manifest.mode "RAM-only PongoOS m1n1 Linux boot" &&
      sameText culture manifest.payloadSha256 (expectedPayloadHash profile))
    "The Linux payload manifest is not the validated A1625/T7000 RAM-only manifest."
  let pages ← Script.attempt (HostCall.selectString (kernelConfig profile) "CONFIG_ARM64_4K_PAGES=y") rfl
  throwUnless pages
    "The Hoolock kernel configuration does not contain CONFIG_ARM64_4K_PAGES=y."
  ["ssh.exe", "ssh-keygen.exe", "ssh-keyscan.exe", "python.exe"].forM requireTool

def invokeStep (step : Step) : Host Unit := do
  let _ ← Script.attempt (HostCall.invoke step) rfl
  pure ()

/-- An action of the script that only some options ask for. -/
def whenever (condition : Bool) (action : Host Unit) : Host Unit :=
  if condition then action else pure ()

def prepareDevelopmentLayer : Host Unit := do
  invokeStep .prepareRuntime
  let bundlePath ← Script.attempt (HostCall.invoke .prepareLayer) rfl
  Script.throwIf (bundlePath = "") "The development layer preflight did not return a bundle."
  whenever options.restoreRamState (invokeStep .testRamStateSnapshot)

def resolveExpectedEcid : Host String :=
  if !isNullOrWhiteSpace options.expectedEcid then pure (toUpperInvariant options.expectedEcid)
  else do
    let found ← Script.ask (HostCall.testPath deviceConfig)
    throwUnless found
      "No device ECID was supplied. Run Set-A1625DeviceConfig.ps1 once, or pass -ExpectedEcid with the owned A1625's 16-hex-digit ECID."
    let configuredEcid ← Script.attempt (HostCall.readDeviceConfig deviceConfig) rfl
    throwUnless (isEcid configuredEcid)
      ("Invalid expectedEcid in local device configuration: " ++ deviceConfig)
    pure (toUpperInvariant configuredEcid)

def getProductDetails (productId : String) : Host (List UsbDevice) := do
  let devices ← Script.attempt HostCall.getAtvUsbDetails rfl
  pure (devices.filter (ofProduct culture productId))

/-- `polls` bounds how often the loop turns before its deadline. -/
def waitProductDetails (productId : String) : (polls : Nat) → Host (List UsbDevice)
  | 0 => pure []
  | polls + 1 => do
    let early ← Script.ask HostCall.beforeDeadline
    if !early then pure []
    else do
      let details ← getProductDetails culture productId
      if details.length > 0 then pure details else waitProductDetails productId polls

def assertSingleDevice (details : List UsbDevice) (description : String) : Host UsbDevice :=
  match details with
  | [device] => do
    throwUnless (healthy culture device)
      (description ++ " is not healthy: status=" ++ device.status ++ ", problem=" ++
        device.problemCode)
    pure device
  | _ => throw ("Expected exactly one " ++ description ++ "; found " ++
      toString details.length ++ ".")

def assertDfuIdentity (ecid : String) (requireYolo : Bool) (device : UsbDevice) : Host Unit := do
  throwUnless (authorized culture ecid device)
    ("DFU identity is not the authorized A1625/T7000/ECID: " ++ device.instanceId)
  Script.throwIf (requireYolo && !isYolo culture device)
    ("The device is clean DFU, not YOLO. Re-enter DFU and restart recovery; upload-only was not run.\n" ++
      device.instanceId)

/-- `attempts` bounds how often the operator changes the driver and comes back. -/
def confirmLibusbK (ecid productId label : String) (requireYolo : Bool) (polls : Nat) :
    (attempts : Nat) → Host UsbDevice
  | 0 => throw "The operator stopped the script."
  | attempts + 1 => do
    let items ← waitProductDetails culture productId polls
    let device ← assertSingleDevice culture items label
    whenever (productId = "1227") (assertDfuIdentity culture ecid requireYolo device)
    if sameText culture device.driverService "libusbK" then pure device
    else do
      let redirected ← Script.ask HostCall.isInputRedirected
      Script.throwIf redirected
        ("The verified " ++ label ++
          " needs libusbK. Change only this instance, then rerun the restore command; its current stage will be detected.")
      let _ ← Script.attempt HostCall.readHost rfl
      confirmLibusbK ecid productId label requireYolo polls attempts

def logsOf (result : ProcessResult) : String :=
  " Logs: " ++ result.stdoutLog ++ ", " ++ result.stderrLog

def identityFailure : List String :=
  ["Failed to read DFU USB serial string descriptor", "check callback rejected it"]

/-- Clean DFU to YOLO DFU. -/
def runCheckm8 (ecid : String) (polls attempts : Nat) : Host Unit := do
  let phase1 ← Script.attempt (HostCall.invokeBoundedProcess openra1n
    ["--confirm-a1625", "--expected-ecid", ecid] ("TRIGGER_HANDOFF" :: identityFailure)) rfl
  Script.throwIf (identityFailure.any (contains culture phase1.output))
    ("DFU identity could not be verified during checkm8. Re-enter DFU before retrying." ++
      logsOf phase1)
  throwUnless (phase1.matched && contains culture phase1.output "TRIGGER_HANDOFF" &&
      contains culture phase1.output "Stage 0 succeeded")
    ("checkm8 did not reach the verified YOLO handoff." ++ logsOf phase1)
  let _ ← confirmLibusbK culture ecid "1227" "A1625 YOLO DFU device" true polls attempts
  pure ()

/-- YOLO DFU to PongoOS. -/
def uploadPongo (ecid : String) (polls : Nat) : Host Unit := do
  let phase2 ← Script.attempt (HostCall.invokeBoundedProcess openra1n
    ["--upload-only", "--confirm-a1625", "--expected-ecid", ecid] []) rfl
  throwUnless (phase2.exitCode = 0 && contains culture phase2.output "cpid=0x7000 yolo=yes" &&
      contains culture phase2.output "Pongo upload finished")
    ("PongoOS upload did not complete with the expected A1625/YOLO evidence." ++ logsOf phase2)
  let _ ← waitProductDetails culture "4141" polls
  pure ()

def bootPongo (ecid : String) (polls attempts : Nat) : Host Unit := do
  let dfu ← confirmLibusbK culture ecid "1227" "A1625 DFU device" false polls attempts
  (if !isYolo culture dfu then runCheckm8 culture ecid polls attempts
    else assertDfuIdentity culture ecid true dfu)
  uploadPongo culture ecid polls

/-- PongoOS to m1n1 and Linux. -/
def bootLinux (ecid : String) (polls attempts : Nat) : Host Unit := do
  let pongo ← confirmLibusbK culture ecid "4141" "A1625 PongoOS device" false polls attempts
  throwUnless (authorized culture ecid pongo)
    ("PongoOS identity does not match the authorized A1625: " ++ pongo.instanceId)
  let boot ← Script.attempt (HostCall.invokeBoundedProcess uploader
    ["upload", payload options.bootProfile, "--libusb", libusb, "--confirm-ram-boot"] []) rfl
  throwUnless (boot.exitCode = 0 && contains culture boot.output "sent bootm to PongoOS")
    ("Linux RAM payload upload failed." ++ logsOf boot)
  let _ ← waitProductDetails culture "4142" polls
  pure ()

/-- What follows once the device runs Linux. -/
def restoreLinux : Host Unit := do
  [Step.waitLinuxUsbIdentity, .configureUsbNetwork, .getSerialHostKey, .verifyHealth,
    .installRuntime].forM invokeStep
  whenever (options.developmentProfile ≠ .none) (invokeStep .installLayer)
  whenever options.restoreRamState (invokeStep .restoreRamState)
  if options.startCodex then invokeStep .startCodex
    else whenever options.enterShell (invokeStep .enterShell)

def bootAndRestore (polls attempts : Nat) : Host Unit := do
  let ecid ← resolveExpectedEcid options
  Script.attempt (HostCall.importModule atvModule) rfl
  let linuxDevices ← getProductDetails culture "4142"
  Script.throwIf (options.bootProfile ≠ .baseline && linuxDevices.length ≠ 0)
    "The experimental boot requires a fresh DFU/Pongo stage. Existing Linux was not replaced; enter DFU before retrying."
  whenever (linuxDevices.length = 0) do
    let pongoDevices ← getProductDetails culture "4141"
    whenever (pongoDevices.length = 0) (bootPongo culture ecid polls attempts)
    bootLinux culture options ecid polls attempts
  restoreLinux options

def mainFlow (polls attempts : Nat) : Host Unit := do
  assertOptions options
  assertLocalPreflight culture options
  whenever (options.developmentProfile ≠ .none) (prepareDevelopmentLayer options)
  whenever (!options.validateOnly) (bootAndRestore culture options polls attempts)

end Script

end WinBoot.BootGate
