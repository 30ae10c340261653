import WinBoot.Embedding
import WinBoot.PongoUpload
import WinBoot.ResourceLedger
import WinBoot.UploadArguments

/-! The PongoOS uploader from its command line to its exit status: the libusb library, the context,
the device handle and the interface it takes on the way, and the order in which it lets them go. -/

namespace WinBoot.UsbSession
open Interaction ResourceLedger PongoUpload UploadArguments

inductive Call where
  | metadata (path : String)
  | loadLibrary (path : String)
  | getProcAddress (name : String)
  | freeLibrary
  | init
  | exit
  | openDeviceWithVidPid (vendor product : Nat)
  | close
  | setConfiguration (value : Nat)
  | claimInterface (number : Nat)
  | releaseInterface (number : Nat)
  | transfer (call : UsbCall)

/-- The code and whether a context was written. -/
structure InitResult where
  code : Int
  context : Bool

/-- A pointer is known by whether it is null. -/
abbrev Answer : Call → Type
  | .metadata _ => Except String Metadata
  | .loadLibrary _ | .getProcAddress _ | .openDeviceWithVidPid _ _ => Bool
  | .init => InitResult
  | .setConfiguration _ | .claimInterface _ | .releaseInterface _ => Int
  | .freeLibrary | .exit | .close => Unit
  | .transfer call => UsbAnswer call

abbrev Host := Prog Call Answer
abbrev HostEvent := Event Call Answer

abbrev query (call : Call) : Host (Answer call) := Prog.call call

def usage : String :=
  "Usage:\n" ++
  "atv-pongo-uploader validate <m1n1-linux.bin>\n" ++
  "atv-pongo-uploader probe --libusb <absolute-libusb-1.0.dll>\n" ++
  "atv-pongo-uploader upload <m1n1-linux.bin> --libusb <absolute-libusb-1.0.dll> --confirm-ram-boot\n\n" ++
  "Upload is accepted only for PongoOS USB 05ac:4141. No DFU exploit, driver, restore,\n" ++
  "NVRAM, partition, or internal-storage operation is implemented."

def pongoVendorId : Nat := 0x05ac
def pongoProductId : Nat := 0x4141

def symbols : List String :=
  ["libusb_init", "libusb_exit", "libusb_open_device_with_vid_pid", "libusb_close",
    "libusb_set_configuration", "libusb_claim_interface", "libusb_release_interface",
    "libusb_control_transfer", "libusb_bulk_transfer", "libusb_error_name"]

/-- The library goes again at the first symbol that is missing. -/
def loadSymbols : List String → Host (Except String Unit)
  | [] => return .ok ()
  | name :: names => do
    let found : Bool ← query (.getProcAddress name)
    if found then loadSymbols names
    else
      query .freeLibrary
      return .error s!"missing libusb symbol: {name}"

def load (path : String) : Host (Except String Unit) := do
  let module_ : Bool ← query (.loadLibrary path)
  if module_ then loadSymbols symbols
  else return .error s!"LoadLibraryW failed for {path}"

structure Session where
  context : Bool
  handle : Bool
  claimed : Bool

def releaseClaimed (session : Session) : Host Unit :=
  if session.claimed then do
    let _ : Int ← query (.releaseInterface 0)
    return ()
  else return ()

def closeHandle (session : Session) : Host Unit :=
  if session.handle then query .close else return ()

def exitContext (session : Session) : Host Unit :=
  if session.context then query .exit else return ()

def Session.drop (session : Session) : Host Unit := do
  releaseClaimed session
  closeHandle session
  exitContext session

/-- The part of `Session::open` that has a session to drop. -/
def claimSession (usb : LibUsb) (session : Session) : Host (Except String Session) := do
  let result : Int ← query (.setConfiguration 1)
  if result ≠ 0 then do
    session.drop
    return .error (usb.error "libusb_set_configuration(1)" result)
  else do
    let result : Int ← query (.claimInterface 0)
    if result ≠ 0 then do
      session.drop
      return .error (usb.error "libusb_claim_interface(0)" result)
    else return .ok { session with claimed := true }

def Session.open (usb : LibUsb) (claim : Bool) : Host (Except String Session) := do
  let result : InitResult ← query .init
  if result.code ≠ 0 then return .error (usb.error "libusb_init" result.code)
  else do
    let handle : Bool ← query (.openDeviceWithVidPid pongoVendorId pongoProductId)
    if !handle then do
      query .exit
      return .error "PongoOS 05ac:4141 not found or its driver is inaccessible"
    else if claim then claimSession usb ⟨result.context, handle, false⟩
    else return .ok ⟨result.context, handle, false⟩

/-- `Session::upload`, whose calls are transfers of the session. -/
def Session.upload (usb : LibUsb) (payload : PayloadFile) (size : Nat) :
    Host (Except String Unit) :=
  (PongoUpload.upload usb payload size).embed Call.transfer fun _ answer => answer

/-- What runs with a loaded library, which is freed behind it. -/
def withLibrary (path : String) (body : Host (Except String String)) :
    Host (Except String String) := do
  match ← load path with
  | .error error => return .error error
  | .ok () => do
    let result ← body
    query .freeLibrary
    return result

/-- What runs with an open session, which is dropped behind it. -/
def withSession (usb : LibUsb) (claim : Bool) (body : Host (Except String String)) :
    Host (Except String String) := do
  match ← Session.open usb claim with
  | .error error => return .error error
  | .ok session => do
    let result ← body
    session.drop
    return result

def probe (usb : LibUsb) (libusb : String) : Host (Except String String) :=
  withLibrary libusb <| withSession usb false <|
    return .ok "PongoOS 05ac:4141 is accessible; no USB transfer was sent.\n"

def uploaded (size : Nat) : String := s!"Uploaded {size} bytes and sent bootm to PongoOS.\n"

def nativeUpload (usb : LibUsb) (libusb : String) (payload : PayloadFile) (size : Nat) :
    Host (Except String String) :=
  withLibrary libusb <| withSession usb true do
    let sent ← Session.upload usb payload size
    return sent.map fun _ => uploaded size

structure Outcome where
  exitCode : Nat
  stdout : String
  stderr : String

/-- `files` is what the payload's path leads to when it is opened. -/
def run (usb : LibUsb) (files : String → PayloadFile) : Command → Host (Except String String)
  | .help => return .ok (usage ++ "\n")
  | .validate payload => do
    let metadata : Except String Metadata ← query (.metadata payload)
    return (validatePayload metadata).map fun size =>
      s!"Payload passes structural preflight: {size} bytes\n" ++
        "This does not prove the target, DTB, page size, or initramfs contents.\n"
  | .probe libusb => probe usb libusb
  | .upload payload libusb => do
    let metadata : Except String Metadata ← query (.metadata payload)
    match validatePayload metadata with
    | .error error => return .error error
    | .ok size => nativeUpload usb libusb (files payload) size

def report : Except String String → Outcome
  | .ok stdout => ⟨0, stdout, ""⟩
  | .error error => ⟨2, "", s!"error: {error}\n\n{usage}\n"⟩

def main (usb : LibUsb) (files : String → PayloadFile) (args : List String) : Host Outcome :=
  match parseArgs args with
  | .error error => return report (.error error)
  | .ok command => do return report (← run usb files command)

/-! ### What the calls take and give back -/

inductive Resource where
  | library | context | handle | interface
deriving DecidableEq

def takes : HostEvent → Option Resource
  | ⟨.loadLibrary _, loaded⟩ => if loaded = true then some .library else none
  | ⟨.init, result⟩ => if InitResult.code result = 0 then some .context else none
  | ⟨.openDeviceWithVidPid _ _, found⟩ => if found = true then some .handle else none
  | ⟨.claimInterface _, code⟩ => if code = (0 : Int) then some .interface else none
  | _ => none

def gives : HostEvent → Option Resource
  | ⟨.freeLibrary, _⟩ => some .library
  | ⟨.exit, _⟩ => some .context
  | ⟨.close, _⟩ => some .handle
  | ⟨.releaseInterface _, _⟩ => some .interface
  | _ => none

/-- A function of the library is called while it is loaded, with a live context or handle, and
data moves only through a claimed interface. -/
def needs : Call → List Resource
  | .metadata _ | .loadLibrary _ => []
  | .getProcAddress _ | .freeLibrary | .init => [.library]
  | .exit | .openDeviceWithVidPid _ _ => [.context, .library]
  | .close | .setConfiguration _ | .claimInterface _ => [.handle, .context, .library]
  | .releaseInterface _ | .transfer _ => [.interface, .handle, .context, .library]

/-- What must be given back first. -/
def bars : Call → List Resource
  | .freeLibrary => [.context, .handle, .interface]
  | .exit => [.handle, .interface]
  | .close => [.interface]
  | _ => []

/-- `libusb_init` that succeeds has written a context. -/
def honest (_ : Holding Resource) : HostEvent → Prop
  | ⟨.init, result⟩ => InitResult.code result = 0 → InitResult.context result = true
  | _ => True

def accounts : Accounts Call Answer Resource := ⟨takes, gives, needs, bars, honest⟩

abbrev below : List Resource := [.context, .handle, .interface]

def loaded : Except String Unit → List Resource
  | .ok _ => [.library]
  | .error _ => []

theorem getProcAddress_quiet (name : String) : accounts.Quiet [.library] (.getProcAddress name) :=
  ⟨fun _ => rfl, fun _ => rfl, List.Subset.refl _, rfl⟩

theorem freeLibrary_leaves {α : Type} {frees : List Resource} {left : α → List Resource → Prop}
    {rest : Host α} (room : below ⊆ frees) (after : Leaves accounts [] [] frees left rest) :
    Leaves accounts [.library] [] frees left (do
      query .freeLibrary
      rest) := by
  refine Leaves.give .library (fun _ => rfl) (fun _ => rfl) (by decide) ?_ (.head _) fun _ => after
  intro k barred
  exact ⟨room barred, by revert k; decide⟩

theorem loadSymbols_leaves (names : List String) :
    Leaves accounts [.library] [] below (fun r rest => rest = loaded r) (loadSymbols names) := by
  induction names with
  | nil => exact Leaves.done rfl
  | cons name names ih =>
    refine Leaves.quiet (getProcAddress_quiet name) fun found =>
      Leaves.ite (fun _ => ih) fun _ => ?_
    exact freeLibrary_leaves (List.Subset.refl _) (Leaves.done rfl)

theorem load_leaves (path : String) :
    Leaves accounts [] [] (.library :: below) (fun r rest => rest = loaded r) (load path) := by
  have takes (answer : Bool) : accounts.takes ⟨.loadLibrary path, answer⟩ =
      if answer = true then some .library else none := rfl
  refine Leaves.take .library takes (fun _ => rfl)
    (List.nil_subset _) rfl (.head _) nofun (fun r yes => ?_) fun r no => ?_
  · rw [if_pos yes]
    exact Leaves.weaken (loadSymbols_leaves symbols) (List.Subset.refl _) (by decide)
  · rw [if_neg no]
    exact Leaves.done rfl

def sessionHeld (session : Session) : List Resource :=
  if session.claimed then [.interface, .handle, .context] else [.handle, .context]

/-- A session that was opened. -/
structure Opened (session : Session) : Prop where
  context : session.context = true
  handle : session.handle = true

theorem drop_leaves {α : Type} {session : Session} (opened : Opened session)
    {left : α → List Resource → Prop} {rest : Host α}
    (after : Leaves accounts [] [.library] below left rest) :
    Leaves accounts (sessionHeld session) [.library] below left (do
      session.drop
      rest) := by
  have closing : Leaves accounts [.handle, .context] [.library] below left (do
      query .close
      query .exit
      rest) := by
    refine Leaves.give .handle (fun _ => rfl) (fun _ => rfl) (by decide) (by decide)
      (by decide) fun _ => ?_
    exact Leaves.give .context (fun _ => rfl) (fun _ => rfl) (by decide) (by decide) (by decide)
      fun _ => after
  obtain ⟨context, handle, claimed⟩ := session
  obtain ⟨rfl, rfl⟩ := opened
  cases claimed with
  | false => exact closing
  | true =>
    exact Leaves.give .interface (fun _ => rfl) (fun _ => rfl) (by decide) (by decide) (by decide)
      fun _ => closing

def OpenLeaves (claim : Bool) : Except String Session → List Resource → Prop
  | .ok session, rest => Opened session ∧ session.claimed = claim ∧ rest = sessionHeld session
  | .error _, rest => rest = []

theorem claimSession_leaves (usb : LibUsb) {session : Session} (opened : Opened session)
    (unclaimed : session.claimed = false) :
    Leaves accounts [.handle, .context] [.library] below (OpenLeaves true)
      (claimSession usb session) := by
  have held : sessionHeld session = [.handle, .context] := by simp [sessionHeld, unclaimed]
  have dropped (error : String) : Leaves accounts [.handle, .context] [.library] below
      (OpenLeaves true) (do
        session.drop
        return .error error) :=
    held ▸ drop_leaves opened (Leaves.done rfl)
  have configuring : accounts.Quiet ([.handle, .context] ++ [.library]) (.setConfiguration 1) :=
    ⟨fun _ => rfl, fun _ => rfl, by decide, rfl⟩
  refine Leaves.quiet configuring fun result => Leaves.ite (fun _ => dropped _) fun _ => ?_
  have takes (code : Int) : accounts.takes ⟨.claimInterface 0, code⟩ =
      if code = 0 then some .interface else none := rfl
  refine Leaves.take .interface takes (fun _ => rfl)
    (by decide) rfl (by decide) (by decide) (fun r claimed => ?_) fun r refused => ?_
  · rw [if_neg (not_not.mpr claimed)]
    exact Leaves.done ⟨⟨opened.context, opened.handle⟩, rfl, rfl⟩
  · rw [if_pos refused]
    exact dropped _

theorem open_leaves (usb : LibUsb) (claim : Bool) :
    Leaves accounts [] [.library] below (OpenLeaves claim) (Session.open usb claim) := by
  have promised (held : Holding Resource) (result : InitResult)
      (honest : accounts.honest held ⟨.init, result⟩) : result.code = 0 → result.context = true :=
    honest
  have begins (result : InitResult) : accounts.takes ⟨.init, result⟩ =
      if result.code = 0 then some .context else none := rfl
  have finds (found : Bool) :
      accounts.takes ⟨.openDeviceWithVidPid pongoVendorId pongoProductId, found⟩ = if found = true then some .handle else none := rfl
  refine Leaves.takePromised .context promised begins (fun _ => rfl)
    (by decide) rfl (by decide) (by decide)
    (fun context promise zero => ?_) fun context _ failed => ?_
  · rw [if_neg (not_not.mpr zero)]
    refine Leaves.take .handle finds (fun _ => rfl)
      (by decide) rfl (by decide) (by decide) (fun handle found => ?_) fun handle missing => ?_
    · have opened : Opened ⟨InitResult.context context, handle, false⟩ := ⟨promise zero, found⟩
      rw [if_neg (by simp [found])]
      cases claim with
      | true => exact claimSession_leaves usb opened rfl
      | false => exact Leaves.done ⟨opened, rfl, rfl⟩
    · rw [if_pos (by simpa using missing)]
      exact Leaves.give .context (fun _ => rfl) (fun _ => rfl) (by decide) (by decide) (by decide)
        fun _ => Leaves.done rfl
  · rw [if_pos failed]
    exact Leaves.done rfl

/-- What runs inside a library needs it and leaves nothing. -/
theorem withLibrary_leaves (path : String) {body : Host (Except String String)}
    (inner : Settles accounts [] [.library] below body) :
    Settles accounts [] [] (.library :: below) (withLibrary path body) := by
  refine Leaves.bind (load_leaves path) (List.nil_subset _) (List.Subset.refl _) (by simp) ?_
  rintro (error | ⟨⟩) _ rfl
  · exact Leaves.done rfl
  · have freed (result : Except String String) :
        Settles accounts [.library] [] (.library :: below) (do
          query .freeLibrary
          return result) :=
      Leaves.weaken (freeLibrary_leaves (List.Subset.refl _) (Leaves.done rfl)) (List.Subset.refl _)
        (List.subset_cons_self ..)
    change Leaves accounts [.library] [] (.library :: below) _ _
    exact Leaves.tidy inner (List.Subset.refl _) (List.subset_cons_self ..) (by decide) freed

/-- What runs inside a session needs what the session holds and takes nothing over. -/
theorem withSession_leaves (usb : LibUsb) (claim : Bool) {body : Host (Except String String)}
    (inner : body.Makes (accounts.Quiet
      (if claim then [.interface, .handle, .context, .library] else [.handle, .context, .library]))) :
    Settles accounts [] [.library] below (withSession usb claim body) := by
  refine Leaves.bind (open_leaves usb claim) (List.Subset.refl _) (List.Subset.refl _) (by simp) ?_
  rintro (error | session) more left
  · obtain rfl := left
    exact Leaves.done rfl
  · obtain ⟨opened, rfl, rfl⟩ := left
    rw [List.append_nil]
    refine Leaves.quietly (inner.mono (fun call quiet => ?_) fun _ _ => trivial) fun result =>
      drop_leaves opened (Leaves.done rfl)
    unfold sessionHeld
    cases claimed : session.claimed <;> simpa [claimed] using quiet

theorem probe_leaves (usb : LibUsb) (libusb : String) :
    Settles accounts [] [] (.library :: below) (probe usb libusb) :=
  withLibrary_leaves libusb (withSession_leaves usb false trivial)

theorem transfer_quiet (call : UsbCall) :
    accounts.Quiet [.interface, .handle, .context, .library] (.transfer call) :=
  ⟨fun _ => rfl, fun _ => rfl, List.Subset.refl _, rfl⟩

theorem nativeUpload_leaves (usb : LibUsb) (libusb : String) (payload : PayloadFile) (size : Nat) :
    Settles accounts [] [] (.library :: below) (nativeUpload usb libusb payload size) := by
  refine withLibrary_leaves libusb (withSession_leaves usb true ?_)
  exact Prog.Makes.bind (Prog.embed_makes _ transfer_quiet) fun _ => trivial

theorem metadata_quiet (path : String) : accounts.Quiet [] (.metadata path) :=
  ⟨fun _ => rfl, fun _ => rfl, List.Subset.refl _, rfl⟩

theorem run_leaves (usb : LibUsb) (files : String → PayloadFile) (command : Command) :
    Settles accounts [] [] (.library :: below) (run usb files command) := by
  cases command with
  | help => exact Leaves.done rfl
  | validate payload => exact Leaves.quiet (metadata_quiet payload) fun _ => Leaves.done rfl
  | probe libusb => exact probe_leaves usb libusb
  | upload payload libusb =>
    refine Leaves.quiet (metadata_quiet payload) fun metadata => ?_
    cases validatePayload metadata with
    | error error => exact Leaves.done rfl
    | ok size => exact nativeUpload_leaves usb libusb (files payload) size

theorem main_leaves (usb : LibUsb) (files : String → PayloadFile) (args : List String) :
    Settles accounts [] [] (.library :: below) (main usb files args) := by
  unfold main
  cases parseArgs args with
  | error error => exact Leaves.done rfl
  | ok command =>
    exact Leaves.tidy (run_leaves usb files command) (List.Subset.refl _) (List.Subset.refl _)
      (by simp) fun _ => Leaves.done rfl

/-! ### Which runs transfer anything -/

def transferOf : HostEvent → Option UsbEvent
  | ⟨.transfer call, answer⟩ => some ⟨call, answer⟩
  | _ => none

/-- What the device has seen of a run. -/
def transfers (t : List HostEvent) : List UsbEvent := t.filterMap transferOf

def isTransfer : Call → Bool
  | .transfer _ => true
  | _ => false

theorem transferOf_none {e : HostEvent} (silent : isTransfer e.1 = false) :
    transferOf e = none := by
  obtain ⟨call, answer⟩ := e
  cases call <;> first | rfl | cases silent

@[simp] theorem transfers_append (s t : List HostEvent) :
    transfers (s ++ t) = transfers s ++ transfers t := List.filterMap_append

abbrev Silent {α : Type} (p : Host α) : Prop := p.Makes fun call => isTransfer call = false

theorem Silent.transfers {α : Type} {p : Host α} (silent : Silent p) {t : List HostEvent} {a : α}
    (run : p.Runs t a) : transfers t = [] :=
  List.filterMap_eq_nil_iff.mpr fun e member => transferOf_none ((silent.runs run).1 e member)

theorem loadSymbols_silent (names : List String) : Silent (loadSymbols names) := by
  induction names with
  | nil => trivial
  | cons name names ih =>
      exact ⟨rfl, fun found => Prog.Makes.ite (fun _ => ih) fun _ => ⟨rfl, fun _ => trivial⟩⟩

theorem load_silent (path : String) : Silent (load path) :=
  ⟨rfl, fun _ => Prog.Makes.ite (fun _ => loadSymbols_silent symbols) fun _ => trivial⟩

theorem drop_silent (session : Session) : Silent session.drop := by
  refine Prog.Makes.bind (Prog.Makes.ite (fun _ => ⟨rfl, fun _ => trivial⟩) fun _ => trivial) fun _ => ?_
  refine Prog.Makes.bind (Prog.Makes.ite (fun _ => ⟨rfl, fun _ => trivial⟩) fun _ => trivial) fun _ => ?_
  exact Prog.Makes.ite (fun _ => ⟨rfl, fun _ => trivial⟩) fun _ => trivial

theorem open_silent (usb : LibUsb) (claim : Bool) : Silent (Session.open usb claim) := by
  have dropped (session : Session) (error : String) : Silent (do
      session.drop
      return (.error error : Except String Session)) :=
    Prog.Makes.bind (drop_silent session) fun _ => trivial
  refine ⟨rfl, fun _ => Prog.Makes.ite (fun _ => trivial) fun _ => ⟨rfl, fun _ => ?_⟩⟩
  refine Prog.Makes.ite (fun _ => ⟨rfl, fun _ => trivial⟩) fun _ =>
    Prog.Makes.ite (fun _ => ?_) fun _ => trivial
  refine ⟨rfl, fun _ => Prog.Makes.ite (fun _ => dropped _ _) fun _ => ⟨rfl, fun _ => ?_⟩⟩
  exact Prog.Makes.ite (fun _ => dropped _ _) fun _ => trivial

/-- What a library is loaded for sees every transfer of the run. -/
theorem withLibrary_every {path : String} {body : Host (Except String String)}
    {post : List UsbEvent → Except String String → Prop} (failed : ∀ error, post [] (.error error))
    (inner : body.Every fun t result => post (transfers t) result) :
    (withLibrary path body).Every fun t result => post (transfers t) result := by
  have begins : (load path).Every fun t _ => transfers t = [] := fun t r =>
    (load_silent path).transfers
  refine Prog.Every.bind begins fun t loaded quiet => ?_
  cases loaded with
  | error error =>
    refine Prog.Every.done ?_
    rw [transfers_append, quiet]
    exact failed error
  | ok =>
    refine Prog.Every.bind inner fun u result known => Prog.Every.call fun answer =>
      Prog.Every.done ?_
    have freed : transfers [⟨.freeLibrary, answer⟩] = [] := rfl
    rw [transfers_append, quiet, transfers_append, freed]
    simpa using known

theorem withSession_every {usb : LibUsb} {claim : Bool} {body : Host (Except String String)}
    {post : List UsbEvent → Except String String → Prop} (failed : ∀ error, post [] (.error error))
    (inner : body.Every fun t result => post (transfers t) result) :
    (withSession usb claim body).Every fun t result => post (transfers t) result := by
  have begins : (Session.open usb claim).Every fun t _ => transfers t = [] :=
    fun t r => (open_silent usb claim).transfers
  refine Prog.Every.bind begins fun t opened quiet => ?_
  cases opened with
  | error error =>
    refine Prog.Every.done ?_
    rw [transfers_append, quiet]
    exact failed error
  | ok session =>
    refine Prog.Every.bind inner fun u result known => ?_
    have ends : session.drop.Every fun t _ => transfers t = [] :=
      fun t r => (drop_silent session).transfers
    refine Prog.Every.bind ends fun v _ dropped => Prog.Every.done ?_
    simpa [quiet, dropped] using known

theorem probe_every (usb : LibUsb) (libusb : String) :
    (probe usb libusb).Every fun t _ => transfers t = [] := by
  let nothing : List UsbEvent → Except String String → Prop := fun seen _ => seen = []
  have none (error : String) : nothing [] (.error error) := rfl
  have observed : (return .ok "PongoOS 05ac:4141 is accessible; no USB transfer was sent.\n" :
      Host (Except String String)).Every fun t result => nothing (transfers t) result :=
    Prog.Every.done rfl
  exact withLibrary_every none (withSession_every none observed)

theorem sessionUpload_every (usb : LibUsb) (payload : PayloadFile) (size : Nat) :
    (Session.upload usb payload size).Every fun t result =>
      (PongoUpload.upload usb payload size).Runs (transfers t) result := by
  intro t result run
  have found (call : UsbCall) (answer : Answer (.transfer call)) :
      transferOf ⟨.transfer call, answer⟩ = some ⟨call, answer⟩ := rfl
  exact Prog.embed_runs found run

/-- The device has seen nothing and the run has failed, or it has seen one upload, which decides how
the run ends. -/
def Decided (usb : LibUsb) (payload : PayloadFile) (size : Nat) (seen : List UsbEvent)
    (result : Except String String) : Prop :=
  (seen = [] ∧ ∃ error, result = .error error) ∨
    ∃ sent, (PongoUpload.upload usb payload size).Runs seen sent ∧
      result = sent.map fun _ => uploaded size

theorem nativeUpload_every (usb : LibUsb) (libusb : String) (payload : PayloadFile) (size : Nat) :
    (nativeUpload usb libusb payload size).Every fun t result =>
      Decided usb payload size (transfers t) result := by
  have failed (error : String) : Decided usb payload size [] (.error error) := .inl ⟨rfl, error, rfl⟩
  refine withLibrary_every failed (withSession_every failed ?_)
  refine Prog.Every.bind (sessionUpload_every usb payload size) fun t sent ran => Prog.Every.done ?_
  rw [List.append_nil]
  exact .inr ⟨sent, ran, rfl⟩

/-- What is behind a transfer: the confirmed command, and a payload whose length was checked. -/
structure Confirmed (args : List String) (t : List HostEvent) (payload : String) (size : Nat) :
    Prop where
  command : ∃ libusb, parseArgs args = .ok (.upload payload libusb)
  checked : ∃ metadata, (⟨.metadata payload, metadata⟩ : HostEvent) ∈ t ∧
    validatePayload metadata = .ok size

theorem run_every (usb : LibUsb) (files : String → PayloadFile) {args : List String}
    {command : Command} (parsed : parseArgs args = .ok command) :
    (run usb files command).Every fun t result =>
      (transfers t = [] ∧ ∀ stdout, result = .ok stdout →
        ∀ payload libusb, command ≠ .upload payload libusb) ∨
      ∃ payload size, Confirmed args t payload size ∧
        Decided usb (files payload) size (transfers t) result := by
  cases command with
  | help => exact Prog.Every.done (.inl ⟨rfl, fun _ _ => nofun⟩)
  | validate payload =>
    exact Prog.Every.call fun _ => Prog.Every.done (.inl ⟨rfl, fun _ _ => nofun⟩)
  | probe libusb =>
    exact fun t result ran => .inl ⟨probe_every usb libusb t result ran, fun _ _ => nofun⟩
  | upload payload libusb =>
    refine Prog.Every.call fun metadata => ?_
    cases valid : validatePayload metadata with
    | error error => exact Prog.Every.done (.inl ⟨rfl, nofun⟩)
    | ok size =>
      refine (nativeUpload_every usb libusb (files payload) size).mono fun t result decided => .inr ?_
      exact ⟨payload, size, ⟨⟨libusb, parsed⟩, metadata, .head _, valid⟩, decided⟩

theorem main_every (usb : LibUsb) (files : String → PayloadFile) (args : List String) :
    (main usb files args).Every fun t outcome => ∃ result, outcome = report result ∧
      ((transfers t = [] ∧ ∀ stdout, result = .ok stdout →
        ∃ command, parseArgs args = .ok command ∧ ∀ payload libusb, command ≠ .upload payload libusb) ∨
      ∃ payload size, Confirmed args t payload size ∧
        Decided usb (files payload) size (transfers t) result) := by
  unfold main
  cases parsed : parseArgs args with
  | error error => exact Prog.Every.done ⟨_, rfl, .inl ⟨rfl, nofun⟩⟩
  | ok command =>
    refine Prog.Every.bind (run_every usb files parsed) fun t result known => Prog.Every.done ?_
    rw [List.append_nil]
    refine ⟨result, rfl, known.imp_left fun silent => ⟨silent.1, fun stdout good => ?_⟩⟩
    exact ⟨command, rfl, silent.2 stdout good⟩

theorem admits_of_contexts {t : List HostEvent} {held : Holding Resource}
    (contexts : ∀ result, (⟨.init, result⟩ : HostEvent) ∈ t → result.code = 0 → result.context = true) :
    accounts.ledger.Admits held t := by
  induction t generalizing held with
  | nil => trivial
  | cons e t ih =>
    refine ⟨?_, ih fun result member => contexts result (.tail _ member)⟩
    obtain ⟨call, answer⟩ := e
    cases call <;> first | trivial | exact contexts answer (.head _)

theorem loadSymbols_runs (names : List String) :
    (loadSymbols names).Runs (names.map fun name => ⟨.getProcAddress name, true⟩) (.ok ()) := by
  induction names with
  | nil => exact ⟨rfl, rfl⟩
  | cons name names ih => exact ⟨true, _, rfl, ih⟩

def openedTrace : List HostEvent :=
  [⟨.init, ⟨0, true⟩⟩, ⟨.openDeviceWithVidPid pongoVendorId pongoProductId, true⟩,
    ⟨.setConfiguration 1, (0 : Int)⟩, ⟨.claimInterface 0, (0 : Int)⟩]

def droppedTrace : List HostEvent :=
  [⟨.releaseInterface 0, (0 : Int)⟩, ⟨.close, ()⟩, ⟨.exit, ()⟩]

def sampleLibrary : String := "C:\\tools\\libusb-1.0.dll"

def sampleArgs : List String :=
  ["upload", "image.bin", "--libusb", sampleLibrary, "--confirm-ram-boot"]

def loadedTrace : List HostEvent :=
  ⟨.loadLibrary sampleLibrary, true⟩ :: symbols.map fun name => ⟨.getProcAddress name, true⟩

def sentTrace : List HostEvent := smallTrace.map fun e => ⟨.transfer e.1, e.2⟩

def sampleTrace : List HostEvent :=
  ⟨.metadata "image.bin", .ok ⟨true, 3⟩⟩ ::
    (loadedTrace ++ ((openedTrace ++ (sentTrace ++ droppedTrace)) ++ [⟨.freeLibrary, ()⟩]))

theorem sample_runs : (main ⟨fun _ => .null⟩ (fun _ => smallPayload) sampleArgs).Runs sampleTrace
    ⟨0, uploaded 3, ""⟩ := by
  have sent : (Session.upload ⟨fun _ => .null⟩ smallPayload 3).Runs sentTrace (.ok ()) := by
    unfold Session.upload sentTrace
    exact @Prog.runs_embed UsbCall Call UsbAnswer Answer _ Call.transfer (fun _ answer => answer)
      (fun _ answer => answer) (fun _ _ => rfl) _ _ _ smallTrace_runs
  have body : (do
      let sent ← Session.upload ⟨fun _ => .null⟩ smallPayload 3
      return sent.map fun _ => uploaded 3 : Host (Except String String)).Runs sentTrace
        (.ok (uploaded 3)) :=
    (Prog.runs_bind ..).mpr ⟨sentTrace, [], .ok (), by simp, sent, rfl, rfl⟩
  have inside : (withSession ⟨fun _ => .null⟩ true do
      let sent ← Session.upload ⟨fun _ => .null⟩ smallPayload 3
      return sent.map fun _ => uploaded 3).Runs (openedTrace ++ (sentTrace ++ droppedTrace))
        (.ok (uploaded 3)) := by
    refine (Prog.runs_bind ..).mpr ⟨openedTrace, _, .ok ⟨true, true, true⟩, rfl, ?_, ?_⟩
    · exact ⟨⟨0, true⟩, _, rfl, true, _, rfl, (0 : Int), _, rfl, (0 : Int), _, rfl, rfl, rfl⟩
    · refine (Prog.runs_bind ..).mpr ⟨sentTrace, droppedTrace, _, rfl, body, ?_⟩
      exact ⟨(0 : Int), _, rfl, (), _, rfl, (), _, rfl, rfl, rfl⟩
  have library : (nativeUpload ⟨fun _ => .null⟩ sampleLibrary smallPayload 3).Runs
      (loadedTrace ++ ((openedTrace ++ (sentTrace ++ droppedTrace)) ++ [⟨.freeLibrary, ()⟩]))
      (.ok (uploaded 3)) := by
    refine (Prog.runs_bind ..).mpr ⟨loadedTrace, _, .ok (), rfl, ?_, ?_⟩
    · exact ⟨true, _, rfl, loadSymbols_runs symbols⟩
    · exact (Prog.runs_bind ..).mpr ⟨_, [⟨.freeLibrary, ()⟩], _, rfl, inside, (), [], rfl, rfl, rfl⟩
  have parsed : parseArgs sampleArgs = .ok (.upload "image.bin" sampleLibrary) := by decide +kernel
  unfold main
  rw [parsed]
  refine (Prog.runs_bind ..).mpr ⟨sampleTrace, [], .ok (uploaded 3), by simp, ?_, rfl, rfl⟩
  exact ⟨.ok ⟨true, 3⟩, _, rfl, library⟩

end WinBoot.UsbSession
