import WinBoot.PageStorage
import WinBoot.RestoreEffect

/-! The space that a restore takes on `/run`, next to what its check reserves. The check counts the
snapshot's files once, the old home once and the archive; the script then has the home files of
the snapshot twice, where it unpacked them and over the copy of the old home. -/

namespace WinBoot.RestoreSpace
open Interaction ShellProcess RamScripts PageStorage

/-- The sizes that a restore meets, in bytes; `measured` is what `du -sk` says of the old home, in
KiB, and `replaced` what the files that the copies overwrite take in it. -/
structure Load where
  archive : Nat
  expanded : Nat
  entries : List Nat
  saved : HomeFile → Option Nat
  present : Bool
  measured : Nat
  home : List Nat
  replaced : HomeFile → Nat

/-- `need`, in KiB -/
def Load.need (load : Load) : Nat :=
  (load.expanded + load.archive + 1023) / 1024 + load.measured + 65536

/-- What a command takes and gives back. Renames and the rollback take nothing. -/
def Load.changes (load : Load) : Command → List Int
  | .receiveArchive => writes [load.archive]
  | .extractArchive => writes load.entries
  | .remove [.archive] => [-(pages load.archive : Int)]
  | .copyHome => writes load.home
  | .copyFile file =>
    match load.saved file with
    | some size => [-(load.replaced file : Int), pages size]
    | none => []
  | _ => []

/-- The answers that the sizes decide, and what `df` says is available. -/
def Load.admits (load : Load) (available : Nat) : ShellEvent Command → Prop
  | ⟨.testSpace, ok⟩ => ok = decide (load.need < available)
  | ⟨.test (.exists (.stageFile file)), ok⟩ => ok = (load.saved file).isSome
  | ⟨.testNot (.exists .home), ok⟩ => ok = !load.present
  | _ => True

/-- Whatever is available and whatever else the commands answer, a restore whose check passes stays
within it. -/
def Load.Roomy (load : Load) : Prop :=
  ∀ available : Nat, restoreCommand.program.Safe
    (storage load.changes (load.admits available) (available * 1024)) (fun _ _ => True) 0

/-! ### The script's changes -/

def Load.overlayChanges (load : Load) (file : HomeFile) : List Int :=
  load.changes (.copyFile file)

def Load.homeChanges (load : Load) : List Int := if load.present then writes load.home else []

def Load.allChanges (load : Load) : List Int :=
  writes [load.archive] ++ writes load.entries ++ [-(pages load.archive : Int)] ++ load.homeChanges ++
    restoreFiles.flatMap load.overlayChanges

section

variable {load : Load} {available : Nat} {limit used : Int}

theorem ramGuard_keeps (inside : used ≤ limit) (post : Int → Unit → Prop) :
    Keeps load.changes (load.admits available) limit ramGuard post used ↔ post used () := by
  have lines : ∀ line used, used ≤ limit → ∀ post,
      Keeps load.changes (load.admits available) limit (run (.guard line)) post used ↔
        Stays limit used [] ∧ post (used + List.sum []) () := fun line used _ => keeps_run trivial
  refine (keeps_bind _ _ _).trans ((keeps_forM (fun _ => []) lines _ inside _).trans ?_)
  rw [keeps_next rfl trivial (by simpa using inside), keeps_next rfl trivial (by simpa using inside),
    keeps_still rfl trivial]
  simp [Stays, inside]

theorem reserveSpace_keeps (inside : used ≤ limit) (post : Int → Unit → Prop) :
    Keeps load.changes (load.admits available) limit reserveSpace post used ↔
      (load.need < available → post used ()) := by
  have checked : Keeps load.changes (load.admits available) limit
      (do run Command.measureFree; run Command.testSpace) post used ↔
        (load.need < available → post used ()) := by
    rw [keeps_next rfl trivial inside, keeps_check rfl (fun _ => Iff.rfl) inside, decide_eq_true_eq]
  rw [reserveSpace, keeps_bind, keeps_ask rfl fun _ => trivial, and_iff_right inside]
  refine (forall_congr' fun ok => ?_).trans (forall_const Bool)
  rw [keeps_bind, keeps_whenever]
  cases ok with
  | false => exact checked
  | true => exact (keeps_still rfl trivial _).trans ((and_iff_right inside).trans checked)

theorem refuseSpecial_keeps (place : Place) (status : Nat) (inside : used ≤ limit)
    (post : Int → Unit → Prop) :
    Keeps load.changes (load.admits available) limit (refuseSpecial place status) post used ↔
      post used () := by
  rw [refuseSpecial, keeps_bind, keeps_ask rfl fun _ => trivial, and_iff_right inside]
  simp [keeps_throwIf]

theorem unpackArchive_keeps (inside : used ≤ limit) (post : Int → Unit → Prop) :
    Keeps load.changes (load.admits available) limit unpackArchive post used ↔
      Stays limit used (writes [load.archive] ++ writes load.entries ++ [-(pages load.archive : Int)]) ∧
        post (used + (writes [load.archive] ++ writes load.entries ++
          [-(pages load.archive : Int)]).sum) () := by
  rw [unpackArchive, keeps_next rfl trivial inside, keeps_bind, keeps_run trivial, stays_append,
    stays_append, List.sum_append, List.sum_append, and_assoc, and_assoc]
  refine and_congr_right fun received => ?_
  rw [keeps_next rfl trivial received.finish, keeps_next rfl trivial received.finish, keeps_bind,
    keeps_run trivial]
  refine and_congr_right fun extracted => ?_
  rw [keeps_bind, keeps_run trivial, ← add_assoc]
  refine and_congr_right fun removed => ?_
  rw [keeps_next rfl trivial removed.finish, refuseSpecial_keeps _ _ removed.finish, List.sum_append, ← add_assoc,
    ← add_assoc]
  rfl

theorem overlayChanges_none {file : HomeFile} (saved : load.saved file = none) :
    load.overlayChanges file = [] := by
  simp [Load.overlayChanges, Load.changes, saved]

theorem overlayChanges_some {file : HomeFile} {size : Nat} (saved : load.saved file = some size) :
    load.overlayChanges file = [-(load.replaced file : Int), pages size] := by
  simp [Load.overlayChanges, Load.changes, saved]

theorem overlayFile_keeps (file : HomeFile) (inside : used ≤ limit) (post : Int → Unit → Prop) :
    Keeps load.changes (load.admits available) limit (overlayFile file) post used ↔
      Stays limit used (load.overlayChanges file) ∧
        post (used + (load.overlayChanges file).sum) () := by
  rw [overlayFile, keeps_bind, keeps_holds rfl fun _ => Iff.rfl, and_iff_right inside, keeps_whenever]
  cases saved : load.saved file with
  | none => simp [overlayChanges_none saved, Stays, inside]
  | some size =>
    rw [Option.isSome_some, if_pos rfl, keeps_next rfl trivial inside, keeps_next rfl trivial inside,
      keeps_bind, keeps_run trivial]
    refine and_congr_right fun copied => ?_
    rw [keeps_still rfl trivial]
    exact and_iff_right copied.finish

/-- A question and a command that take nothing. -/
theorem unlessNot_keeps (condition : Condition) (command : Command)
    (quiet : ∀ ok, load.admits available ⟨.testNot condition, ok⟩)
    (still : load.changes command = [])
    (may : load.admits available ⟨command, true⟩) (inside : used ≤ limit)
    (post : Int → Unit → Prop) :
    Keeps load.changes (load.admits available) limit (unlessNot condition command) post used ↔
      post used () := by
  rw [unlessNot, keeps_bind, keeps_ask rfl quiet, and_iff_right inside]
  refine (forall_congr' fun absent => ?_).trans (forall_const Bool)
  rw [keeps_whenever]
  cases absent with
  | false => exact (keeps_still still may _).trans (and_iff_right inside)
  | true => exact Iff.rfl

theorem copyHome_keeps (inside : used ≤ limit) (post : Int → Unit → Prop) :
    Keeps load.changes (load.admits available) limit (unlessNot (.exists .home) .copyHome) post used ↔
      Stays limit used load.homeChanges ∧ post (used + load.homeChanges.sum) () := by
  rw [unlessNot, keeps_bind, keeps_holds rfl fun _ => Iff.rfl, and_iff_right inside, keeps_whenever]
  cases present : load.present with
  | false => simp [Load.homeChanges, present, Stays, inside]
  | true =>
    rw [Bool.not_true, Bool.not_false, if_pos rfl, keeps_run trivial, Load.homeChanges, present,
      if_pos rfl]
    rfl

theorem prepareTrees_keeps (inside : used ≤ limit) (post : Int → Unit → Prop) :
    Keeps load.changes (load.admits available) limit prepareTrees post used ↔
      Stays limit used (load.homeChanges ++ restoreFiles.flatMap load.overlayChanges) ∧
        post (used + (load.homeChanges ++ restoreFiles.flatMap load.overlayChanges).sum) () := by
  rw [prepareTrees, keeps_next rfl trivial inside, keeps_next rfl trivial inside,
    keeps_next rfl trivial inside, keeps_next rfl trivial inside, keeps_next rfl trivial inside,
    keeps_bind, copyHome_keeps inside, stays_append, List.sum_append, and_assoc, ← add_assoc]
  refine and_congr_right fun copied => ?_
  rw [keeps_bind, refuseSpecial_keeps _ _ copied.finish, keeps_bind]
  refine (keeps_forM load.overlayChanges (fun file used inside => overlayFile_keeps file inside) _
    copied.finish _).trans (and_congr_right fun overlaid => ?_)
  rw [keeps_next rfl trivial overlaid.finish,
    unlessNot_keeps (.directory .nextSsh) (.protect .nextSsh) (fun _ => trivial) rfl trivial
      overlaid.finish]

theorem exchangeTrees_keeps (inside : used ≤ limit) (post : Int → Unit → Prop) :
    Keeps load.changes (load.admits available) limit exchangeTrees post used ↔ post used () := by
  have work : ∀ post, Keeps load.changes (load.admits available) limit
      (unlessNot (.exists .work) (.move .work .oldWork)) post used ↔ post used () :=
    unlessNot_keeps _ _ (fun _ => trivial) rfl trivial inside
  have home : ∀ post, Keeps load.changes (load.admits available) limit
      (unlessNot (.exists .home) (.move .home .oldHome)) post used ↔ post used () := by
    intro post
    rw [unlessNot, keeps_bind, keeps_holds rfl fun _ => Iff.rfl, and_iff_right inside, keeps_whenever]
    cases load.present with
    | false => exact Iff.rfl
    | true => exact (keeps_still rfl trivial _).trans (and_iff_right inside)
  rw [exchangeTrees, keeps_bind, work, keeps_bind, home, keeps_next rfl trivial inside,
    keeps_next rfl trivial inside, keeps_next rfl trivial inside, keeps_next rfl trivial inside,
    keeps_next rfl trivial inside, keeps_next rfl trivial inside, keeps_still rfl trivial]
  exact and_iff_right inside

/-- The script stays within the limit exactly when what it takes after its check does. -/
theorem restoreCommand_keeps (positive : 0 ≤ limit) :
    Keeps load.changes (load.admits available) limit restoreCommand (fun _ _ => True) 0 ↔
      (load.need < available → Stays limit 0 load.allChanges) := by
  rw [restoreCommand, keeps_bind, ramGuard_keeps positive, keeps_next rfl trivial positive,
    keeps_next rfl trivial positive, keeps_next rfl trivial positive, keeps_bind,
    reserveSpace_keeps positive]
  refine imp_congr_right fun _ => ?_
  rw [keeps_bind, unpackArchive_keeps positive, Load.allChanges, List.append_assoc _ load.homeChanges]
  refine Iff.trans (and_congr_right fun unpacked => ?_) stays_append.symm
  rw [keeps_bind, prepareTrees_keeps unpacked.finish]
  exact (and_congr_right fun prepared => exchangeTrees_keeps prepared.finish _).trans (and_iff_left trivial)

end

/-! ### What is enough -/

/-- How the copy of one home file changes what the new home takes. -/
def Load.growth (load : Load) (file : HomeFile) : Int :=
  match load.saved file with
  | some size => pages size - load.replaced file
  | none => 0

/-- After each of the copies there is room for the snapshot's files, the old home's, and by how much
the copies so far have outgrown what they replaced. -/
def Load.Ample (load : Load) : Prop :=
  ∀ files, files <+: restoreFiles →
    (((load.entries.map pages).sum + (load.home.map pages).sum : Nat) : Int) +
      (files.map load.growth).sum ≤ (load.need + 1) * 1024

instance (load : Load) : Decidable load.Ample :=
  decidable_of_iff (∀ files ∈ restoreFiles.inits,
    (((load.entries.map pages).sum + (load.home.map pages).sum : Nat) : Int) +
      (files.map load.growth).sum ≤ (load.need + 1) * 1024) (by simp only [List.mem_inits, Load.Ample])

section

variable {load : Load} {limit used : Int}

theorem overlayChanges_sum (file : HomeFile) :
    (load.overlayChanges file).sum = load.growth file := by
  cases saved : load.saved file with
  | none => simp [overlayChanges_none saved, Load.growth, saved]
  | some size =>
    have growth : load.growth file = pages size - load.replaced file := by rw [Load.growth, saved]
    rw [overlayChanges_some saved, List.sum_cons, List.sum_singleton]
    omega

theorem level_overlayChanges (file : HomeFile) : Level (load.overlayChanges file) := by
  cases saved : load.saved file with
  | none =>
    rw [overlayChanges_none saved]
    exact level_nil
  | some size =>
    rw [overlayChanges_some saved]
    exact level_replace _ _

theorem overlays_sum (files : List HomeFile) :
    (files.flatMap load.overlayChanges).sum = (files.map load.growth).sum := by
  induction files with
  | nil => rfl
  | cons file files ih =>
    rw [List.flatMap_cons, List.sum_append, overlayChanges_sum, ih, List.map_cons, List.sum_cons]

/-- The copies stay within the limit when each first few of them do. -/
theorem stays_overlays (files : List HomeFile) : Stays limit used (files.flatMap load.overlayChanges) ↔
    ∀ front, front <+: files → used + (front.map load.growth).sum ≤ limit := by
  rw [stays_flatMap level_overlayChanges]
  simp only [overlays_sum]

theorem roomy_iff_stays : load.Roomy ↔ Stays ((load.need + 1) * 1024) 0 load.allChanges := by
  have each : ∀ available : Nat, restoreCommand.program.Safe
      (storage load.changes (load.admits available) (available * 1024)) (fun _ _ => True) 0 ↔
        (load.need < available → Stays (available * 1024) 0 load.allChanges) := fun available =>
    keeps_program.trans (restoreCommand_keeps (by omega))
  simp only [Load.Roomy, each]
  constructor
  · exact fun all => by simpa using all (load.need + 1) (Nat.lt_succ_self _)
  · exact fun stays available passed => stays.mono (by omega)

/-- Only the copies of the home files can outgrow what is available. -/
theorem roomy_iff_ample (total : load.entries.sum = load.expanded)
    (few : load.entries.length ≤ 4096)
    (absent : load.present = false → load.home = []) : load.Roomy ↔ load.Ample := by
  have archive := pages_le load.archive
  have staged := pages_sum_le load.entries
  have need : load.expanded + load.archive + 67108864 ≤ (load.need + 1) * 1024 := by
    rw [Load.need]
    omega
  have home : load.homeChanges = writes load.home := by
    cases present : load.present with
    | false => simp [Load.homeChanges, present, absent present, writes]
    | true => simp [Load.homeChanges, present]
  have sums : (writes [load.archive] ++ writes load.entries ++ [-(pages load.archive : Int)] ++
      writes load.home).sum = ((load.entries.map pages).sum + (load.home.map pages).sum : Nat) := by
    simp only [List.sum_append, writes_sum, List.map_singleton, List.sum_singleton]
    omega
  rw [roomy_iff_stays, Load.allChanges, home, stays_append, stays_overlays, sums, zero_add]
  refine and_iff_right_of_imp fun ample => ?_
  have copied := ample [] List.nil_prefix
  rw [List.map_nil, List.sum_nil, add_zero] at copied
  simp only [stays_append, stays_writes, List.sum_append, writes_sum, List.map_singleton,
    List.sum_singleton, Stays]
  omega

end

/-! ### Accepted archives -/

open FileTree RestoreState Tar

variable {D : Type} {sha256 : Bytes → D}

/-- What a copy overwrites in the new home: the file at its path, or one of its name in a directory
there. -/
def overwritten (home : Option Node) (file : HomeFile) : Nat :=
  match home.bind (·.seek (HomeFile.path file)) with
  | some (.file _ data) => pages data.length
  | some (.directory mode entries) =>
    match (Node.directory mode entries).entry (HomeFile.name file) with
    | some (.file _ data) => pages data.length
    | _ => 0
  | _ => 0

def savedEntry (details : Details D) (file : HomeFile) : Option (TarFile D) :=
  details.files.find? fun entry => treeNames entry.path = HomeFile.archived file

/-- What a snapshot and a home directory mean for the script; a directory in place of a home file
takes nothing and overwrites nothing. -/
def Load.of (details : Details D) (archive : Nat) (home : Option Node) (measured : Nat) : Load where
  archive := archive
  expanded := details.expandedBytes
  entries := details.files.map TarFile.bytes
  saved file := (savedEntry details file).map TarFile.bytes
  present := home.isSome
  measured := if home.any Node.isDirectory then measured else 0
  home := if home.any Node.isDirectory then home.elim [] Node.sizes else []
  replaced file :=
    if (savedEntry details file).any fun entry => entry.type = 53 then 0 else overwritten home file

def bulky (name : String) : Source :=
  ⟨[], ascii "run/codex-home/" ++ ascii name, 48, 384, List.replicate 67108864 0⟩

def bulkySources : List Source :=
  [⟨[], ascii "run/work", 53, 448, []⟩, bulky "auth.json", bulky "config.toml"]

def bulkyGzip : Gzip := ⟨200000, encodeTar bulkySources, false, []⟩

theorem bulky_size (name : String) : (bulky name).content.length = 67108864 := List.length_replicate

theorem bulky_fits {name : String} (known : name ∈ ["auth.json", "config.toml"]) :
    (bulky name).Fits := by
  have paths : ∀ name ∈ ["auth.json", "config.toml"],
      testArchivePath (ascii "run/codex-home/" ++ ascii name) ∧
        validUtf8 (ascii "run/codex-home/" ++ ascii name) ∧
        (ascii "run/codex-home/" ++ ascii name).length ≤ 100 := by decide
  obtain ⟨allowed, utf8, short⟩ := paths name known
  exact
    { allowed := allowed, utf8 := utf8, name := short, dir := Nat.zero_le _
      type := .inr (.inl rfl)
      directory := fun is_directory => absurd is_directory (by decide : ¬(48 : UInt8) = 53)
      mode := (by decide : 384 < 512), small := Nat.le_of_eq (bulky_size name) }

theorem work_fits : Source.Fits ⟨[], ascii "run/work", 53, 448, []⟩ :=
  { allowed := by decide, utf8 := by decide, name := by decide
    dir := by decide, type := by decide, directory := by decide, mode := by decide
    small := by decide }

theorem bulky_accepted : ∃ details : Details Bytes, assertSafeTar id bulkyGzip = .ok details ∧
    details.files = bulkySources.map (Source.file id) := by
  have fit : ∀ source ∈ bulkySources, source.Fits := by
    simp only [bulkySources, List.forall_mem_cons, List.not_mem_nil, false_implies, implies_true,
      and_true]
    exact ⟨work_fits, bulky_fits (by simp), bulky_fits (by simp)⟩
  have total : totalBytes bulkySources = 134217728 := by
    simp [totalBytes, bulkySources, bulky_size]
  obtain ⟨result, run, files⟩ : ∃ result, Accepted id 4096 .start (encodeTar bulkySources) result ∧
      result.files = _ := encoded_run fit (by decide) (by simp [Progress.start]) (by decide)
        (by rw [total]; decide)
  obtain ⟨blocks, read, trailer, account⟩ := run.account
  have reported : result.files = bulkySources.map (Source.file id) := by
    simpa [Progress.start] using files
  have entries : result.entries = read.length := by simpa [Progress.start] using account.entries
  have same : read = bulkySources.map (Source.file id) := by
    rw [← reported]
    simpa [Progress.start] using account.reported.symm
  refine ⟨result.toDetails, assertSafeTar_ok.mpr ⟨by decide, rfl, result, run, ?_, rfl⟩, reported⟩
  rw [entries, same]
  decide

theorem bulky_names : treeNames (ascii "run/work") = ["run", "work"] ∧
    treeNames (ascii "run/codex-home/" ++ ascii "auth.json") = HomeFile.archived .authJson ∧
    treeNames (ascii "run/codex-home/" ++ ascii "config.toml") = HomeFile.archived .configToml := by
  decide

section

variable {details : Details D} {archive measured : Nat}

/-- Over a home that was not there a copy replaces nothing. -/
theorem growth_absent {file : HomeFile} {entry : TarFile D}
    (saved : savedEntry details file = some entry) :
    (Load.of details archive none measured).growth file = pages entry.bytes := by
  have nothing : (Load.of details archive none measured).replaced file = 0 := ite_self 0
  have size : (Load.of details archive none measured).saved file = some entry.bytes :=
    congrArg (Option.map TarFile.bytes) saved
  rw [Load.growth, size]
  dsimp only
  rw [nothing, Int.natCast_zero, sub_zero]

/-- Two home files that are larger together than the reserve are too much. -/
theorem pair_overruns {work auth config : TarFile D} (files : details.files = [work, auth, config])
    (work_names : treeNames work.path = ["run", "work"])
    (auth_names : treeNames auth.path = HomeFile.archived .authJson)
    (config_names : treeNames config.path = HomeFile.archived .configToml)
    (total : (details.files.map TarFile.bytes).sum = details.expandedBytes)
    (large : archive + 67110911 < auth.bytes + config.bytes) :
    ¬(Load.of details archive none measured).Ample := by
  have auth_saved : savedEntry details .authJson = some auth := by
    rw [savedEntry, files, List.find?_cons_of_neg (by rw [work_names]; decide)]
    exact List.find?_cons_of_pos (decide_eq_true auth_names)
  have config_saved : savedEntry details .configToml = some config := by
    rw [savedEntry, files, List.find?_cons_of_neg (by rw [work_names]; decide),
      List.find?_cons_of_neg (by rw [auth_names]; decide)]
    exact List.find?_cons_of_pos (decide_eq_true config_names)
  have need : ((Load.of details archive none measured).need + 1) * 1024 ≤
      details.expandedBytes + archive + 67110911 := by
    have formula : (Load.of details archive none measured).need =
      (details.expandedBytes + archive + 1023) / 1024 + 0 + 65536 := rfl
    omega
  have entries : details.expandedBytes ≤
      ((Load.of details archive none measured).entries.map pages).sum := by
    rw [← total]
    exact le_pages_sum _
  intro ample
  have copied := ample [.authJson, .configToml] (by decide)
  rw [List.map_cons, List.map_singleton, List.sum_cons, List.sum_singleton,
    growth_absent auth_saved, growth_absent config_saved] at copied
  have auth_pages := le_pages auth.bytes
  have config_pages := le_pages config.bytes
  omega

end

end WinBoot.RestoreSpace
