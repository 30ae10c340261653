import WinBoot.RestoreState

/-! What the overlay makes of the old home directory. A file of the snapshot goes to its own path,
or into a directory that lies there; nothing else changes but that a missing parent is made. -/

namespace WinBoot.RestoreState
open RamScripts FileTree

/-- Where the snapshot has a home file. -/
def HomeFile.saved (file : HomeFile) (snapshot : Node) : Option Node :=
  snapshot.seek ("run" :: "codex-home" :: HomeFile.path file)

/-- The copy has come to the file's path. -/
def Landed (snapshot home : Node) (file : HomeFile) : Prop :=
  ∀ n ∈ HomeFile.saved file snapshot,
    ((HomeFile.copyTo file n (HomeFile.makeParent file home)).seek (HomeFile.path file)).isSome

def LandedAll (snapshot : Node) : List HomeFile → Node → Prop
  | [], _ => True
  | file :: rest, home =>
    Landed snapshot home file ∧ LandedAll snapshot rest (overlay snapshot home file)

/-- What lies at a file's path afterwards. -/
def HomeFile.settled (file : HomeFile) (n home : Node) : Node :=
  (n.placed (HomeFile.name file) (home.seek (HomeFile.path file))).chmod 0o600

/-- The paths that the overlay leaves alone, or makes on the way to a file. -/
structure Overlaying (snapshot : Node) (files : List HomeFile) (before after : Node) : Prop where
  directory : after.isDirectory
  placed : ∀ file ∈ files, ∀ n ∈ HomeFile.saved file snapshot,
    after.seek (HomeFile.path file) = some (HomeFile.settled file n before)
  kinds : ∀ at_, (∀ file ∈ files, (HomeFile.saved file snapshot).isSome →
      ¬HomeFile.path file <+: at_) →
    after.kindAt at_ = before.kindAt at_ ∨ before.kindAt at_ = none ∧
      after.kindAt at_ = some .directory ∧ ∃ file ∈ files, (HomeFile.saved file snapshot).isSome ∧
        at_ <+: HomeFile.path file

theorem paths_apart {file other : HomeFile} (differ : file ≠ other) :
    ¬HomeFile.path file <+: HomeFile.path other := by
  cases file <;> cases other <;> first | exact absurd rfl differ | decide

section

variable {snapshot home n : Node} {file : HomeFile}

/-! ### One file -/

theorem seek_makeParent {at_ : List String} (apart : ¬at_ <+: HomeFile.path file) :
    (HomeFile.makeParent file home).seek at_ = home.seek at_ := by
  have some : at_ ≠ [] := by
    rintro rfl
    exact apart List.nil_prefix
  cases file with
  | authJson | configToml | gitconfig => rfl
  | _ =>
    refine Node.seek_makeDirectory some ?_
    rintro rfl
    exact apart (by decide)

/-- The file itself is not its parent. -/
theorem seek_makeParent_path :
    (HomeFile.makeParent file home).seek (HomeFile.path file) = home.seek (HomeFile.path file) := by
  cases file with
  | authJson | configToml | gitconfig => rfl
  | _ => exact Node.seek_makeDirectory (by decide) (by decide)

theorem kindAt_makeParent (at_ : List String) :
    (HomeFile.makeParent file home).kindAt at_ = home.kindAt at_ ∨ home.kindAt at_ = none ∧
      (HomeFile.makeParent file home).kindAt at_ = some .directory ∧ at_ <+: HomeFile.path file := by
  cases file with
  | authJson | configToml | gitconfig => exact .inl rfl
  | _ =>
    obtain same | ⟨rfl, absent, made⟩ := Node.kindAt_makeDirectory home ".ssh" at_
    · exact .inl same
    · exact .inr ⟨absent, made, by decide⟩

theorem overlay_none (absent : HomeFile.saved file snapshot = none) :
    overlay snapshot home file = home := by
  rw [HomeFile.saved] at absent
  rw [overlay, absent]

theorem overlay_some (found : HomeFile.saved file snapshot = some n) : overlay snapshot home file =
    (HomeFile.copyTo file n (HomeFile.makeParent file home)).modify (HomeFile.path file)
      (·.chmod 0o600) := by
  rw [HomeFile.saved] at found
  rw [overlay, found]

/-- One file of the snapshot put over the home directory. -/
theorem overlay_placed (found : HomeFile.saved file snapshot = some n)
    (landed : Landed snapshot home file) :
    (overlay snapshot home file).seek (HomeFile.path file) =
      some (HomeFile.settled file n home) := by
  obtain ⟨dir, there, directory⟩ := Node.seek_insertAt_isSome _ _ (landed n found)
  have target : dir.entry (HomeFile.name file) = home.seek (HomeFile.path file) := by
    rw [← seek_makeParent_path, HomeFile.path, Node.seek_append, there, Option.bind_some,
      Node.seek]
    cases dir.entry (HomeFile.name file) <;> rfl
  have copied : (HomeFile.copyTo file n (HomeFile.makeParent file home)).seek
      (HomeFile.parents file ++ [HomeFile.name file]) =
        some (n.placed (HomeFile.name file) (dir.entry (HomeFile.name file))) :=
    Node.seek_insertAt _ _ there directory
  have front := Node.seek_modify (HomeFile.path file) [] (Node.chmod 0o600)
    (HomeFile.copyTo file n (HomeFile.makeParent file home))
  rw [List.append_nil] at front
  rw [overlay_some found, front, HomeFile.path, copied, target]
  rfl

theorem overlay_apart {at_ : List String} (below : ¬HomeFile.path file <+: at_)
    (above : ¬at_ <+: HomeFile.path file) :
    (overlay snapshot home file).seek at_ = home.seek at_ := by
  cases found : HomeFile.saved file snapshot with
  | none => rw [overlay_none found]
  | some n =>
    rw [overlay_some found, Node.seek_chmod_apart _ above, HomeFile.copyTo,
      Node.seek_insertAt_apart _ _ below above, seek_makeParent above]

theorem overlay_kinds (found : (HomeFile.saved file snapshot).isSome) {at_ : List String}
    (below : ¬HomeFile.path file <+: at_) :
    (overlay snapshot home file).kindAt at_ = home.kindAt at_ ∨ home.kindAt at_ = none ∧
      (overlay snapshot home file).kindAt at_ = some .directory ∧ at_ <+: HomeFile.path file := by
  obtain ⟨n, found⟩ := Option.isSome_iff_exists.mp found
  rw [overlay_some found, Node.kindAt_chmod, HomeFile.copyTo, Node.kindAt_insertAt _ _ below]
  exact kindAt_makeParent at_

theorem overlay_directory (directory : home.isDirectory) :
    (overlay snapshot home file).isDirectory := by
  cases found : HomeFile.saved file snapshot with
  | none => rwa [overlay_none found]
  | some n =>
    have below : ¬HomeFile.path file <+: [] := by cases file <;> decide
    rw [← Node.kind_directory] at directory ⊢
    have root : home.kindAt [] = some .directory := congrArg some directory
    have present : (HomeFile.saved file snapshot).isSome := by rw [found]; rfl
    obtain same | ⟨absent, -⟩ := overlay_kinds present below
    · exact Option.some.inj (same.trans root)
    · rw [root] at absent
      cases absent

end

/-! ### All files -/

theorem overlays_apart {snapshot home : Node} {files : List HomeFile} {at_ : List String}
    (apart : ∀ file ∈ files, ¬HomeFile.path file <+: at_ ∧ ¬at_ <+: HomeFile.path file) :
    (files.foldl (overlay snapshot) home).seek at_ = home.seek at_ := by
  induction files generalizing home with
  | nil => rfl
  | cons file files ih =>
    obtain ⟨below, above⟩ := apart file List.mem_cons_self
    have rest : (files.foldl (overlay snapshot) (overlay snapshot home file)).seek at_ =
        (overlay snapshot home file).seek at_ :=
      ih fun other member => apart other (List.mem_cons_of_mem _ member)
    exact rest.trans (overlay_apart below above)

theorem overlays {snapshot home : Node} {files : List HomeFile} (distinct : files.Nodup)
    (directory : home.isDirectory) (landed : LandedAll snapshot files home) :
    Overlaying snapshot files home (files.foldl (overlay snapshot) home) := by
  induction files generalizing home with
  | nil => exact ⟨directory, by simp, fun at_ _ => .inl rfl⟩
  | cons file files ih =>
    obtain ⟨here, later⟩ := landed
    obtain ⟨fresh, distinct⟩ := List.nodup_cons.mp distinct
    have rest := ih distinct (overlay_directory directory) later
    refine ⟨rest.directory, fun other member n found => ?_, fun at_ outside => ?_⟩
    · rcases List.mem_cons.mp member with rfl | listed
      · have kept : (files.foldl (overlay snapshot) (overlay snapshot home other)).seek
            (HomeFile.path other) = (overlay snapshot home other).seek (HomeFile.path other) :=
          overlays_apart fun next among =>
            have differ : next ≠ other := fun same => fresh (same ▸ among)
            ⟨paths_apart differ, paths_apart differ.symm⟩
        exact kept.trans (overlay_placed found here)
      · have differ : file ≠ other := fun same => fresh (same ▸ listed)
        have same : (overlay snapshot home file).seek (HomeFile.path other) =
            home.seek (HomeFile.path other) :=
          overlay_apart (paths_apart differ) (paths_apart differ.symm)
        have placed := rest.placed other listed n found
        rwa [HomeFile.settled, same] at placed
    · have earlier : (overlay snapshot home file).kindAt at_ = home.kindAt at_ ∨
          home.kindAt at_ = none ∧ (overlay snapshot home file).kindAt at_ = some .directory ∧
            (HomeFile.saved file snapshot).isSome ∧ at_ <+: HomeFile.path file := by
        cases found : HomeFile.saved file snapshot with
        | none => exact .inl (by rw [overlay_none found])
        | some n =>
          have some : (HomeFile.saved file snapshot).isSome := by rw [found]; rfl
          obtain same | ⟨absent, made, above⟩ :=
            overlay_kinds some (outside file List.mem_cons_self some)
          · exact .inl same
          · exact .inr ⟨absent, made, rfl, above⟩
      obtain same | ⟨absent, made, other, listed, found, above⟩ := rest.kinds at_ fun other listed =>
        outside other (List.mem_cons_of_mem _ listed)
      · obtain before | ⟨absent, made, found, above⟩ := earlier
        · exact .inl (same.trans before)
        · exact .inr ⟨absent, same.trans made, file, List.mem_cons_self, found, above⟩
      · obtain before | ⟨-, twice, -⟩ := earlier
        · exact .inr ⟨before.symm.trans absent, made, other, List.mem_cons_of_mem _ listed, found,
            above⟩
        · rw [absent] at twice
          cases twice

theorem restoreFiles_distinct : restoreFiles.Nodup := by decide

theorem mem_restoreFiles (file : HomeFile) : file ∈ restoreFiles := by cases file <;> decide

theorem newHome_overlaying {snapshot : Node} {old : Option Node}
    (directory : ∀ n ∈ old, n.isDirectory)
    (landed : LandedAll snapshot restoreFiles (old.getD (.directory 0o700 []))) :
    Overlaying snapshot restoreFiles (old.getD (.directory 0o700 [])) (newHome snapshot old) := by
  have start : (old.getD (.directory 0o700 [])).isDirectory := by
    cases old with
    | none => rfl
    | some n => exact directory n rfl
  have base := overlays restoreFiles_distinct start landed
  have kinds : ∀ at_, (newHome snapshot old).kindAt at_ =
      (restoreFiles.foldl (overlay snapshot) (old.getD (.directory 0o700 []))).kindAt at_ := by
    intro at_
    have root := Node.kindAt_chmod 0o700 [] at_
      (restoreFiles.foldl (overlay snapshot) (old.getD (.directory 0o700 [])))
    rw [newHome]
    split
    · exact (Node.kindAt_chmod 0o700 [".ssh"] at_ _).trans root
    · exact root
  have files : ∀ file, (newHome snapshot old).seek (HomeFile.path file) =
      (restoreFiles.foldl (overlay snapshot) (old.getD (.directory 0o700 []))).seek
        (HomeFile.path file) := by
    intro file
    have some : ¬HomeFile.path file <+: [] ∧ ¬HomeFile.path file <+: [".ssh"] := by
      cases file <;> decide
    have root := Node.seek_chmod_apart 0o700 some.1
      (restoreFiles.foldl (overlay snapshot) (old.getD (.directory 0o700 [])))
    rw [newHome]
    split
    · exact (Node.seek_chmod_apart 0o700 some.2 _).trans root
    · exact root
  refine ⟨?_, fun file member n found => (files file).trans (base.placed file member n found),
    fun at_ outside => by simpa only [kinds] using base.kinds at_ outside⟩
  have root := kinds []
  rw [← Node.kind_directory]
  exact Option.some.inj (root.trans (congrArg some (Node.kind_directory.mpr base.directory)))

end WinBoot.RestoreState
