import WinBoot.InstallStages

/-! The cleanup of the installer, and what its whole runs leave. -/

namespace WinBoot.InstallState
open Interaction ShellProcess InstallScript FileTree

variable {d : Device} {bundle : Bundle} {layer : Layer} {s : State}

abbrev unarmed (d : Device) : Monitor Command (fun _ => Bool) State :=
  guarding (semantics d) fun _ c => ∀ handler, trapOf c ≠ some (.atExit handler)

section Sure

variable {c : Command} {ends : State → Nat → Prop}

/-- In the cleanup a command that does not fail of itself succeeds. -/
theorem run_sure {post : State → Unit → Prop} (handling : s.handling = true)
    (sure : s.cannot d c = false) (traps : ∀ handler, trapOf c ≠ some (.atExit handler))
    (works : post ((semantics d).next s ⟨c, true⟩) ()) :
    (run c).Finishes (unarmed d) ends post s := by
  refine (finishes_run _ c post s).mpr fun ok admitted => ?_
  cases ok with
  | false =>
    have fails := admitted.2 rfl (.inl handling)
    rw [sure] at fails
    cases fails
  | true => exact ⟨traps, works⟩

theorem orExit_sure {post : State → Unit → Prop} {status : Nat} (handling : s.handling = true)
    (sure : s.cannot d c = false) (traps : ∀ handler, trapOf c ≠ some (.atExit handler))
    (works : post ((semantics d).next s ⟨c, true⟩) ()) :
    (orExit c status).Finishes (unarmed d) ends post s := by
  refine Shell.Finishes.through _ (fun after ok => ok = true ∧ post after ())
    ((finishes_holds _ c _ s).mpr fun ok admitted => ?_) ?_
  · cases ok with
    | false =>
      have fails := admitted.2 rfl (.inl handling)
      rw [sure] at fails
      cases fails
    | true => exact ⟨traps, rfl, works⟩
  · rintro after _ ⟨rfl, works⟩
    exact (finishes_throwIf _ _ _ _ _).mpr ⟨by simp, fun _ => works⟩

/-- A test that can be answered in one way only. -/
theorem holds_sure (answer : Bool) (handling : s.handling = true) (still : quiet c)
    (traps : ∀ handler, trapOf c ≠ some (.atExit handler))
    (one : s.can d c = answer ∧ s.cannot d c = !answer) :
    Shell.Finishes (unarmed d) ends (holds c) (fun after ok => after.view = s.view ∧ ok = answer) s := by
  refine (finishes_holds _ c _ s).mpr fun ok admitted => ⟨traps, quiet_view still ok, ?_⟩
  cases ok with
  | true => exact (admitted.1 rfl).symm.trans one.1
  | false =>
    have fails := one.2.symm.trans (admitted.2 rfl (.inl handling))
    simpa using fails.symm

theorem ifHolds_sure {condition : Condition} {body : InstallShell Unit} {post : State → Unit → Prop}
    (answer : Bool) (handling : s.handling = true)
    (one : s.may d condition = answer ∧ s.mayNot d condition = !answer)
    (yes : answer = true → ∀ after, after.view = s.view → body.Finishes (unarmed d) ends post after)
    (no : answer = false → ∀ after, after.view = s.view → post after ()) :
    (ifHolds condition body).Finishes (unarmed d) ends post s := by
  refine Shell.Finishes.bind _ (holds_sure answer handling rfl (by simp [trapOf]) one) ?_
  rintro after _ ⟨same, rfl⟩
  exact finishes_whenever _ (fun is => yes is after same) fun isNot => no isNot after same

end Sure

/-! The root. -/

/-- The old root is back, and the wrappers can be brought back. -/
structure Rooted (layer : Layer) (v : View) : Prop where
  handling : v.handling = true
  committed : v.committed = false
  root : v.root = layer.root
  previous : v.previous = none
  wrappers : WrappersBack layer v

theorem WrappersBack.copy {v v' : View} (back : WrappersBack layer v)
    (wrappers : v'.wrappers = v.wrappers) (backups : v'.backups = v.backups)
    (marker : v'.marker = v.marker) (manifest : v'.oldManifest = v.oldManifest)
    (changed : v'.wrappersChanged = v.wrappersChanged) : WrappersBack layer v' := by
  cases back with
  | untouched same old unchanged =>
    exact .untouched (wrappers.trans same) (marker.trans old) (changed.trans unchanged)
  | saved saved new =>
      exact .saved (saved.copy wrappers backups marker manifest) (changed.trans new)

theorem restoreRoot_roots {ends : State → Nat → Prop} (handling : s.handling = true)
    (committed : s.committed = false) (root : RootBack layer.root s.view)
    (wrappers : WrappersBack layer s.view) :
    restoreRoot.Finishes (unarmed d) ends (fun after _ => Rooted layer after.view) s := by
  cases root with
  | aside n old directory previous =>
    have previous : s.previous = some n := previous
    have kind : s.kind .previous = some .directory := by
      simp [State.kind, previous, (kindOf_directory n).mpr directory]
    refine Shell.Finishes.bind _ (holds_sure true handling rfl (by simp [trapOf])
      (by simp [State.can, State.cannot, State.may, State.mayNot, kind])) ?_
    rintro s₁ _ ⟨same, rfl⟩
    have handling₁ : s₁.handling = true := (congrArg View.handling same).trans handling
    have previous₁ : s₁.previous = some n := (congrArg View.previous same).trans previous
    have committed₁ : s₁.committed = false := (congrArg View.committed same).trans committed
    rw [← same] at wrappers
    refine Shell.Finishes.through _ (fun after _ => after = (semantics d).next s₁ ⟨.removeRoot, true⟩)
      (run_sure handling₁ rfl (by simp [trapOf]) rfl) ?_
    rintro _ _ rfl
    refine orExit_sure handling₁ ?_ (by simp [trapOf]) ⟨handling₁, committed₁, ?_, rfl, ?_⟩
    · simp [State.cannot, State.can, semantics, State.run, previous₁]
    · simp [semantics, State.run, State.view, previous₁, old, Node.placed]
    · exact wrappers.copy rfl rfl rfl rfl rfl
  | untouched previous same unchanged =>
    have previous : s.previous = none := previous
    refine Shell.Finishes.bind _ (holds_sure false handling rfl (by simp [trapOf])
      (by simp [State.can, State.cannot, State.may, State.mayNot, State.kind, previous])) ?_
    rintro s₁ _ ⟨same₁, rfl⟩
    refine ifHolds_sure s₁.rootChanged ((congrArg View.handling same₁).trans handling) ⟨rfl, rfl⟩
      (fun changed => ?_) fun _ s₂ same₂ => ?_
    · have unchanged₁ : s₁.rootChanged = false :=
        (congrArg View.rootChanged same₁).trans unchanged
      rw [unchanged₁] at changed
      cases changed
    · rw [same₂, same₁]
      exact ⟨handling, committed, same, previous, wrappers⟩
  | fresh absent previous changed =>
    have previous : s.previous = none := previous
    refine Shell.Finishes.bind _ (holds_sure false handling rfl (by simp [trapOf])
      (by simp [State.can, State.cannot, State.may, State.mayNot, State.kind, previous])) ?_
    rintro s₁ _ ⟨same₁, rfl⟩
    refine ifHolds_sure s₁.rootChanged ((congrArg View.handling same₁).trans handling) ⟨rfl, rfl⟩
      (fun _ s₂ same₂ => ?_) fun unchanged => ?_
    · have same := same₂.trans same₁
      have handling₂ : s₂.handling = true := (congrArg View.handling same).trans handling
      rw [← same] at wrappers
      refine run_sure handling₂ rfl (by simp [trapOf]) ⟨handling₂, ?_, absent.symm, ?_, ?_⟩
      · exact (congrArg View.committed same).trans committed
      · exact (congrArg View.previous same).trans previous
      · exact wrappers.copy rfl rfl rfl rfl rfl
    · have changed₁ : s₁.rootChanged = true := (congrArg View.rootChanged same₁).trans changed
      rw [changed₁] at unchanged
      cases unchanged

/-! The wrappers and the marker. -/

/-- The wrappers have been brought back so far. -/
structure Restoring (layer : Layer) (v : View) (rest : List String) : Prop where
  handling : v.handling = true
  committed : v.committed = false
  root : v.root = layer.root
  previous : v.previous = none
  apart : rest.Nodup
  inside : rest ⊆ wrapperNames
  backups : ∀ name ∈ rest, v.backups name = layer.wrappers name
  files : ∀ name ∈ rest, ∀ n, v.wrappers name = some n → n.isDirectory = false
  done : ∀ name, name ∉ rest → v.wrappers name = layer.wrappers name
  manifest : v.oldManifest = layer.oldMarker
  marker : v.marker = none ∨ ∃ content, v.marker = some (.text content)

theorem Restoring.step {name : String} {rest : List String} {v v' : View}
    (restoring : Restoring layer v (name :: rest))
    (wrapper : v'.wrappers = Function.update v.wrappers name (layer.wrappers name))
    (backups : ∀ other, other ≠ name → v'.backups other = v.backups other)
    (others : v'.handling = v.handling ∧ v'.committed = v.committed ∧ v'.root = v.root ∧
      v'.previous = v.previous ∧ v'.oldManifest = v.oldManifest ∧ v'.marker = v.marker) :
    Restoring layer v' rest := by
  obtain ⟨handling, committed, root, previous, manifest, marker⟩ := others
  obtain ⟨fresh, apart⟩ := List.nodup_cons.mp restoring.apart
  have distinct (other : String) (member : other ∈ rest) : other ≠ name :=
    fun equal => fresh (equal ▸ member)
  refine ⟨handling.trans restoring.handling, committed.trans restoring.committed,
    root.trans restoring.root, previous.trans restoring.previous, apart,
    fun other member => restoring.inside (List.mem_cons_of_mem _ member), fun other member => ?_,
    fun other member n there => ?_, fun other out => ?_, manifest.trans restoring.manifest, ?_⟩
  · rw [backups other (distinct other member)]
    exact restoring.backups other (List.mem_cons_of_mem _ member)
  · rw [wrapper, Function.update_of_ne (distinct other member)] at there
    exact restoring.files other (List.mem_cons_of_mem _ member) n there
  · by_cases equal : other = name
    · rw [wrapper, equal, Function.update_self]
    · rw [wrapper, Function.update_of_ne equal]
      exact restoring.done other (by simp [equal, out])
  · rw [marker]
    exact restoring.marker

theorem restoreWrapper_restores {name : String} {rest : List String} {ends : State → Nat → Prop}
    (restoring : Restoring layer s.view (name :: rest)) :
    (restoreWrapper name).Finishes (unarmed d) ends (fun after _ => Restoring layer after.view rest) s := by
  have handling : s.handling = true := restoring.handling
  have kept : s.backups name = layer.wrappers name := restoring.backups name List.mem_cons_self
  have sure : s.cannot d (.forceRemoveTool name) = false := by
    simp only [State.cannot, State.can, Bool.not_eq_false']
    cases there : s.wrappers name with
    | none => rfl
    | some n => simp [restoring.files name List.mem_cons_self n there]
  refine Shell.Finishes.through _
    (fun after _ => after = (semantics d).next s ⟨.forceRemoveTool name, true⟩)
    (run_sure handling sure (by simp [trapOf]) rfl) ?_
  rintro s₁ _ rfl
  refine Shell.Finishes.bind _ (present_finds (.backup name) fun s' c _ plain => by simp [plain]) ?_
  rintro s₂ there ⟨same, found⟩
  have removed : s₂.wrappers = Function.update s.wrappers name none := congrArg View.wrappers same
  have backups : s₂.backups = s.backups := congrArg View.backups same
  have others : s₂.handling = s.handling ∧ s₂.committed = s.committed ∧ s₂.root = s.root ∧
      s₂.previous = s.previous ∧ s₂.oldManifest = s.oldManifest ∧ s₂.marker = s.marker :=
    ⟨congrArg View.handling same, congrArg View.committed same, congrArg View.root same,
      congrArg View.previous same, congrArg View.oldManifest same, congrArg View.marker same⟩
  have found : there = (s.backups name).isSome := by
    refine found.trans ?_
    simp [State.kind, semantics, State.run, State.wrap]
  refine finishes_whenever _ (fun yes => ?_) fun no => ?_
  · refine orExit_sure (others.1.trans handling) ?_ (by simp [trapOf]) ?_
    · simp [State.cannot, State.can, backups, ← found, yes]
    · refine restoring.step ?_ (fun other distinct => ?_) others
      · simp [semantics, State.run, State.wrap, State.view, removed, backups, kept]
      · simp [semantics, State.run, State.wrap, State.view, backups, Function.update_of_ne distinct]
  · refine restoring.step ?_ (fun other _ => congrFun backups other) others
    have nothing : layer.wrappers name = none := by
      rw [← kept]
      simpa using found.symm.trans no
    rw [nothing]
    exact removed

/-- The old layer again. -/
structure Restored (layer : Layer) (v : View) : Prop where
  handling : v.handling = true
  committed : v.committed = false
  previous : v.previous = none
  old : Old layer v

theorem Restoring.restored {v v' : View} (restoring : Restoring layer v [])
    (marker : v'.marker = layer.oldMarker) (handling : v'.handling = v.handling)
    (committed : v'.committed = v.committed) (previous : v'.previous = v.previous)
    (root : v'.root = v.root) (wrappers : v'.wrappers = v.wrappers) : Restored layer v' := by
  refine ⟨handling.trans restoring.handling, committed.trans restoring.committed,
    previous.trans restoring.previous, root.trans restoring.root, ?_, marker⟩
  rw [wrappers]
  funext name
  exact restoring.done name (by simp)

theorem restoreMarker_restores {ends : State → Nat → Prop} (restoring : Restoring layer s.view [])
    (removed : s.marker = none) :
    (unless_ (.testNot (.regular .oldManifest)) .restoreMarker).Finishes (unarmed d) ends
      (fun after _ => Restored layer after.view) s := by
  have manifest : s.oldManifest = layer.oldMarker := restoring.manifest
  have handling : s.handling = true := restoring.handling
  refine Shell.Finishes.bind _ (holds_sure (!layer.marker.isSome) handling rfl (by simp [trapOf]) ?_) ?_
  · simp only [State.can, State.cannot, State.may, State.mayNot, State.kind, manifest, Layer.oldMarker]
    cases layer.marker <;> simp [Marker.kind]
  rintro s₁ _ ⟨same, rfl⟩
  have manifest₁ : s₁.oldManifest = layer.oldMarker := (congrArg View.oldManifest same).trans manifest
  have handling₁ : s₁.handling = true := (congrArg View.handling same).trans handling
  rw [← same] at restoring
  refine finishes_whenever _ (fun yes => run_sure handling₁ ?_ (by simp [trapOf]) ?_) fun no => ?_
  · simp only [Bool.not_not] at yes
    simp [State.cannot, State.can, manifest₁, Layer.oldMarker, yes]
  · exact restoring.restored manifest₁ rfl rfl rfl rfl rfl
  · have absent : layer.oldMarker = none := by
      simpa [Layer.oldMarker] using no
    have removed₁ : s₁.marker = none := (congrArg View.marker same).trans removed
    exact restoring.restored (removed₁.trans absent.symm) rfl rfl rfl rfl rfl

theorem restoreWrappers_restores {ends : State → Nat → Prop} (rooted : Rooted layer s.view)
    (saved : Saved layer s.view) :
    restoreWrappers.Finishes (unarmed d) ends (fun after _ => Restored layer after.view) s := by
  have start : Restoring layer s.view wrapperNames :=
    ⟨rooted.handling, rooted.committed, rooted.root, rooted.previous, by decide +kernel,
      fun _ member => member, saved.backups, saved.files, saved.others, saved.manifest, saved.marker⟩
  refine Shell.Finishes.bind _ (finishes_forM _ (fun (after : State) rest =>
    Restoring layer after.view rest) start fun s name rest restoring =>
      restoreWrapper_restores restoring) ?_
  intro s _ restoring
  have handling : s.handling = true := restoring.handling
  have sure : s.cannot d .removeMarker = false := by
    have marker : s.marker = none ∨ ∃ content, s.marker = some (.text content) := restoring.marker
    obtain none | ⟨content, some⟩ := marker
    · simp [State.cannot, State.kind, none]
    · simp [State.cannot, State.kind, some, Marker.kind]
  refine Shell.Finishes.through _ (fun (after : State) _ => Restoring layer after.view [] ∧
    after.marker = none) (run_sure handling sure (by simp [trapOf]) ⟨?_, rfl⟩) fun s _ after =>
      restoreMarker_restores after.1 after.2
  exact ⟨restoring.handling, restoring.committed, restoring.root, restoring.previous, restoring.apart,
    restoring.inside, restoring.backups, restoring.files, restoring.done, restoring.manifest, .inl rfl⟩

theorem Rooted.restored {v : View} (rooted : Rooted layer v)
    (wrappers : v.wrappers = layer.wrappers)
    (marker : v.marker = layer.oldMarker) : Restored layer v :=
  ⟨rooted.handling, rooted.committed, rooted.previous, rooted.root, wrappers, marker⟩

theorem restore_restores {ends : State → Nat → Prop} (handling : s.handling = true)
    (committed : s.committed = false) (root : RootBack layer.root s.view)
    (wrappers : WrappersBack layer s.view) :
    Shell.Finishes (unarmed d) ends
      (do restoreRoot
          ifHolds (.set .wrappersChanged) restoreWrappers)
      (fun after _ => Restored layer after.view) s := by
  refine Shell.Finishes.bind _ (restoreRoot_roots handling committed root wrappers) ?_
  intro s _ rooted
  have handling : s.handling = true := rooted.handling
  cases rooted.wrappers with
  | untouched same marker unchanged =>
    refine ifHolds_sure s.wrappersChanged handling ⟨rfl, rfl⟩
      (fun changed => ?_) fun _ after still => ?_
    · have unchanged : s.wrappersChanged = false := unchanged
      rw [unchanged] at changed
      cases changed
    · rw [still]
      exact rooted.restored same marker
  | saved saved changed =>
    refine ifHolds_sure s.wrappersChanged handling ⟨rfl, rfl⟩
      (fun _ after still => ?_) fun unchanged => ?_
    · rw [← still] at rooted saved
      exact restoreWrappers_restores rooted saved
    · have changed : s.wrappersChanged = true := changed
      rw [changed] at unchanged
      cases unchanged

/-- The last commands of the cleanup: `$nextroot` and the lock are gone. -/
theorem unlock_ends {status : Nat} (handling : s.handling = true)
    (triple : Old layer s.view ∨ New d bundle layer s.view)
    (success : status = 0 → New d bundle layer s.view) (removed : s.previous = none) :
    Shell.Finishes (unarmed d) (Atomic d bundle layer)
      (do run .removeNext
          run .removeLock
          throw status : InstallShell Unit)
      (fun after _ => Atomic d bundle layer after 0) s := by
  refine Shell.Finishes.through _ (fun after _ => after = (semantics d).next s ⟨.removeNext, true⟩)
    (run_sure handling rfl (by simp [trapOf]) rfl) ?_
  rintro _ _ rfl
  refine Shell.Finishes.through _ (fun (after : State) _ => Atomic d bundle layer after status)
    (run_sure handling rfl (by simp [trapOf]) ⟨triple, success, rfl, removed⟩) ?_
  intro after _ atomic
  exact atomic

/-- From a state between two commands the cleanup leads to the old layer or the new one. -/
theorem cleanup_safe {status : Nat} (final : Final d bundle layer s status)
    (permitted : ¬Leftover s) : (cleanup status).Safe (unarmed d) (Atomic d bundle layer) s := by
  obtain ⟨⟨-, side⟩, success⟩ := final
  refine Shell.Finishes.program _ (Shell.Finishes.through _ (fun after _ =>
    after = (semantics d).next s ⟨.trapClear, true⟩) ?_ ?_)
  · refine (finishes_run _ _ _ s).mpr fun ok admitted => ?_
    cases ok with
    | false => cases admitted.2 rfl (.inr rfl)
    | true => exact ⟨fun _ => by simp [trapOf], rfl⟩
  rintro _ _ rfl
  refine Shell.Finishes.bind _ (holds_sure (!s.committed) rfl rfl (by simp [trapOf])
    ⟨rfl, (Bool.not_not _).symm⟩) ?_
  rintro s₁ _ ⟨same, rfl⟩
  have handling : s₁.handling = true := congrArg View.handling same
  have committed₁ : s₁.committed = s.committed := congrArg View.committed same
  obtain ⟨open_, root, wrappers⟩ | ⟨committed, new⟩ := side
  · have root₁ : RootBack layer.root s₁.view := by
      rw [same]
      exact root.copy rfl rfl rfl
    have wrappers₁ : WrappersBack layer s₁.view := by
      rw [same]
      exact wrappers.copy rfl rfl rfl rfl rfl
    have open_ : s.committed = false := open_
    refine Shell.Finishes.through _ (fun (after : State) _ => Restored layer after.view) ?_ ?_
    · refine finishes_whenever _ (fun _ => ?_) fun skipped => by simp [open_] at skipped
      exact restore_restores handling (committed₁.trans open_) root₁ wrappers₁
    · intro s₂ _ restored
      refine unlock_ends restored.handling (.inl restored.old) (fun zero => ?_) restored.previous
      rw [open_] at success
      cases success zero
  · have committed : s.committed = true := committed
    have removed : s.previous = none := by
      by_contra there
      exact permitted ⟨committed, Option.isSome_iff_ne_none.mpr there⟩
    refine Shell.Finishes.through _ (fun (after : State) _ => after.view = s₁.view) ?_ ?_
    · exact finishes_whenever _ (fun ran => by simp [committed] at ran) fun _ => rfl
    · intro s₂ _ same₂
      have new₂ : New d bundle layer s₂.view := by
        rw [same₂, same]
        exact new
      refine unlock_ends ((congrArg View.handling same₂).trans handling) (.inr new₂)
        (fun _ => new₂) ?_
      exact (congrArg View.previous (same₂.trans same)).trans removed

/-! Whole runs. -/

/-- Only the trap's own command sets it. -/
theorem armed_next {c : Command} {ok : Bool} (admitted : (semantics d).admits s ⟨c, ok⟩) :
    ((semantics d).next s ⟨c, ok⟩).armed = true ↔
      s.armed = true ∨ ∃ handler, trapOf c = some (.atExit handler) := by
  cases c with
  | trapExit =>
    cases ok with
    | false => cases admitted.2 rfl (.inr rfl)
    | true => exact iff_of_true rfl (.inr ⟨cleanup, rfl⟩)
  | assign flag =>
    refine armed_kept ?_ fun handler => by rintro ⟨⟩
    cases ok <;> cases flag <;> rfl
  | _ =>
    refine armed_kept ?_ fun handler => by rintro ⟨⟩
    cases ok <;> rfl

theorem may_or (condition : Condition) :
    s.may d condition = true ∨ s.mayNot d condition = true := by
  cases condition with
  | directory spot =>
    by_cases is : s.kind spot = some .directory <;> simp [State.may, State.mayNot, is]
  | regular spot =>
    by_cases is : s.kind spot = some .regular <;> simp [State.may, State.mayNot, is]
  | symlink spot => by_cases is : s.kind spot = some .link <;> simp [State.may, State.mayNot, is]
  | «exists» spot => cases is : s.kind spot <;> simp [State.may, State.mayNot, is]
  | executable name => cases is : s.may d (.executable name) <;> simp [State.mayNot, is]
  | readlink name => cases is : s.may d (.readlink name) <;> simp [State.mayNot, is]
  | set flag => cases is : s.flag flag <;> simp [State.may, State.mayNot, is]

/-- What cannot succeed fails of itself. -/
theorem cannot_of_can {c : Command} (not : s.can d c = false) : s.cannot d c = true := by
  cases c with
  | test condition => exact (may_or condition).resolve_left (by simpa [State.can] using not)
  | testNot condition => exact (may_or condition).resolve_right (by simpa [State.can] using not)
  | copyMarker => exact (may_or (.regular .marker)).resolve_left (by simpa [State.can] using not)
  | writeMarker => cases not
  | removeMarker => cases not
  | _ => simp only [State.cannot, not, Bool.not_false]

theorem can_admitted (d : Device) (s : State) (c : Command) :
    (semantics d).admits s ⟨c, s.can d c⟩ :=
  ⟨fun can => can, fun not _ => cannot_of_can not⟩

/-- An install whose trap is set leaves the old layer or the new one, the latter if it succeeds, and
neither the lock nor the old root beside the new. -/
theorem install_atomic (d : Device) (bundle : Bundle) (layer : Layer) (plain : layer.Plain)
    (lock : Bool)
    {process : Process Command} {s : State} {status : Nat}
    (run : Alone trapOf (semantics d) timely (Process.start (install bundle))
      (.initial layer.root layer.wrappers layer.oldMarker lock) process s)
    (armed : s.armed = true) (ended : process.result = some status) :
    Atomic d bundle layer s status := by
  have begun : Begun layer (State.initial layer.root layer.wrappers layer.oldMarker lock).view :=
    ⟨⟨rfl, rfl, rfl, rfl, ⟨rfl, rfl, rfl⟩, rfl⟩, rfl, rfl⟩
  have safe : (install bundle).program.Safe (watched d bundle layer)
      (fun s status => s.armed = true → Calm d bundle layer s ∧ Final d bundle layer s status)
      (.initial layer.root layer.wrappers layer.oldMarker lock) :=
    Prog.Safe.mono _ (install_final plain begun).program fun s status final _ =>
      ⟨fun _ => final.1, final⟩
  refine Course.of_result (run.course (fun s c ok => armed_next) (fun s c => ⟨_, can_admitted d s c⟩) ?_ ?_
    (.script safe (by simp [State.initial]) fun _ => rfl)) armed ended
  · rintro s process ⟨caught, inside, whole⟩
    exact ⟨caught, inside, fun calm => ⟨calm whole, by simp⟩⟩
  · exact fun s status _ final permitted => cleanup_safe final permitted

/-! A layer with `git` and `ssh`, on a device without one and over one that has an empty root. -/

def minimalBundle : Bundle where
  url := "http://172.16.42.2:8082/a1625-minimal-packages.tar.gz"
  hash := "00"
  packages := [⟨"git-2.52.0-r0.apk", "01"⟩]
  zramCommand := ":"

def device : Device where
  build _ n := n
  executable _ name := name = "ssh"
  toolScript := [1]
  gitScript := [2]
  manifest := "new"
  partRoot _ := none
  partWrapper _ := none
  partMarker _ := none
  notDirectory _ _ there := absurd there (by simp)

def noLayer : Layer := ⟨none, fun _ => none, none⟩

def emptyLayer : Layer := ⟨some (.directory 0o755 []), fun _ => none, some "old"⟩

def anytime : Interruptions Command State := ⟨fun _ => True, fun _ _ => True⟩

instance : DecidablePred anytime.exits := fun _ => inferInstanceAs (Decidable True)

/-- The first commands of an install over a layer. -/
def upTo (may : Interruptions Command State) [DecidablePred may.exits] (layer : Layer) (n : Nat) :
    Process Command × State :=
  advance trapOf (semantics device) may (State.can device) n
    (Process.start (install minimalBundle), .initial layer.root layer.wrappers layer.oldMarker false)

theorem upTo_alone (may : Interruptions Command State) [DecidablePred may.exits] (layer : Layer)
    (n : Nat) : Alone trapOf (semantics device) may (Process.start (install minimalBundle))
      (.initial layer.root layer.wrappers layer.oldMarker false) (upTo may layer n).1
      (upTo may layer n).2 :=
  .advance n (can_admitted device) .start

theorem reinstall_atomic :
    Atomic device minimalBundle emptyLayer (upTo timely emptyLayer 190).2 0 :=
  install_atomic device minimalBundle emptyLayer (fun _ there => by cases there) false
    (upTo_alone timely emptyLayer 190) (by decide +kernel) (by decide +kernel)

/-- A signal there, and the cleanup. -/
def interrupted (layer : Layer) (n : Nat) : Process Command × State :=
  advance trapOf (semantics device) anytime (State.can device) 20
    (⟨.done 130, (upTo anytime layer n).1.atExit, true⟩, (upTo anytime layer n).2)

theorem interrupted_alone (layer : Layer) (n : Nat)
    (caught : (upTo anytime layer n).1.caught = true) :
    Alone trapOf (semantics device) anytime (Process.start (install minimalBundle))
      (.initial layer.root layer.wrappers layer.oldMarker false)
      (interrupted layer n).1 (interrupted layer n).2 :=
  .advance 20 (can_admitted device) (.caught (upTo_alone anytime layer n) trivial caught)

/-- Another root comes with the marker of its layer. -/
theorem Atomic.marked {status : Nat} (atomic : Atomic d bundle layer s status)
    (other : s.root ≠ layer.root) : s.marker = some (.text d.manifest) := by
  obtain ⟨root, -⟩ | ⟨-, -, marker⟩ := atomic.triple
  · exact absurd root other
  · exact marker

/-- A signal behind the rename of a first root leaves it there without wrappers and marker; one
behind the commit leaves the old root there. -/
theorem interrupted_not_atomic :
    (Alone trapOf (semantics device) anytime (Process.start (install minimalBundle))
        (.initial noLayer.root noLayer.wrappers noLayer.oldMarker false)
        (interrupted noLayer 114).1 (interrupted noLayer 114).2 ∧
      (interrupted noLayer 114).2.armed = true ∧
      (interrupted noLayer 114).1.result = some 130 ∧
      ¬Atomic device minimalBundle noLayer (interrupted noLayer 114).2 130) ∧
    Alone trapOf (semantics device) anytime (Process.start (install minimalBundle))
        (.initial emptyLayer.root emptyLayer.wrappers emptyLayer.oldMarker false)
        (interrupted emptyLayer 178).1 (interrupted emptyLayer 178).2 ∧
      (interrupted emptyLayer 178).2.armed = true ∧
      (interrupted emptyLayer 178).1.result = some 130 ∧
      ¬Atomic device minimalBundle emptyLayer (interrupted emptyLayer 178).2 130 := by
  refine ⟨⟨interrupted_alone noLayer 114 (by decide +kernel), by decide +kernel, by decide +kernel,
    fun atomic => ?_⟩, interrupted_alone emptyLayer 178 (by decide +kernel), by decide +kernel,
      by decide +kernel, fun atomic => ?_⟩
  · have present : (interrupted noLayer 114).2.root.isSome = true := by decide +kernel
    have unmarked : (interrupted noLayer 114).2.marker = none := by decide +kernel
    have marked := atomic.marked fun absent : _ = none => by
      rw [absent] at present
      cases present
    rw [unmarked] at marked
    cases marked
  · have left : (interrupted emptyLayer 178).2.previous.isSome = true := by decide +kernel
    rw [atomic.removed] at left
    cases left

end WinBoot.InstallState
