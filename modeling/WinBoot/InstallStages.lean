import WinBoot.InstallState

/-! An install that fails or is terminated leaves the old root, wrappers and marker or the new ones,
where no signal falls between the first rename of a root and its variable and nothing stops the
removal of the old root after the commit. -/

namespace WinBoot.InstallState
open Interaction ShellProcess InstallScript FileTree

/-- What the install works on and what the cleanup reads. -/
structure View where
  root : Option Node
  previous : Option Node
  next : Option Node
  wrappers : String → Option Node
  backups : String → Option Node
  marker : Option Marker
  oldManifest : Option Marker
  committed : Bool
  rootChanged : Bool
  wrappersChanged : Bool
  handling : Bool

def State.view (s : State) : View :=
  ⟨s.root, s.previous, s.next, s.wrappers, s.backups, s.marker, s.oldManifest, s.committed,
    s.rootChanged, s.wrappersChanged, s.handling⟩

/-- The layer before the install. -/
structure Layer where
  root : Option Node
  wrappers : String → Option Node
  marker : Option String

def Layer.oldMarker (layer : Layer) : Option Marker := layer.marker.map .text

/-- `a1625-git` is a file, if there is one. -/
def Layer.Plain (layer : Layer) : Prop :=
  ∀ n, layer.wrappers "a1625-git" = some n → n.isFile = true

def Old (layer : Layer) (v : View) : Prop :=
  v.root = layer.root ∧ v.wrappers = layer.wrappers ∧ v.marker = layer.oldMarker

def New (d : Device) (bundle : Bundle) (layer : Layer) (v : View) : Prop :=
  v.root = some (newRoot d bundle) ∧ v.wrappers = newWrappers d bundle layer.wrappers ∧
    v.marker = some (.text d.manifest)

/-- What an install promises on exit. -/
structure Atomic (d : Device) (bundle : Bundle) (layer : Layer) (s : State) (status : Nat) :
    Prop where
  triple : Old layer s.view ∨ New d bundle layer s.view
  success : status = 0 → New d bundle layer s.view
  unlocked : s.lock = false
  removed : s.previous = none

/-- The first root is in place, and its variable is not set yet. -/
def Torn (s : State) : Prop := s.last = some ⟨.moveNext, true⟩ ∧ s.previous = none

/-- The old root is still there after the commit, and the cleanup would not remove it. -/
def Leftover (s : State) : Prop := s.committed = true ∧ s.previous.isSome = true

instance (s : State) : Decidable (Leftover s) := instDecidableAnd

/-- Signals that arrive once they are trapped, before the cleanup begins and not between a first
root and its variable; no cleanup that would leave the old root behind. -/
def timely : Interruptions Command State where
  exits s := ¬Leftover s
  signals s process := process.caught = true ∧ process.atExit ≠ none ∧ ¬Torn s

instance : DecidablePred timely.exits := fun s => inferInstanceAs (Decidable ¬Leftover s)

/-- How the cleanup finds the old root. -/
inductive RootBack (root : Option Node) (v : View) : Prop
  | untouched (previous : v.previous = none) (same : v.root = root)
    (unchanged : v.rootChanged = false)
  | aside (n : Node) (old : root = some n) (directory : n.isDirectory = true)
    (previous : v.previous = some n)
  | fresh (absent : root = none) (previous : v.previous = none) (changed : v.rootChanged = true)

theorem RootBack.copy {root : Option Node} {v v' : View} (back : RootBack root v)
    (same : v'.root = v.root) (previous : v'.previous = v.previous)
    (changed : v'.rootChanged = v.rootChanged) : RootBack root v' := by
  cases back with
  | untouched aside old unchanged =>
    exact .untouched (previous.trans aside) (same.trans old) (changed.trans unchanged)
  | aside n old directory set => exact .aside n old directory (previous.trans set)
  | fresh absent aside new => exact .fresh absent (previous.trans aside) (changed.trans new)

/-- The wrappers and the marker can be brought back from the lock directory. -/
structure Saved (layer : Layer) (v : View) : Prop where
  backups : ∀ name ∈ wrapperNames, v.backups name = layer.wrappers name
  others : ∀ name, name ∉ wrapperNames → v.wrappers name = layer.wrappers name
  files : ∀ name ∈ wrapperNames, ∀ n, v.wrappers name = some n → n.isDirectory = false
  manifest : v.oldManifest = layer.oldMarker
  marker : v.marker = none ∨ ∃ content, v.marker = some (.text content)

theorem Saved.copy {layer : Layer} {v v' : View} (saved : Saved layer v)
    (wrappers : v'.wrappers = v.wrappers) (backups : v'.backups = v.backups)
    (marker : v'.marker = v.marker) (manifest : v'.oldManifest = v.oldManifest) :
    Saved layer v' := by
  refine ⟨?_, ?_, ?_, manifest.trans saved.manifest, ?_⟩
  · simpa only [backups] using saved.backups
  · simpa only [wrappers] using saved.others
  · simpa only [wrappers] using saved.files
  · simpa only [marker] using saved.marker

inductive WrappersBack (layer : Layer) (v : View) : Prop
  | untouched (same : v.wrappers = layer.wrappers) (marker : v.marker = layer.oldMarker)
    (unchanged : v.wrappersChanged = false)
  | saved (saved : Saved layer v) (changed : v.wrappersChanged = true)

/-- The cleanup leads to the old layer or the new one from here. -/
structure Mendable (d : Device) (bundle : Bundle) (layer : Layer) (v : View) : Prop where
  handling : v.handling = false
  side : v.committed = false ∧ RootBack layer.root v ∧ WrappersBack layer v ∨
    v.committed = true ∧ New d bundle layer v

def Calm (d : Device) (bundle : Bundle) (layer : Layer) (s : State) : Prop :=
  ¬Torn s → Mendable d bundle layer s.view

def Final (d : Device) (bundle : Bundle) (layer : Layer) (s : State) (status : Nat) : Prop :=
  Mendable d bundle layer s.view ∧ (status = 0 → s.committed = true)

abbrev watched (d : Device) (bundle : Bundle) (layer : Layer) :
    Monitor Command (fun _ => Bool) State :=
  guarding (semantics d) (Between trapOf cleanup (fun s => s.armed = true) (Calm d bundle layer))

abbrev Leads (d : Device) (bundle : Bundle) (layer : Layer) (p : InstallShell Unit)
    (post : View → Prop) (s : State) : Prop :=
  p.Finishes (watched d bundle layer) (Final d bundle layer) (fun after _ => post after.view) s

variable {d : Device} {bundle : Bundle} {layer : Layer} {s : State}

/-- The commands that the script itself uses. -/
theorem traps_of_script {c : Command} (other : c ≠ .trapClear) (trap : Trap Command)
    (does : trapOf c = some trap) : trap = .signals ∨ trap = .atExit cleanup := by
  cases c with
  | trapExit => exact .inr (Option.some.inj does).symm
  | trapSignals => exact .inl (Option.some.inj does).symm
  | trapClear => exact absurd rfl other
  | _ => cases does

section Steps

variable {post : State → Unit → Prop} {c : Command}

/-- One command of the script, between states that the cleanup can mend. -/
theorem run_step (mend : Mendable d bundle layer s.view)
    (fails : Mendable d bundle layer ((semantics d).next s ⟨c, false⟩).view)
    (works : s.can d c = true → post ((semantics d).next s ⟨c, true⟩) ())
    (other : c ≠ .trapClear := by simp) :
    (run c).Finishes (watched d bundle layer) (Final d bundle layer) post s := by
  refine (finishes_run _ c _ s).mpr fun ok admitted => ?_
  refine ⟨⟨fun _ _ => mend, traps_of_script other⟩, ?_⟩
  cases ok with
  | false => exact ⟨fails, by simp⟩
  | true => exact works (admitted.1 rfl)

/-- A variable is set, also between a rename and what follows it. -/
theorem run_assign {flag : Flag} (calm : Calm d bundle layer s)
    (works : post ((semantics d).next s ⟨.assign flag, true⟩) ()) :
    (run (Command.assign flag)).Finishes (watched d bundle layer)
    (Final d bundle layer) post s := by
  refine (finishes_run _ _ _ s).mpr fun ok admitted => ?_
  refine ⟨⟨fun _ => calm, by simp [trapOf]⟩, ?_⟩
  cases ok with
  | false => cases admitted.2 rfl (.inr rfl)
  | true => exact works

end Steps

/-- Commands that change nothing of what the install works on. -/
def quiet : Command → Bool
  | .guard _ | .test _ | .testNot _ | .trapExit | .trapSignals | .measureFree | .testSpace => true
  | .makeBackup | .layer _ => true
  | _ => false

theorem quiet_view {c : Command} (still : quiet c) (ok : Bool) :
    ((semantics d).next s ⟨c, ok⟩).view = s.view := by
  cases c with
  | _ => first | (cases ok <;> rfl) | cases still

theorem run_quiet {c : Command} (mend : Mendable d bundle layer s.view) (still : quiet c) :
    (run c).Finishes (watched d bundle layer) (Final d bundle layer)
      (fun after _ => after.view = s.view ∧ s.can d c = true) s := by
  refine run_step mend ?_ (fun can => ⟨quiet_view still true, can⟩) ?_
  · rwa [quiet_view still]
  · rintro rfl
    cases still

theorem kind_congr {s' : State} (same : s'.view = s.view) (spot : Spot) :
    s'.kind spot = s.kind spot := by
  cases spot with
  | root => exact congrArg (fun v => v.root.map kindOf) same
  | previous => exact congrArg (fun v => v.previous.map kindOf) same
  | tool name => exact congrArg (fun v => (v.wrappers name).map kindOf) same
  | backup name => exact congrArg (fun v => (v.backups name).map kindOf) same
  | marker => exact congrArg (fun v => v.marker.map Marker.kind) same
  | oldManifest => exact congrArg (fun v => v.oldManifest.map Marker.kind) same

section Tests

variable {B : State → Command → Prop} {ends : State → Nat → Prop}

/-- A test that the script takes for an answer is one. -/
theorem test_finds {condition : Condition} (boundary : B s (.test condition)) :
    Shell.Finishes (guarding (semantics d) B) ends (holds (.test condition))
      (fun after ok => after.view = s.view ∧ (ok = true → s.may d condition = true) ∧
        (ok = false → s.mayNot d condition = true)) s := by
  refine (finishes_holds _ _ _ s).mpr fun ok admitted => ⟨boundary, ?_, admitted.1, fun no => ?_⟩
  · exact quiet_view rfl ok
  · exact admitted.2 no (.inr rfl)

theorem present_finds (spot : Spot)
    (boundary : ∀ (s' : State) (c : Command), s'.view = s.view → trapOf c = none → B s' c) :
    Shell.Finishes (guarding (semantics d) B) ends (present spot)
      (fun after there => after.view = s.view ∧ there = (s.kind spot).isSome) s := by
  refine Shell.Finishes.bind _ (test_finds (boundary s _ rfl rfl)) ?_
  rintro s₁ found ⟨same, yes, no⟩
  cases found with
  | true => exact ⟨same, (yes rfl).symm⟩
  | false =>
    refine Shell.Finishes.mono _ (test_finds (boundary s₁ _ same rfl)) ?_
    rintro s₂ link ⟨same', yes', no'⟩
    refine ⟨same'.trans same, ?_⟩
    have missing := no rfl
    simp only [State.mayNot, Bool.or_eq_true, decide_eq_true_eq, Option.isNone_iff_eq_none] at missing
    cases link with
    | true =>
      have kind := yes' rfl
      simp only [State.may, decide_eq_true_eq, kind_congr same] at kind
      simp [kind]
    | false =>
      have kind := no' rfl
      simp only [State.mayNot, decide_eq_true_eq, kind_congr same] at kind
      simp [missing.resolve_right kind]

end Tests

theorem between (mend : Mendable d bundle layer s.view) (s' : State) (c : Command)
    (same : s'.view = s.view) (plain : trapOf c = none) :
    Between trapOf cleanup (fun s => s.armed = true) (Calm d bundle layer) s' c :=
  ⟨fun _ _ => same ▸ mend, by simp [plain]⟩

/-! Up to the first rename. -/

structure Untouched (layer : Layer) (v : View) : Prop where
  root : v.root = layer.root
  previous : v.previous = none
  wrappers : v.wrappers = layer.wrappers
  marker : v.marker = layer.oldMarker
  flags : v.committed = false ∧ v.rootChanged = false ∧ v.wrappersChanged = false
  handling : v.handling = false

theorem Untouched.mendable {v : View} (untouched : Untouched layer v) :
    Mendable d bundle layer v := by
  obtain ⟨root, previous, wrappers, marker, ⟨committed, rootChanged, wrappersChanged⟩, handling⟩ :=
    untouched
  exact ⟨handling, .inl ⟨committed, .untouched previous root rootChanged,
    .untouched wrappers marker wrappersChanged⟩⟩

/-- Commands that keep to the lock directory and to `$nextroot`. -/
def prepares : Command → Bool
  | .makeLock | .makeNext | .backUp _ | .copyMarker | .build _ => true
  | c => quiet c

theorem Untouched.next {c : Command} (untouched : Untouched layer s.view) (keeps : prepares c)
    (ok : Bool) : Untouched layer ((semantics d).next s ⟨c, ok⟩).view := by
  obtain ⟨root, previous, wrappers, marker, flags, handling⟩ := untouched
  cases c with
  | _ =>
      first | (cases ok <;> exact ⟨root, previous, wrappers, marker, flags, handling⟩) | cases keeps

theorem run_untouched {post : State → Unit → Prop} {c : Command}
    (untouched : Untouched layer s.view) (keeps : prepares c)
    (works : Untouched layer ((semantics d).next s ⟨c, true⟩).view →
      s.can d c = true → post ((semantics d).next s ⟨c, true⟩) ()) :
    (run c).Finishes (watched d bundle layer) (Final d bundle layer) post s := by
  refine run_step untouched.mendable (untouched.next keeps false).mendable
    (works (untouched.next keeps true)) ?_
  rintro rfl
  cases keeps

/-- The backups have come so far. -/
structure Backing (layer : Layer) (v : View)
    (rest : List String) : Prop extends Untouched layer v where
  apart : rest.Nodup
  waiting : ∀ name ∈ rest, v.backups name = none
  done : ∀ name ∈ wrapperNames, name ∉ rest → v.backups name = layer.wrappers name ∧
    ∀ n, layer.wrappers name = some n → n.isDirectory = false
  manifest : v.oldManifest = none
  next : v.next = some (.directory 0o755 [])

theorem kindOf_directory (n : Node) : kindOf n = .directory ↔ n.isDirectory = true := by
  cases n <;> simp [kindOf, Node.isDirectory]

theorem Backing.step {v v' : View} {name : String} {rest : List String}
    (backing : Backing layer v (name :: rest)) (untouched : Untouched layer v')
    (file : ∀ n, layer.wrappers name = some n → n.isDirectory = false)
    (backups : v'.backups = Function.update v.backups name (layer.wrappers name))
    (manifest : v'.oldManifest = v.oldManifest) (next : v'.next = v.next) :
    Backing layer v' rest := by
  obtain ⟨fresh, apart⟩ := List.nodup_cons.mp backing.apart
  refine ⟨untouched, apart, fun other member => ?_, fun other member out => ?_,
    manifest.trans backing.manifest, next.trans backing.next⟩
  · have distinct : other ≠ name := fun same => fresh (same ▸ member)
    rw [backups, Function.update_of_ne distinct]
    exact backing.waiting other (List.mem_cons_of_mem _ member)
  · by_cases same : other = name
    · subst same
      exact ⟨by rw [backups, Function.update_self], file⟩
    · rw [backups, Function.update_of_ne same]
      exact backing.done other member (by simp [same, out])

theorem backUpTool_backs {name : String} {rest : List String}
    (backing : Backing layer s.view (name :: rest)) :
    Leads d bundle layer (backUpTool name) (fun v => Backing layer v rest) s := by
  have mend : Mendable d bundle layer s.view := backing.mendable
  have wrapper : s.wrappers name = layer.wrappers name := congrFun backing.wrappers name
  refine Shell.Finishes.through _ (fun after _ => after.view = s.view ∧
    ∀ n, layer.wrappers name = some n → n.isDirectory = false)
    (Shell.Finishes.mono _ (run_quiet mend rfl) ?_) ?_
  · rintro after - ⟨same, kind⟩
    refine ⟨same, fun n there => ?_⟩
    simp only [State.can, State.mayNot, State.kind, wrapper, there] at kind
    simpa [kindOf_directory] using kind
  rintro s₁ _ ⟨same₁, file⟩
  rw [← same₁] at mend backing
  refine Shell.Finishes.bind _ (present_finds (.tool name) (between mend)) ?_
  rintro s₂ there ⟨same₂, found⟩
  have backing₂ := backing
  rw [← same₂] at mend backing₂
  refine finishes_whenever _ (fun _ => run_untouched backing₂.toUntouched rfl fun untouched _ => ?_)
    fun absent => ?_
  · refine backing₂.step untouched file ?_ rfl rfl
    rw [← congrFun backing₂.wrappers name]
    rfl
  · refine backing₂.step backing₂.toUntouched file ?_ rfl rfl
    have nothing : layer.wrappers name = none := by
      rw [← congrFun backing.wrappers name]
      simpa [State.kind, State.view] using found.symm.trans absent
    rw [nothing, ← backing₂.waiting name (by simp), Function.update_eq_self]

/-- A quiet command keeps whatever is said of the view. -/
theorem run_keeps {c : Command} (holds : View → Prop) (here : holds s.view)
    (mend : Mendable d bundle layer s.view) (still : quiet c) :
    Leads d bundle layer (run c) holds s := by
  refine Shell.Finishes.mono _ (run_quiet mend still) ?_
  rintro after - ⟨same, -⟩
  rwa [same]

/-- Nothing has been set aside yet. -/
structure Begun (layer : Layer) (v : View) : Prop extends Untouched layer v where
  backups : v.backups = fun _ => none
  manifest : v.oldManifest = none

theorem guards_begun (begun : Begun layer s.view) :
    Leads d bundle layer guards
      (fun v => Begun layer v ∧ ∀ target, layer.root ≠ some (.link target)) s := by
  refine Shell.Finishes.bind _ (finishes_forM _ (fun (after : State) _ => Begun layer after.view) begun
    fun s line rest begun => run_keeps (Begun layer) begun begun.mendable rfl) ?_
  intro s _ begun
  refine Shell.Finishes.bind _ (run_quiet begun.mendable rfl) ?_
  rintro s' _ ⟨same, can⟩
  have plain (target : String) : layer.root ≠ some (.link target) := by
    intro link
    have root := begun.root.trans link
    simp only [State.view] at root
    simp [State.can, State.mayNot, State.kind, root, kindOf] at can
  rw [← same] at begun
  refine Shell.Finishes.bind _ (run_keeps (Begun layer) begun begun.mendable rfl) fun s _ begun => ?_
  refine Shell.Finishes.bind _ (run_keeps (Begun layer) begun begun.mendable rfl) fun s _ begun => ?_
  exact run_keeps (fun v => Begun layer v ∧ _) ⟨begun, plain⟩ begun.mendable rfl

/-- The layer can be brought back from here on, whatever is done to it. -/
structure Prepared (layer : Layer) (v : View) (next : Node) : Prop extends Untouched layer v where
  saved : Saved layer v
  next : v.next = some next

theorem Backing.prepared {v v' : View} (backing : Backing layer v [])
    (untouched : Untouched layer v')
    (backups : v'.backups = v.backups) (manifest : v'.oldManifest = layer.oldMarker)
    (next : v'.next = v.next) : Prepared layer v' (.directory 0o755 []) := by
  refine ⟨untouched, ⟨fun name member => ?_, fun name _ => congrFun untouched.wrappers name,
    fun name member n there => ?_, manifest, ?_⟩, next.trans backing.next⟩
  · rw [backups]
    exact (backing.done name member (by simp)).1
  · rw [untouched.wrappers] at there
    exact (backing.done name member (by simp)).2 n there
  · rw [untouched.marker, Layer.oldMarker]
    cases layer.marker <;> simp

theorem holds_keeps {c : Command} (mend : Mendable d bundle layer s.view) (still : quiet c)
    (plain : trapOf c = none) :
    Shell.Finishes (watched d bundle layer) (Final d bundle layer) (holds c)
      (fun after ok => after.view = s.view ∧ (semantics d).admits s ⟨c, ok⟩) s :=
  (finishes_holds _ _ _ s).mpr fun ok admitted =>
    ⟨between mend s c rfl plain, quiet_view still ok, admitted⟩

theorem copyMarker_prepared (backing : Backing layer s.view []) :
    Leads d bundle layer (unless_ (.testNot (.regular .marker)) .copyMarker)
      (fun v => Prepared layer v (.directory 0o755 [])) s := by
  have marker : s.marker = layer.marker.map .text := backing.marker
  refine Shell.Finishes.bind _ (holds_keeps backing.mendable rfl rfl) ?_
  rintro s' ok ⟨same, answer⟩
  have marker' : s'.marker = layer.marker.map .text := (congrArg View.marker same).trans marker
  rw [← same] at backing
  refine finishes_whenever _ (fun _ => run_untouched backing.toUntouched rfl fun untouched can => ?_)
    fun skipped => backing.prepared backing.toUntouched rfl ?_ rfl
  · refine backing.prepared untouched rfl ?_ rfl
    simp only [State.can, State.may, State.kind, marker'] at can
    cases found : layer.marker with
    | none => simp [found] at can
    | some content => simp [semantics, State.run, State.view, marker', found, Layer.oldMarker]
  · have absent := answer.1 (by simpa using skipped)
    simp only [State.can, State.mayNot, State.kind, marker] at absent
    rw [backing.manifest, Layer.oldMarker]
    cases found : layer.marker with
    | none => rfl
    | some content => simp [found, Marker.kind] at absent

theorem prepare_prepared (begun : Begun layer s.view) :
    Leads d bundle layer prepare (fun v => Prepared layer v (.directory 0o755 [])) s := by
  refine Shell.Finishes.bind _ (run_keeps (Begun layer) begun begun.mendable rfl) fun s _ begun => ?_
  refine Shell.Finishes.bind _ (run_keeps (Begun layer) begun begun.mendable rfl) fun s _ begun => ?_
  refine Shell.Finishes.through _ (fun after _ => Begun layer after.view ∧
    after.view.next = some (.directory 0o755 []))
    (run_untouched begun.toUntouched rfl fun untouched _ =>
      ⟨⟨untouched, begun.backups, begun.manifest⟩, rfl⟩) ?_
  rintro s _ ⟨begun, next⟩
  refine Shell.Finishes.bind _ (run_keeps
    (fun v => Begun layer v ∧ v.next = some (.directory 0o755 [])) ⟨begun, next⟩ begun.mendable rfl) ?_
  rintro s _ ⟨begun, next⟩
  have backing : Backing layer s.view wrapperNames :=
    ⟨begun.toUntouched, by decide +kernel, fun name _ => congrFun begun.backups name,
      fun name member out => absurd member out, begun.manifest, next⟩
  refine Shell.Finishes.bind _ (finishes_forM _ (fun (after : State) rest => Backing layer after.view rest)
    backing fun s name rest backing => backUpTool_backs backing) ?_
  exact fun s _ backing => copyMarker_prepared backing

theorem fetch_prepared {next : Node} (prepared : Prepared layer s.view next) :
    Leads d bundle layer (fetch bundle) (fun v => Prepared layer v next) s := by
  refine Shell.Finishes.bind _ (finishes_forM _ (fun (after : State) _ => Prepared layer after.view next)
    prepared fun s line rest prepared =>
      run_keeps (Prepared layer · next) prepared prepared.mendable rfl) ?_
  intro s _ prepared
  exact finishes_forM _ (fun (after : State) _ => Prepared layer after.view next) prepared
    fun s package rest prepared => run_keeps (Prepared layer · next) prepared prepared.mendable rfl

theorem build_prepared (prepared : Prepared layer s.view (.directory 0o755 [])) :
    Leads d bundle layer ((buildLines bundle).forM fun line => run (.build line))
      (fun v => Prepared layer v (newRoot d bundle)) s := by
  refine Shell.Finishes.mono _ (finishes_forM _ (fun (after : State) rest => ∃ next,
    Prepared layer after.view next ∧ rest.foldl (fun n line => d.build line n) next =
      newRoot d bundle) ⟨_, prepared, rfl⟩ ?_) ?_
  · rintro s line rest ⟨next, prepared, built⟩
    refine run_untouched prepared.toUntouched rfl fun untouched _ =>
      ⟨d.build line next, ⟨untouched, ?_, ?_⟩, built⟩
    · exact ⟨prepared.saved.backups, prepared.saved.others, prepared.saved.files,
        prepared.saved.manifest, prepared.saved.marker⟩
    · have here : s.next = some next := prepared.next
      simp [semantics, State.run, State.view, here]
  · rintro s _ ⟨next, prepared, rfl⟩
    exact prepared

/-! The exchange of the root. -/

/-- The wrappers and the marker are as they were, and saved. -/
structure Outside (layer : Layer) (v : View) : Prop where
  wrappers : v.wrappers = layer.wrappers
  marker : v.marker = layer.oldMarker
  saved : Saved layer v
  committed : v.committed = false
  unchanged : v.wrappersChanged = false
  handling : v.handling = false

theorem Outside.copy {v v' : View} (outside : Outside layer v)
    (wrappers : v'.wrappers = v.wrappers := by rfl) (backups : v'.backups = v.backups := by rfl)
    (marker : v'.marker = v.marker := by rfl)
    (manifest : v'.oldManifest = v.oldManifest := by rfl)
    (committed : v'.committed = v.committed := by rfl)
    (unchanged : v'.wrappersChanged = v.wrappersChanged := by rfl)
    (handling : v'.handling = v.handling := by rfl) : Outside layer v' := by
  obtain ⟨sameWrappers, sameMarker, saved, open_, old, apart⟩ := outside
  exact ⟨wrappers.trans sameWrappers, marker.trans sameMarker,
    saved.copy wrappers backups marker manifest, committed.trans open_, unchanged.trans old,
    handling.trans apart⟩

theorem Outside.mendable {v : View} (outside : Outside layer v) (back : RootBack layer.root v) :
    Mendable d bundle layer v :=
  ⟨outside.handling, .inl ⟨outside.committed, back,
    .untouched outside.wrappers outside.marker outside.unchanged⟩⟩

/-- The old root has been set aside, or there was no directory. -/
inductive Aside (layer : Layer) (v : View) : Prop
  | moved (n : Node) (old : layer.root = some n) (directory : n.isDirectory = true)
    (previous : v.previous = some n) (root : v.root = none)
  | stays (root : v.root = layer.root) (previous : v.previous = none)
    (unchanged : v.rootChanged = false) (file : ∀ n, layer.root = some n → n.isDirectory = false)

theorem Aside.back {v : View} (aside : Aside layer v) : RootBack layer.root v := by
  cases aside with
  | moved n old directory previous _ => exact .aside n old directory previous
  | stays root previous unchanged _ => exact .untouched previous root unchanged

theorem Prepared.outside {v : View} {next : Node} (prepared : Prepared layer v next) :
    Outside layer v :=
  ⟨prepared.wrappers, prepared.marker, prepared.saved, prepared.flags.1, prepared.flags.2.2,
    prepared.handling⟩

theorem movePrevious_aside (plain : ∀ target, layer.root ≠ some (.link target))
    (prepared : Prepared layer s.view (newRoot d bundle)) :
    Leads d bundle layer (unless_ (.testNot (.directory .root)) .movePrevious)
      (fun v => Outside layer v ∧ Aside layer v ∧ v.next = some (newRoot d bundle)) s := by
  have root : s.root = layer.root := prepared.root
  refine Shell.Finishes.bind _ (holds_keeps prepared.mendable rfl rfl) ?_
  rintro s' ok ⟨same, answer, reliable⟩
  have root' : s'.root = layer.root := (congrArg View.root same).trans root
  rw [← same] at prepared
  refine finishes_whenever _ (fun ran => run_step prepared.mendable prepared.mendable fun can => ?_)
    fun skipped => ⟨prepared.outside, .stays root' prepared.previous prepared.flags.2.1 ?_,
      prepared.next⟩
  · obtain ⟨n, old⟩ : ∃ n, layer.root = some n := by
      simp only [State.can, Bool.and_eq_true, root'] at can
      exact Option.isSome_iff_exists.mp can.1
    have found := reliable (by simpa using ran) (.inr rfl)
    have directory : n.isDirectory = true := by
      simp only [State.cannot, State.may, State.kind, root, old] at found
      cases n with
      | link target => exact absurd old (plain target)
      | directory => rfl
      | _ => simp [kindOf] at found
    have previous : s'.previous = none := prepared.previous
    refine ⟨prepared.outside.copy, .moved n old directory ?_ rfl, prepared.next⟩
    simp [semantics, State.run, State.view, root', old, previous, Node.placed]
  · intro n old
    have other := answer (by simpa using skipped)
    simp only [State.can, State.mayNot, State.kind, root, old] at other
    simpa [kindOf_directory] using other

/-- The new root is in place. -/
structure Placed (d : Device) (bundle : Bundle) (layer : Layer) (v : View) : Prop
    extends Outside layer v where
  root : v.root = some (newRoot d bundle)
  back : RootBack layer.root v

theorem exchangeRoot_placed (plain : ∀ target, layer.root ≠ some (.link target))
    (prepared : Prepared layer s.view (newRoot d bundle)) :
    Leads d bundle layer exchangeRoot (Placed d bundle layer) s := by
  refine Shell.Finishes.bind _ (movePrevious_aside plain prepared) ?_
  rintro s _ ⟨outside, aside, next⟩
  have mend : Mendable d bundle layer s.view := outside.mendable aside.back
  have next : s.next = some (newRoot d bundle) := next
  refine Shell.Finishes.through _ (fun (after : State) _ => Outside layer after.view ∧
    after.root = some (newRoot d bundle) ∧
      ((∃ n, layer.root = some n ∧ n.isDirectory = true ∧ after.previous = some n) ∨
        layer.root = none ∧ Torn after))
    (run_step mend mend fun can => ?_) ?_
  · have free : s.root = none := by
      cases aside with
      | moved _ _ _ _ root => exact root
      | stays root _ _ file =>
        simp only [State.can, Bool.and_eq_true] at can
        cases here : s.root with
        | none => rfl
        | some n =>
          have other := file n (root.symm.trans here)
          simp [here, other] at can
    refine ⟨outside.copy, by simp [semantics, State.run, next, free, Node.placed], ?_⟩
    cases aside with
    | moved n old directory previous _ => exact .inl ⟨n, old, directory, previous⟩
    | stays root previous _ _ => exact .inr ⟨root.symm.trans free, rfl, previous⟩
  rintro s _ ⟨outside, root, side⟩
  refine run_assign (fun whole => ?_) ?_
  · obtain ⟨n, old, directory, previous⟩ | ⟨-, torn⟩ := side
    · exact outside.mendable (.aside n old directory previous)
    · exact absurd torn whole
  · refine ⟨outside.copy, root, ?_⟩
    obtain ⟨n, old, directory, previous⟩ | ⟨old, -, previous⟩ := side
    · exact .aside n old directory previous
    · exact .fresh old previous rfl

/-! The wrappers. -/

/-- The new root is in place, and these are the wrappers now. -/
structure Changing (d : Device) (bundle : Bundle) (layer : Layer) (wrappers : String → Option Node)
    (v : View) : Prop where
  root : v.root = some (newRoot d bundle)
  back : RootBack layer.root v
  wrappers : v.wrappers = wrappers
  saved : Saved layer v
  marker : v.marker = layer.oldMarker
  committed : v.committed = false
  changed : v.wrappersChanged = true
  handling : v.handling = false

variable {wrappers : String → Option Node}

theorem Changing.mendable {v : View} (changing : Changing d bundle layer wrappers v) :
    Mendable d bundle layer v :=
  ⟨changing.handling, .inl ⟨changing.committed, changing.back,
    .saved changing.saved changing.changed⟩⟩

/-- Another wrapper in one place: the backups stay. -/
theorem Changing.wrap {last : Option InstallEvent} {name : String} {n : Option Node}
    (changing : Changing d bundle layer wrappers s.view) (member : name ∈ wrapperNames)
    (file : ∀ m, n = some m → m.isDirectory = false) :
    Changing d bundle layer (Function.update wrappers name n)
      ({ s.wrap name n with last := last } : State).view := by
  obtain ⟨root, back, same, ⟨backups, others, files, manifest, plain⟩, marker, committed, changed,
    handling⟩ := changing
  have same : s.wrappers = wrappers := same
  subst same
  refine ⟨root, back.copy rfl rfl rfl, rfl, ⟨backups, fun other out => ?_,
    fun other inside m there => ?_, manifest, plain⟩, marker, committed, changed, handling⟩
  · have apart : other ≠ name := fun equal => out (equal ▸ member)
    simpa [State.view, State.wrap, Function.update_of_ne apart] using others other out
  · by_cases equal : other = name
    · subst equal
      exact file m (by simpa [State.view, State.wrap] using there)
    · refine files other inside m ?_
      simpa [State.view, State.wrap, Function.update_of_ne equal] using there

theorem Changing.file {name : String} {m : Node}
    (changing : Changing d bundle layer wrappers s.view) (member : name ∈ wrapperNames)
    (there : wrappers name = some m) : m.isDirectory = false :=
  changing.saved.files name member m ((congrFun changing.wrappers name).trans there)

/-- A command that writes one wrapper. -/
theorem wrap_step {c : Command} {name : String} {n part : Option Node}
    (changing : Changing d bundle layer wrappers s.view) (member : name ∈ wrapperNames)
    (file : ∀ m, n = some m → m.isDirectory = false)
    (filePart : ∀ m, part = some m → m.isDirectory = false) (plain : c ≠ .trapClear)
    (works : s.run d c = s.wrap name n) (fails : s.fail d c = s.wrap name part) :
    Leads d bundle layer (run c)
      (Changing d bundle layer (Function.update wrappers name n)) s := by
  refine run_step changing.mendable ?_ (fun _ => ?_) plain
  · simp only [semantics, Bool.false_eq_true, if_false, fails]
    exact (changing.wrap member filePart).mendable
  · simp only [semantics, if_true, works]
    exact changing.wrap member file

theorem linked_wrapper (name : String) (member : name ∈ linkedNames) :
    name ∈ wrapperNames ∧ name ≠ "a1625-tool" ∧ name ≠ "a1625-git" ∧ name ≠ "git" := by
  have all : linkedNames.all fun name => decide (name ∈ wrapperNames ∧ name ≠ "a1625-tool" ∧
      name ≠ "a1625-git" ∧ name ≠ "git") := by decide +kernel
  exact of_decide_eq_true (List.all_eq_true.mp all name member)

theorem linkWrapper_changes {name : String} (member : name ∈ linkedNames)
    (changing : Changing d bundle layer wrappers s.view)
    (old : wrappers name = layer.wrappers name) :
    Leads d bundle layer (linkWrapper name) (Changing d bundle layer
      (Function.update wrappers name (newWrappers d bundle layer.wrappers name))) s := by
  obtain ⟨inside, notTool, notScript, notGit⟩ := linked_wrapper name member
  have new : newWrappers d bundle layer.wrappers name =
      if d.executable (newRoot d bundle) name then some (.link "/opt/bin/a1625-tool")
      else (layer.wrappers name).filter (!isStale ·) := by
    simp only [newWrappers, if_neg notTool, if_neg notScript, if_neg notGit, if_pos member]
  have root : s.root = some (newRoot d bundle) := changing.root
  have wrapper : s.wrappers name = layer.wrappers name := (congrFun changing.wrappers name).trans old
  refine Shell.Finishes.bind _ (test_finds (between changing.mendable s _ rfl rfl)) ?_
  rintro s₁ executable ⟨same₁, yes, no⟩
  have changing₁ := changing
  rw [← same₁] at changing₁
  cases executable with
  | true =>
    have found : d.executable (newRoot d bundle) name = true := by
      simpa [State.may, root] using yes rfl
    rw [new, if_pos found]
    exact wrap_step changing₁ inside (by simp [Node.isDirectory]) (d.notDirectory _)
      (by simp) rfl rfl
  | false =>
    have found : d.executable (newRoot d bundle) name = false := by
      simpa [State.mayNot, State.may, root] using no rfl
    have wrapper₁ : s₁.wrappers name = layer.wrappers name :=
      (congrFun (congrArg View.wrappers same₁) name).trans wrapper
    refine Shell.Finishes.bind _ (test_finds (between changing₁.mendable s₁ _ rfl rfl)) ?_
    rintro s₂ stale ⟨same₂, yes', no'⟩
    have changing₂ := changing₁
    rw [← same₂] at changing₂
    rw [new, if_neg (by simp [found])]
    refine finishes_whenever _ (fun is => ?_) fun isNot => ?_
    · have removed : (layer.wrappers name).filter (!isStale ·) = none := by
        have link := yes' is
        simp only [State.may, wrapper₁] at link
        cases there : layer.wrappers name with
        | none => rfl
        | some n =>
          rw [there] at link
          simp [show isStale n = true from link]
      rw [removed]
      exact wrap_step changing₂ inside (by simp) (d.notDirectory _) (by simp) rfl rfl
    · have kept : (layer.wrappers name).filter (!isStale ·) = layer.wrappers name := by
        have other := no' isNot
        simp only [State.mayNot, State.may, wrapper₁, Bool.not_eq_true'] at other
        cases there : layer.wrappers name with
        | none => rfl
        | some n =>
          rw [there] at other
          simp [show isStale n = false from other]
      rwa [kept, ← old, Function.update_eq_self]

/-- The links have come so far. -/
structure Linking (d : Device) (bundle : Bundle) (layer : Layer) (start : String → Option Node)
    (rest : List String) (s : State) (now : String → Option Node) : Prop
    extends Changing d bundle layer now s.view where
  apart : rest.Nodup
  inside : rest ⊆ linkedNames
  waiting : ∀ name ∈ rest, now name = layer.wrappers name
  done : ∀ name ∈ linkedNames, name ∉ rest → now name = newWrappers d bundle layer.wrappers name
  others : ∀ name, name ∉ linkedNames → now name = start name

theorem linkWrappers_changes (changing : Changing d bundle layer wrappers s.view)
    (same : ∀ name ∈ linkedNames, wrappers name = layer.wrappers name) :
    Leads d bundle layer (linkedNames.forM linkWrapper) (Changing d bundle layer fun name =>
      if name ∈ linkedNames then newWrappers d bundle layer.wrappers name else wrappers name) s := by
  refine Shell.Finishes.mono _ (finishes_forM _ (fun after rest => ∃ now,
    Linking d bundle layer wrappers rest after now) ⟨wrappers, changing, by decide +kernel,
      fun _ member => member, same, fun _ member out => absurd member out, fun _ _ => rfl⟩ ?_) ?_
  · rintro s name rest ⟨now, changing, apart, inside, waiting, done, others⟩
    obtain ⟨fresh, apart⟩ := List.nodup_cons.mp apart
    have member : name ∈ linkedNames := inside (by simp)
    refine Shell.Finishes.mono _ (linkWrapper_changes member changing (waiting name (by simp))) ?_
    intro s _ changed
    refine ⟨_, changed, apart, fun other here => inside (List.mem_cons_of_mem _ here), ?_, ?_, ?_⟩
    · intro other here
      have distinct : other ≠ name := fun equal => fresh (equal ▸ here)
      rw [Function.update_of_ne distinct]
      exact waiting other (List.mem_cons_of_mem _ here)
    · intro other here out
      by_cases equal : other = name
      · subst equal
        rw [Function.update_self]
      · rw [Function.update_of_ne equal]
        exact done other here (by simp [equal, out])
    · intro other out
      have distinct : other ≠ name := fun equal => out (equal ▸ member)
      rw [Function.update_of_ne distinct]
      exact others other out
  · rintro s _ ⟨now, linking⟩
    have all : now = fun name => if name ∈ linkedNames then newWrappers d bundle layer.wrappers name
        else wrappers name := by
      funext name
      by_cases member : name ∈ linkedNames
      · rw [if_pos member]
        exact linking.done name member (by simp)
      · rw [if_neg member]
        exact linking.others name member
    exact all ▸ linking.toChanging

theorem wrap_same (s : State) (name : String) : s.wrap name (s.wrappers name) = s := by
  simp [State.wrap]

/-- A wrapper's mode is set. -/
theorem chmod_step {c : Command} {name : String} {mode : Nat} {data : List UInt8}
    (changing : Changing d bundle layer wrappers s.view) (member : name ∈ wrapperNames)
    (there : wrappers name = some (.file mode data)) (plain : c ≠ .trapClear)
    (works : s.run d c = s.wrap name ((s.wrappers name).map (·.chmod 0o755)))
    (fails : s.fail d c = s) :
    Leads d bundle layer (run c)
      (Changing d bundle layer (Function.update wrappers name (some (.file 0o755 data)))) s := by
  have here : s.wrappers name = some (.file mode data) :=
    (congrFun changing.wrappers name).trans there
  refine wrap_step changing member (by simp [Node.isDirectory]) ?_ plain ?_ (?_ : _ = s.wrap name (s.wrappers name))
  · simp [here, Node.isDirectory]
  · simp [works, here, Node.chmod]
  · rw [fails, wrap_same]

theorem newWrappers_eq (tool : Option Node) (data : List UInt8) :
    Function.update (Function.update (Function.update (fun name => if name ∈ linkedNames then
      newWrappers d bundle layer.wrappers name else Function.update (Function.update layer.wrappers
        "a1625-tool" tool) "a1625-tool" (some (.file 0o755 d.toolScript)) name) "a1625-git"
          (some (.file 0o644 data))) "a1625-git" (some (.file 0o755 d.gitScript))) "git"
            (some (.link "/opt/bin/a1625-git")) = newWrappers d bundle layer.wrappers := by
  funext name
  by_cases tool : name = "a1625-tool"
  · subst tool
    have out : "a1625-tool" ∉ linkedNames := by decide +kernel
    simp [newWrappers, out]
  · by_cases script : name = "a1625-git"
    · subst script
      simp [newWrappers]
    · by_cases plain : name = "git"
      · subst plain
        simp [newWrappers]
      · by_cases member : name ∈ linkedNames
        · simp [script, plain, member]
        · simp [newWrappers, tool, script, plain, member]

theorem Placed.changing {v v' : View} (placed : Placed d bundle layer v)
    (same : v' = { v with wrappersChanged := true }) :
    Changing d bundle layer layer.wrappers v' := by
  subst same
  exact ⟨placed.root, placed.back.copy rfl rfl rfl, placed.wrappers,
    placed.saved.copy rfl rfl rfl rfl, placed.marker, placed.committed, rfl, placed.handling⟩

theorem Layer.Plain.written (plain : layer.Plain) (n : Option Node) :
    State.written (layer.wrappers "a1625-git") n = n := by
  cases there : layer.wrappers "a1625-git" with
  | none => rfl
  | some old =>
    have file := plain old there
    cases old with
    | file => rfl
    | _ => cases file

theorem exchangeWrappers_changes (plain : layer.Plain) (placed : Placed d bundle layer s.view) :
    Leads d bundle layer exchangeWrappers
      (Changing d bundle layer (newWrappers d bundle layer.wrappers)) s := by
  have mend (s : State) (placed : Placed d bundle layer s.view) : Mendable d bundle layer s.view :=
    placed.mendable placed.back
  refine Shell.Finishes.bind _ (run_keeps (Placed d bundle layer) placed (mend s placed) rfl) ?_
  intro s _ placed
  refine Shell.Finishes.through _ (fun (after : State) _ =>
    Changing d bundle layer layer.wrappers after.view) (run_assign (fun _ => mend s placed)
      (placed.changing rfl)) ?_
  intro s _ changing
  refine Shell.Finishes.bind _ (wrap_step (n := some (.file 0o644 d.toolScript)) changing (by decide)
    (by simp [Node.isDirectory]) (d.notDirectory _) (by simp) rfl rfl) fun s _ changing => ?_
  refine Shell.Finishes.bind _ (chmod_step changing (by decide) (Function.update_self ..) (by simp)
    rfl rfl) fun s _ changing => ?_
  refine Shell.Finishes.bind _ (linkWrappers_changes changing ?_) fun s _ changing => ?_
  · intro name member
    obtain ⟨-, notTool, -⟩ := linked_wrapper name member
    rw [Function.update_of_ne notTool, Function.update_of_ne notTool]
  have git : s.wrappers "a1625-git" = layer.wrappers "a1625-git" := by
    refine (congrFun changing.wrappers "a1625-git").trans ?_
    have out : "a1625-git" ∉ linkedNames := by decide +kernel
    simp [out]
  refine Shell.Finishes.bind _ (wrap_step (n := some (.file 0o644 d.gitScript)) changing
    (by decide : "a1625-git" ∈ wrapperNames) (by simp [Node.isDirectory]) (d.notDirectory .writeGit)
    (by simp) ?_ ?_) fun s _ changing => ?_
  · simp only [State.run, git, plain.written]
  · simp only [State.fail, git, plain.written]
  refine Shell.Finishes.bind _ (chmod_step changing (by decide) (Function.update_self ..) (by simp)
    rfl rfl) fun s _ changing => ?_
  rw [← newWrappers_eq]
  exact wrap_step changing (by decide) (by simp [Node.isDirectory]) (d.notDirectory _)
    (by simp) rfl rfl

/-! The commit. -/

theorem Layer.writtenMarker (layer : Layer) (new : Option Marker) :
    State.writtenMarker layer.oldMarker new = new := by
  unfold Layer.oldMarker
  cases layer.marker <;> rfl

/-- The marker is written in part or whole: with what was saved the old one can be brought back. -/
theorem Changing.marked {v v' : View} (changing : Changing d bundle layer wrappers v)
    (content : Option String)
    (same : v' = { v with marker := content.map .text }) : Mendable d bundle layer v' := by
  obtain ⟨-, back, -, ⟨backups, others, files, manifest, -⟩, -, committed, changed, handling⟩ :=
    changing
  subst same
  refine ⟨handling, .inl ⟨committed, back.copy rfl rfl rfl, .saved ?_ changed⟩⟩
  refine ⟨backups, others, files, manifest, ?_⟩
  cases content with
  | none => exact .inl rfl
  | some text => exact .inr ⟨text, rfl⟩

theorem committed_final (committed : s.committed = true) (handling : s.handling = false)
    (new : New d bundle layer s.view) (status : Nat) : Final d bundle layer s status :=
  ⟨⟨handling, .inr ⟨committed, new⟩⟩, fun _ => committed⟩

theorem commit_final
    (changing : Changing d bundle layer (newWrappers d bundle layer.wrappers) s.view) :
    (commit bundle).Finishes (watched d bundle layer) (Final d bundle layer)
      (fun after _ => Final d bundle layer after 0) s := by
  refine Shell.Finishes.bind _ (finishes_forM _ (fun (after : State) _ =>
    Changing d bundle layer (newWrappers d bundle layer.wrappers) after.view) changing
      fun s line rest changing => run_keeps (Changing d bundle layer _) changing changing.mendable rfl) ?_
  intro s _ changing
  have written (n : Option Marker) : State.writtenMarker s.marker n = n := by
    have old : s.marker = layer.oldMarker := changing.marker
    rw [old, layer.writtenMarker]
  refine Shell.Finishes.through _ (fun (after : State) _ => Mendable d bundle layer after.view ∧
    after.handling = false ∧ New d bundle layer after.view)
    (run_step changing.mendable (changing.marked (d.partMarker .writeMarker) ?_)
      fun _ => ⟨changing.marked (some d.manifest) ?_, changing.handling, ?_⟩) ?_
  · simp [semantics, State.fail, State.view, written]
  · simp [semantics, State.run, State.view, written]
  · refine ⟨changing.root, changing.wrappers, ?_⟩
    simp [semantics, State.run, State.view, written]
  rintro s _ ⟨mend, handling, new⟩
  refine Shell.Finishes.through _ (fun (after : State) _ => after.committed = true ∧
    after.handling = false ∧ New d bundle layer after.view) (run_assign (fun _ => mend)
      ⟨rfl, handling, new⟩) ?_
  rintro s _ ⟨committed, handling, new⟩
  refine run_step ⟨handling, .inr ⟨committed, new⟩⟩ ⟨handling, .inr ⟨committed, new⟩⟩ fun _ => ?_
  exact committed_final (s := (semantics d).next s ⟨.removePrevious, true⟩) committed handling new 0

/-- The whole script, from a layer that it can bring back. -/
theorem install_final (plain : layer.Plain) (begun : Begun layer s.view) :
    (install bundle).Finishes (watched d bundle layer) (Final d bundle layer)
      (fun after _ => Final d bundle layer after 0) s := by
  refine Shell.Finishes.bind _ (guards_begun begun) ?_
  rintro s _ ⟨begun, noLink⟩
  refine Shell.Finishes.through _ (fun (after : State) _ => Begun layer after.view)
    (run_untouched begun.toUntouched rfl fun untouched _ => ⟨untouched, rfl, rfl⟩) ?_
  intro s _ begun
  refine Shell.Finishes.bind _ (run_keeps (Begun layer) begun begun.mendable rfl) fun s _ begun => ?_
  refine Shell.Finishes.bind _ (run_keeps (Begun layer) begun begun.mendable rfl) fun s _ begun => ?_
  refine Shell.Finishes.bind _ (prepare_prepared begun) fun s _ prepared => ?_
  refine Shell.Finishes.bind _ (fetch_prepared prepared) fun s _ prepared => ?_
  refine Shell.Finishes.bind _ (build_prepared prepared) fun s _ prepared => ?_
  refine Shell.Finishes.bind _ (exchangeRoot_placed noLink prepared) fun s _ placed => ?_
  exact Shell.Finishes.bind _ (exchangeWrappers_changes plain placed) fun s _ changing =>
    commit_final changing

end WinBoot.InstallState
