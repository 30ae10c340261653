import Mathlib.Data.List.Infix
import Mathlib.Data.List.Nodup
import WinBoot.FileTree

/-! What an extraction leaves: items made one after another under one directory, missing parents
with them. It fails when a file is in the way, and otherwise the tree is the one that the items
describe, whatever their order. -/

namespace WinBoot.FileTree

namespace Node

/-- A new file takes the place of anything but a directory, and a new directory that of none but
one, whose entries stay. -/
def settle (new : Node) : Option Node → Option Node
  | none => some new
  | some old =>
    if new.isDirectory then if old.isDirectory then some old else none
    else if old.isDirectory then none else some new

def extractAt (new : Node) : List String → Option Node → Option Node
  | [], old => new.settle old
  | name :: rest, none =>
    (extractAt new rest none).map fun child => directory 0o700 [(name, child)]
  | name :: rest, some (directory mode entries) =>
    (extractAt new rest (entries.lookup name)).map (insert (directory mode entries) name)
  | _ :: _, some _ => none

def bare : Node → Bool
  | directory _ entries => entries.isEmpty
  | _ => true

end Node

structure Item where
  path : List String
  mode : Nat
  data : Option (List UInt8)

def Item.node (item : Item) : Node :=
  match item.data with
  | some data => .file item.mode data
  | none => .directory item.mode []

def extractAll : List Item → Node → Option Node
  | [], tree => some tree
  | item :: rest, tree => (item.node.extractAt item.path (some tree)).bind (extractAll rest)

/-- What the items say of a path. -/
def described (items : List Item) (path : List String) : Option Kind :=
  match items.find? fun item => item.path = path with
  | some item => some item.node.kind
  | none =>
    if path = [] ∨ ∃ item ∈ items, path <+: item.path then some .directory else none

/-- No file has anything below it. -/
def Layered (items : List Item) : Prop :=
  ∀ item ∈ items, item.data.isSome → ∀ other ∈ items, item.path <+: other.path →
    item.path = other.path

/-! ### One item -/

namespace Node

theorem seek_bare {n : Node} (plain : n.bare) {name : String} (rest : List String) :
    n.seek (name :: rest) = none := by
  cases n with
  | directory mode entries =>
    rw [bare, List.isEmpty_iff] at plain
    simp [seek, entry, plain]
  | _ => rfl

/-- What lies in the way or at the place of a new node. -/
def Admits (new : Node) (path : List String) (old : Option Node) : Prop :=
  (∀ front, front <+: path → front ≠ path →
    ∀ there ∈ old.bind (seek front), there.isDirectory) ∧
  ∀ there ∈ old.bind (seek path), there.isDirectory = new.isDirectory

theorem extractAt_isSome (new : Node) (path : List String) (old : Option Node) :
    (extractAt new path old).isSome ↔ Admits new path old := by
  induction path generalizing old with
  | nil =>
    cases old with
    | none => simp [extractAt, settle, Admits]
    | some there =>
      cases made : new.isDirectory <;> cases kept : there.isDirectory <;>
        simp [extractAt, settle, Admits, seek, made, kept]
  | cons name rest ih =>
    cases old with
    | none => simpa [extractAt, Admits] using ih none
    | some there =>
      cases there with
      | directory mode entries =>
        simp only [extractAt, Option.isSome_map, ih, Admits]
        constructor
        · refine fun admits => ⟨fun front begins proper => ?_, ?_⟩
          · cases front with
            | nil => simp [seek, isDirectory]
            | cons first front =>
              obtain ⟨rfl, inner⟩ := List.cons_prefix_cons.mp begins
              exact admits.1 front inner fun same => proper (by rw [same])
          · exact admits.2
        · refine fun admits => ⟨fun front begins proper => ?_, admits.2⟩
          exact admits.1 (name :: front) (List.cons_prefix_cons.mpr ⟨rfl, begins⟩)
            fun same => proper (List.cons.inj same).2
      | _ =>
        refine iff_of_false (by simp [extractAt]) fun admits => ?_
        have blocked := admits.1 [] List.nil_prefix (List.cons_ne_nil name rest).symm
        simp [seek, isDirectory] at blocked

/-- What is there afterwards: the node at its path, directories on the way to it, and elsewhere
what was there. -/
theorem kindAt_extractAt {new : Node} (plain : new.bare) {path : List String} {old : Option Node}
    {tree : Node} (made : extractAt new path old = some tree) (at_ : List String) :
    tree.kindAt at_ = if at_ = path then some new.kind else
      if at_ <+: path then some .directory else (old.bind (seek at_)).map kind := by
  induction path generalizing old tree at_ with
  | nil =>
    cases old with
    | none =>
      obtain rfl := Option.some.inj made
      cases at_ with
      | nil => simp [kindAt, seek]
      | cons name rest => simp [kindAt, seek_bare plain]
    | some there =>
      rw [extractAt, settle] at made
      split at made
      · next directory =>
        split at made
        · next kept =>
          obtain rfl := Option.some.inj made
          rw [← kind_directory] at directory kept
          cases at_ with
          | nil => simp [kindAt, seek, directory, kept]
          | cons name rest => simp [kindAt]
        · cases made
      · split at made
        · cases made
        · next other =>
          obtain rfl := Option.some.inj made
          cases at_ with
          | nil => simp [kindAt, seek]
          | cons name rest =>
            have below : there.seek (name :: rest) = none := by
              cases there with
              | directory mode entries => simp [isDirectory] at other
              | _ => rfl
            simp [kindAt, seek_bare plain, below]
  | cons name rest ih =>
    cases old with
    | none =>
      obtain ⟨child, inner, rfl⟩ := Option.map_eq_some_iff.mp made
      cases at_ with
      | nil => simp [kindAt, seek, kind]
      | cons first more =>
        by_cases here : first = name
        · have deeper := ih inner more
          simp only [kindAt] at deeper
          simpa [here, kindAt, seek, entry] using deeper
        · have missed : (first == name) = false := by simpa using here
          simp [here, kindAt, seek, entry, List.lookup_cons, missed]
    | some there =>
      cases there with
      | directory mode entries =>
        obtain ⟨child, inner, rfl⟩ := Option.map_eq_some_iff.mp made
        cases at_ with
        | nil => simp [kindAt, seek, kind, insert]
        | cons first more =>
          simp only [kindAt, seek, entry_insert]
          by_cases here : first = name
          · have deeper := ih inner more
            simp only [kindAt] at deeper
            simpa [here, entry] using deeper
          · simp [here, entry]
      | _ => simp [extractAt] at made

end Node

/-! ### All items -/

/-- The tree is the one that the items describe. -/
def Shaped (items : List Item) (tree : Node) : Prop :=
  ∀ path, tree.kindAt path = described items path

theorem Item.node_bare (item : Item) : item.node.bare := by
  unfold Item.node
  split <;> rfl

theorem Item.node_isDirectory (item : Item) : item.node.isDirectory = item.data.isNone := by
  unfold Item.node
  split <;> simp_all [Node.isDirectory]

theorem described_of_mem {items : List Item} (distinct : (items.map Item.path).Nodup) {item : Item}
    (member : item ∈ items) : described items item.path = some item.node.kind := by
  have found : items.find? (fun other => other.path = item.path) = some item := by
    induction items with
    | nil => cases member
    | cons head items ih =>
      rw [List.map_cons, List.nodup_cons] at distinct
      rcases List.mem_cons.mp member with rfl | later
      · simp
      · have other : head.path ≠ item.path := fun same =>
          distinct.1 (same ▸ List.mem_map_of_mem later)
        simpa [other] using ih distinct.2 later
  rw [described, found]

/-- A path that no item has is a directory above some item, or nothing. -/
theorem described_of_fresh {items : List Item} {path : List String}
    (fresh : path ∉ items.map Item.path) : described items path =
      if path = [] ∨ ∃ item ∈ items, path <+: item.path then some .directory else none := by
  have missed : items.find? (fun item => item.path = path) = none := by
    refine List.find?_eq_none.mpr fun item member => ?_
    have other : item.path ≠ path := fun same => fresh (same ▸ List.mem_map_of_mem member)
    simpa using other
  rw [described, missed]

/-- Modes do not matter. -/
theorem described_congr {ι : Type} (sources : List ι) {f g : ι → Item}
    (paths : ∀ i, (f i).path = (g i).path) (data : ∀ i, (f i).data = (g i).data)
    (path : List String) : described (sources.map f) path = described (sources.map g) path := by
  have kinds : ∀ i, (f i).node.kind = (g i).node.kind := fun i => by
    rw [Item.node, Item.node, data i]
    split <;> rfl
  rw [described, described, List.find?_map, List.find?_map]
  have tests : ((fun item : Item => decide (item.path = path)) ∘ f) =
      (fun item : Item => decide (item.path = path)) ∘ g := by
    funext i
    rw [Function.comp_apply, Function.comp_apply, paths i]
  rw [tests]
  cases sources.find? ((fun item : Item => decide (item.path = path)) ∘ g) with
  | none => simp [paths]
  | some i => exact congrArg some (kinds i)

section

variable {done : List Item} {item : Item} {tree : Node}
  (distinct : (done.map Item.path).Nodup) (fresh : item.path ∉ done.map Item.path)

include fresh in
theorem described_append (path : List String)
    (way : path <+: item.path → path ≠ item.path → ∀ k ∈ described done path, k = .directory) :
    described (done ++ [item]) path = if path = item.path then some item.node.kind else
      if path <+: item.path then some .directory else described done path := by
  by_cases here : path = item.path
  · subst here
    have missed : done.find? (fun other => other.path = item.path) = none := by
      refine List.find?_eq_none.mpr fun other member => ?_
      have apart : other.path ≠ item.path := fun same => fresh (same ▸ List.mem_map_of_mem member)
      simpa using apart
    rw [described, List.find?_append, missed]
    simp
  · have last : [item].find? (fun other => other.path = path) = none := by
      simpa using Ne.symm here
    rw [if_neg here, described, List.find?_append, last, Option.or_none]
    by_cases above : path <+: item.path
    · rw [if_pos above]
      cases found : done.find? (fun other => other.path = path) with
      | none => simp [above]
      | some other =>
        have kind : described done path = some other.node.kind := by rw [described, found]
        simp [way above here _ kind]
    · rw [if_neg above, described]
      simp [above]

include distinct fresh in
/-- The next item fits into the tree exactly when it leaves the items layered. -/
theorem admits_iff (shaped : Shaped done tree) (layered : Layered done) (rooted : item.path ≠ []) :
    item.node.Admits item.path (some tree) ↔ Layered (done ++ [item]) := by
  have seen : ∀ path, ∀ there ∈ tree.seek path, described done path = some there.kind := by
    intro path there found
    rw [← shaped path, Node.kindAt, found, Option.map_some]
  have found : ∀ path k, described done path = some k → ∃ there ∈ tree.seek path, there.kind = k := by
    intro path k known
    rw [← shaped path] at known
    exact Option.map_eq_some_iff.mp known
  constructor
  · rintro ⟨way, place⟩ first member file second second_member above
    rcases List.mem_append.mp member with old | new <;>
      rcases List.mem_append.mp second_member with old' | new'
    · exact layered first old file second old' above
    · obtain rfl := List.mem_singleton.mp new'
      by_contra proper
      obtain ⟨there, present, kind⟩ := found _ _ (described_of_mem distinct old)
      have blocked := Node.kind_directory.mpr (way first.path above proper there present)
      rw [kind, Node.kind_directory, Item.node_isDirectory, Option.isNone_iff_eq_none] at blocked
      simp [blocked] at file
    · obtain rfl := List.mem_singleton.mp new
      have implied : described done first.path = some .directory := by
        rw [described_of_fresh fresh, if_pos (.inr ⟨second, old', above⟩)]
      obtain ⟨there, present, kind⟩ := found _ _ implied
      have same := place there present
      rw [Node.kind_directory.mp kind, Item.node_isDirectory] at same
      simp [Option.isNone_iff_eq_none.mp same.symm] at file
    · rw [List.mem_singleton.mp new, List.mem_singleton.mp new']
  · refine fun all => ⟨fun front above proper there present => ?_, fun there present => ?_⟩
    · have known := seen front there present
      rw [← Node.kind_directory]
      by_cases listed : front ∈ done.map Item.path
      · obtain ⟨other, member, rfl⟩ := List.mem_map.mp listed
        rw [described_of_mem distinct member, Option.some.injEq] at known
        rw [← known, Node.kind_directory, Item.node_isDirectory, Option.isNone_iff_eq_none]
        by_contra some
        exact proper (all other (List.mem_append_left _ member) (Option.isSome_iff_ne_none.mpr some)
          item (by simp) above)
      · rw [described_of_fresh listed] at known
        split at known
        · exact (Option.some.inj known).symm
        · cases known
    · have known := seen item.path there present
      rw [described_of_fresh fresh] at known
      split at known
      · next implied =>
        rw [Node.kind_directory.mp (Option.some.inj known).symm, Item.node_isDirectory, eq_comm,
          Option.isNone_iff_eq_none]
        by_contra file
        obtain ⟨other, member, above⟩ := implied.resolve_left rooted
        have same := all item (by simp) (Option.isSome_iff_ne_none.mpr file) other
          (List.mem_append_left _ member) above
        exact fresh (same ▸ List.mem_map_of_mem member)
      · cases known

include distinct fresh in
theorem extractAt_shaped (shaped : Shaped done tree) (layered : Layered done)
    (rooted : item.path ≠ []) {next : Node}
    (made : item.node.extractAt item.path (some tree) = some next) :
    Layered (done ++ [item]) ∧ Shaped (done ++ [item]) next := by
  have admits : item.node.Admits item.path (some tree) := by
    rw [← Node.extractAt_isSome, made]
    rfl
  refine ⟨(admits_iff distinct fresh shaped layered rooted).mp admits, fun path => ?_⟩
  rw [Node.kindAt_extractAt item.node_bare made, described_append fresh path]
  · exact congrArg _ (congrArg _ (shaped path))
  · intro above proper k known
    rw [← shaped path, Node.kindAt] at known
    obtain ⟨there, present, rfl⟩ := Option.map_eq_some_iff.mp known
    exact Node.kind_directory.mpr (admits.1 path above proper there present)

end

theorem shaped_nil {mode : Nat} : Shaped [] (.directory mode []) := by
  intro path
  rw [described_of_fresh (by simp)]
  cases path with
  | nil => simp [Node.kindAt, Node.seek, Node.kind]
  | cons name rest => simp [Node.kindAt, Node.seek, Node.entry]

theorem layered_nil : Layered [] := by simp [Layered]

theorem extractAll_from {done rest : List Item} {tree : Node}
    (distinct : ((done ++ rest).map Item.path).Nodup) (rooted : ∀ item ∈ rest, item.path ≠ [])
    (shaped : Shaped done tree) (layered : Layered done) :
    ((extractAll rest tree).isSome ↔ Layered (done ++ rest)) ∧
      ∀ last, extractAll rest tree = some last → Shaped (done ++ rest) last := by
  induction rest generalizing done tree with
  | nil =>
    rw [List.append_nil]
    exact ⟨iff_of_true rfl layered, fun last made => Option.some.inj made ▸ shaped⟩
  | cons item rest ih =>
    have cut : done ++ item :: rest = (done ++ [item]) ++ rest := List.append_cons ..
    rw [cut] at distinct ⊢
    have earlier : ((done ++ [item]).map Item.path).Nodup := by
      rw [List.map_append] at distinct
      exact (List.nodup_append.mp distinct).1
    rw [List.map_append, List.nodup_append] at earlier
    have fresh : item.path ∉ done.map Item.path := fun member =>
      earlier.2.2 _ member item.path (by simp) rfl
    have here := rooted item List.mem_cons_self
    rw [extractAll]
    cases made : item.node.extractAt item.path (some tree) with
    | none =>
      have refused : ¬Layered (done ++ [item]) := fun all => by
        have admits := (admits_iff earlier.1 fresh shaped layered here).mpr all
        rw [← Node.extractAt_isSome, made] at admits
        cases admits
      refine ⟨iff_of_false (by simp) fun all => refused ?_, by simp⟩
      exact fun first member file other member' => all first (List.mem_append_left _ member) file
        other (List.mem_append_left _ member')
    | some next =>
      obtain ⟨layered, shaped⟩ := extractAt_shaped earlier.1 fresh shaped layered here made
      exact ih distinct (fun item member => rooted item (List.mem_cons_of_mem _ member)) shaped
        layered

section

variable {items : List Item} (distinct : (items.map Item.path).Nodup)
  (rooted : ∀ item ∈ items, item.path ≠ [])

include distinct rooted

/-- Items with paths of their own, none the root's, can be extracted into an empty directory
exactly when they are layered. -/
theorem extractAll_isSome (mode : Nat) :
    (extractAll items (.directory mode [])).isSome ↔ Layered items := by
  have all : (([] ++ items).map Item.path).Nodup := distinct
  exact (extractAll_from all rooted shaped_nil layered_nil).1

theorem extractAll_shape {mode : Nat} {tree : Node}
    (made : extractAll items (.directory mode []) = some tree) : Shaped items tree := by
  have all : (([] ++ items).map Item.path).Nodup := distinct
  exact (extractAll_from all rooted shaped_nil layered_nil).2 tree made

end

end WinBoot.FileTree
