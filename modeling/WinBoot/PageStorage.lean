import Mathlib.Algebra.Order.BigOperators.Group.List
import Mathlib.Algebra.Order.Ring.Int
import WinBoot.ShellTransaction

/-! Scripts over a store of limited size that hands out whole pages. What a command takes and
gives back is a list of changes; a script stays within a limit when its use of the store does so
after each of them, whatever its commands answer. -/

namespace WinBoot.PageStorage
open Interaction ShellProcess

/-- The bytes that a file of this size takes. -/
def pages (size : Nat) : Nat := (size + 4095) / 4096 * 4096

theorem le_pages (size : Nat) : size ≤ pages size := by
  rw [pages]
  omega

theorem pages_le (size : Nat) : pages size ≤ size + 4095 := by
  rw [pages]
  omega

theorem pages_sum_le (sizes : List Nat) :
    (sizes.map pages).sum ≤ sizes.sum + 4095 * sizes.length := by
  induction sizes with
  | nil => rfl
  | cons size sizes ih =>
    have here := pages_le size
    rw [List.map_cons, List.sum_cons, List.sum_cons, List.length_cons]
    omega

theorem le_pages_sum (sizes : List Nat) : sizes.sum ≤ (sizes.map pages).sum := by
  induction sizes with
  | nil => rfl
  | cons size sizes ih =>
    have here := le_pages size
    rw [List.map_cons, List.sum_cons, List.sum_cons]
    omega

/-- Each of the files is written in turn. -/
def writes (sizes : List Nat) : List Int := sizes.map fun size => (pages size : Int)

theorem writes_sum (sizes : List Nat) : (writes sizes).sum = ((sizes.map pages).sum : Nat) := by
  induction sizes with
  | nil => rfl
  | cons size sizes ih =>
    rw [writes, List.map_cons, List.sum_cons, ← writes, ih, List.map_cons, List.sum_cons]
    push_cast
    rfl

/-! ### Changes within a limit -/

def Stays (limit : Int) : Int → List Int → Prop
  | used, [] => used ≤ limit
  | used, change :: rest => used ≤ limit ∧ Stays limit (used + change) rest

section

variable {limit used : Int} {changes more : List Int}

theorem Stays.start (stays : Stays limit used changes) : used ≤ limit := by
  cases changes with
  | nil => exact stays
  | cons => exact stays.1

theorem Stays.finish (stays : Stays limit used changes) : used + changes.sum ≤ limit := by
  induction changes generalizing used with
  | nil =>
    rw [List.sum_nil, add_zero]
    exact stays
  | cons change changes ih =>
    rw [List.sum_cons, ← add_assoc]
    exact ih stays.2

theorem Stays.mono {limit' : Int} (higher : limit ≤ limit') (stays : Stays limit used changes) :
    Stays limit' used changes := by
  induction changes generalizing used with
  | nil => exact stays.trans higher
  | cons change changes ih => exact ⟨stays.1.trans higher, ih stays.2⟩

theorem stays_append : Stays limit used (changes ++ more) ↔
    Stays limit used changes ∧ Stays limit (used + changes.sum) more := by
  induction changes generalizing used with
  | nil =>
    rw [List.nil_append, List.sum_nil, add_zero]
    exact ⟨fun stays => ⟨stays.start, stays⟩, And.right⟩
  | cons change changes ih =>
    rw [List.cons_append, Stays, ih, Stays, List.sum_cons, and_assoc, add_assoc]

/-- While nothing is given back the end decides. -/
theorem stays_of_growth (grows : ∀ change ∈ changes, 0 ≤ change) :
    Stays limit used changes ↔ used + changes.sum ≤ limit := by
  induction changes generalizing used with
  | nil => rw [Stays, List.sum_nil, add_zero]
  | cons change changes ih =>
    have more : Stays limit (used + change) changes ↔ used + change + changes.sum ≤ limit :=
      ih fun other member => grows other (List.mem_cons_of_mem _ member)
    have here := grows change List.mem_cons_self
    have later : 0 ≤ changes.sum :=
      List.sum_nonneg fun other member => grows other (List.mem_cons_of_mem _ member)
    rw [Stays, more, List.sum_cons]
    omega

theorem stays_writes (sizes : List Nat) :
    Stays limit used (writes sizes) ↔ used + ((sizes.map pages).sum : Nat) ≤ limit := by
  rw [stays_of_growth, writes_sum]
  intro change member
  obtain ⟨size, -, rfl⟩ := List.mem_map.mp member
  exact Int.natCast_nonneg _

/-- Changes that are never above the higher of their ends. -/
def Level (changes : List Int) : Prop :=
  ∀ limit used, used ≤ limit → used + changes.sum ≤ limit → Stays limit used changes

theorem Level.stays_iff (level : Level changes) :
    Stays limit used changes ↔ used ≤ limit ∧ used + changes.sum ≤ limit :=
  ⟨fun stays => ⟨stays.start, stays.finish⟩, fun ends => level limit used ends.1 ends.2⟩

theorem level_nil : Level [] := fun _ _ inside _ => inside

/-- What is given back first does no harm. -/
theorem level_replace (released : Nat) (change : Int) : Level [-(released : Int), change] := by
  intro limit used inside final
  rw [List.sum_cons, List.sum_singleton] at final
  simp only [Stays]
  omega

theorem level_release (released : Nat) : Level [-(released : Int)] := by
  intro limit used inside final
  rw [List.sum_singleton] at final
  exact ⟨inside, final⟩

/-- The changes of items in a row, each after the ones before it. -/
def along {α : Type} (f : List α → α → List Int) : List α → List α → List Int
  | _, [] => []
  | earlier, item :: items => f earlier item ++ along f (earlier ++ [item]) items

theorem along_append {α : Type} (f : List α → α → List Int) (earlier front back : List α) :
    along f earlier (front ++ back) = along f earlier front ++ along f (earlier ++ front) back := by
  induction front generalizing earlier with
  | nil => rw [List.append_nil]; rfl
  | cons item front ih =>
    rw [List.cons_append, along, ih, along, List.append_assoc, List.append_assoc]
    rfl

theorem along_const {α : Type} (f : α → List Int) (earlier items : List α) :
    along (fun _ => f) earlier items = items.flatMap f := by
  induction items generalizing earlier with
  | nil => rfl
  | cons item items ih => rw [along, ih, List.flatMap_cons]

/-- Items that are level stay within a limit when each first few of them do. -/
theorem stays_along {α : Type} {f : List α → α → List Int}
    (level : ∀ earlier item, Level (f earlier item))
    (earlier items : List α) : Stays limit used (along f earlier items) ↔
      ∀ front, front <+: items → used + (along f earlier front).sum ≤ limit := by
  induction items generalizing earlier used with
  | nil => simp [along, Stays]
  | cons item items ih =>
    rw [along, stays_append, (level earlier item).stays_iff, ih]
    constructor
    · rintro ⟨⟨here, -⟩, later⟩ front begins
      cases front with
      | nil => simpa [along] using here
      | cons first front =>
        obtain ⟨rfl, inner⟩ := List.cons_prefix_cons.mp begins
        rw [along, List.sum_append, ← add_assoc]
        exact later front inner
    · intro all
      have none := all [] List.nil_prefix
      have one := all [item] (List.cons_prefix_cons.mpr ⟨rfl, List.nil_prefix⟩)
      rw [along, along, List.append_nil] at one
      refine ⟨⟨by simpa [along] using none, one⟩, fun front begins => ?_⟩
      have both := all (item :: front) (List.cons_prefix_cons.mpr ⟨rfl, begins⟩)
      rwa [along, List.sum_append, ← add_assoc] at both

theorem stays_flatMap {α : Type} {f : α → List Int} (level : ∀ item, Level (f item))
    (items : List α) :
    Stays limit used (items.flatMap f) ↔
      ∀ front, front <+: items → used + (front.flatMap f).sum ≤ limit := by
  rw [← along_const f [], stays_along fun _ => level]
  simp only [along_const]

end

/-! ### Scripts -/

variable {C : Type}

/-- `admits` says which answers a command may give; a command that succeeds has made its changes. -/
def storage (changes : C → List Int) (admits : ShellEvent C → Prop) (limit : Int) :
    Monitor C (fun _ => Bool) Int where
  admits _ event := admits event
  allows used event := Stays limit used (changes event.1)
  next used event := if event.2 then used + (changes event.1).sum else used

/-- A script stays within the limit and goes on to `post`, if it goes on. -/
def Keeps {α : Type} (changes : C → List Int) (admits : ShellEvent C → Prop) (limit : Int)
    (p : Shell C α) (post : Int → α → Prop) (used : Int) : Prop :=
  p.Finishes (storage changes admits limit) (fun _ _ => True) post used

section

variable {α β : Type} {changes : C → List Int} {admits : ShellEvent C → Prop} {limit : Int}
  {used : Int} {c : C}

theorem keeps_bind (p : Shell C α) (f : α → Shell C β) (post : Int → β → Prop) :
    Keeps changes admits limit (p >>= f) post used ↔
      Keeps changes admits limit p (fun used a => Keeps changes admits limit (f a) post used) used := by
  refine (Prog.safe_bind _ (ExceptT.run p) (ExceptT.bindCont f) _ _).trans ?_
  constructor
  · intro safe
    refine Prog.Safe.mono _ safe ?_
    rintro after (status | a) here
    · trivial
    · exact here
  · intro safe
    refine Prog.Safe.mono _ safe ?_
    rintro after (status | a) here
    · trivial
    · exact here

/-- A command that may succeed. -/
theorem keeps_run (may : admits ⟨c, true⟩) (post : Int → Unit → Prop) :
    Keeps changes admits limit (run c) post used ↔
      Stays limit used (changes c) ∧ post (used + (changes c).sum) () := by
  refine (finishes_run _ c post used).trans ⟨fun all => all true may, fun both ok _ => ?_⟩
  cases ok with
  | false => exact ⟨both.1, trivial⟩
  | true => exact both

/-- A command that takes nothing. -/
theorem keeps_still (still : changes c = []) (may : admits ⟨c, true⟩) (post : Int → Unit → Prop) :
    Keeps changes admits limit (run c) post used ↔ used ≤ limit ∧ post used () := by
  rw [keeps_run may, still, List.sum_nil, add_zero, Stays]

theorem keeps_next (still : changes c = []) (may : admits ⟨c, true⟩) (inside : used ≤ limit)
    (f : Unit → Shell C β) (post : Int → β → Prop) :
    Keeps changes admits limit (run c >>= f) post used ↔
      Keeps changes admits limit (f ()) post used := by
  rw [keeps_bind, keeps_still still may]
  exact and_iff_right inside

theorem next_still (still : changes c = []) (ok : Bool) :
    (storage changes admits limit).next used ⟨c, ok⟩ = used := by
  cases ok <;> simp [storage, still]

theorem allows_still (still : changes c = []) (ok : Bool) :
    (storage changes admits limit).allows used ⟨c, ok⟩ ↔ used ≤ limit := by
  simp [storage, still, Stays]

/-- A question whose answer is known. -/
theorem keeps_holds (still : changes c = []) {answer : Bool}
    (known : ∀ ok, admits ⟨c, ok⟩ ↔ ok = answer)
    (post : Int → Bool → Prop) :
    Keeps changes admits limit (holds c) post used ↔ used ≤ limit ∧ post used answer := by
  refine (finishes_holds _ c post used).trans ?_
  simp only [next_still still, allows_still still]
  constructor
  · exact fun all => all answer ((known answer).mpr rfl)
  · intro both ok admitted
    rw [(known ok).mp admitted]
    exact both

theorem keeps_ask (still : changes c = []) (free : ∀ ok, admits ⟨c, ok⟩)
    (post : Int → Bool → Prop) :
    Keeps changes admits limit (holds c) post used ↔ used ≤ limit ∧ ∀ ok, post used ok := by
  refine (finishes_holds _ c post used).trans ?_
  simp only [next_still still, allows_still still]
  exact ⟨fun all => ⟨(all true (free true)).1, fun ok => (all ok (free ok)).2⟩,
    fun both ok _ => ⟨both.1, both.2 ok⟩⟩

/-- A check whose outcome is known. -/
theorem keeps_check (still : changes c = []) {answer : Bool}
    (known : ∀ ok, admits ⟨c, ok⟩ ↔ ok = answer)
    (inside : used ≤ limit) (post : Int → Unit → Prop) :
    Keeps changes admits limit (run c) post used ↔ (answer = true → post used ()) := by
  refine (finishes_run _ c post used).trans ?_
  simp only [next_still still, allows_still still]
  constructor
  · intro all yes
    simpa [yes] using (all answer ((known answer).mpr rfl)).2
  · intro here ok admitted
    obtain rfl := (known ok).mp admitted
    refine ⟨inside, ?_⟩
    split
    · next yes => exact here yes
    · trivial

theorem keeps_throwIf (condition : Bool) (status : Nat) (post : Int → Unit → Prop) :
    Keeps changes admits limit (Script.throwIf condition status) post used ↔
      (condition = false → post used ()) := by
  refine (finishes_throwIf _ condition status post used).trans ?_
  simp

theorem keeps_whenever (condition : Bool) (body : Shell C Unit) (post : Int → Unit → Prop) :
    Keeps changes admits limit (whenever condition body) post used ↔
      if condition then Keeps changes admits limit body post used else post used () := by
  cases condition <;> rfl

/-- A loop takes what its turns do. -/
theorem keeps_forM {f : α → Shell C Unit} (taken : α → List Int)
    (each : ∀ item used, used ≤ limit → ∀ post, Keeps changes admits limit (f item) post used ↔
      Stays limit used (taken item) ∧ post (used + (taken item).sum) ())
    (items : List α) (inside : used ≤ limit) (post : Int → Unit → Prop) :
    Keeps changes admits limit (items.forM f) post used ↔
      Stays limit used (items.flatMap taken) ∧ post (used + (items.flatMap taken).sum) () := by
  induction items generalizing used with
  | nil =>
    rw [List.flatMap_nil, List.sum_nil, add_zero]
    exact ⟨fun here => ⟨inside, here⟩, And.right⟩
  | cons item items ih =>
    refine (keeps_bind (f item) (fun _ => items.forM f) post).trans ((each item used inside _).trans ?_)
    rw [List.flatMap_cons, stays_append, List.sum_append, ← add_assoc, and_assoc]
    exact and_congr_right fun stays => ih stays.finish

/-- A loop whose turns take nothing. -/
theorem keeps_forM_still {f : α → Shell C Unit}
    (each : ∀ item post, Keeps changes admits limit (f item) post used ↔ post used ())
    (items : List α) (post : Int → Unit → Prop) :
    Keeps changes admits limit (items.forM f) post used ↔ post used () := by
  induction items with
  | nil => exact Iff.rfl
  | cons item items ih =>
    exact (keeps_bind (f item) (fun _ => items.forM f) post).trans ((each item _).trans ih)

/-- Commands in a row. -/
theorem keeps_commands (command : α → C) (may : ∀ item, admits ⟨command item, true⟩)
    (items : List α) (inside : used ≤ limit) (post : Int → Unit → Prop) :
    Keeps changes admits limit (items.forM fun item => run (command item)) post used ↔
      Stays limit used (items.flatMap fun item => changes (command item)) ∧
        post (used + (items.flatMap fun item => changes (command item)).sum) () :=
  keeps_forM (fun item => changes (command item)) (fun item _ _ post => keeps_run (may item) post) items
    inside post

theorem keeps_program {p : Shell C Unit} :
    p.program.Safe (storage changes admits limit) (fun _ _ => True) used ↔
      Keeps changes admits limit p (fun _ _ => True) used := by
  refine (Prog.safe_bind _ (ExceptT.run p) _ _ _).trans ?_
  constructor
  · intro safe
    refine Prog.Safe.mono _ safe ?_
    rintro after (status | a) here <;> trivial
  · intro safe
    refine Prog.Safe.mono _ safe ?_
    rintro after (status | a) here <;> trivial

end

end WinBoot.PageStorage
