import Mathlib.Data.List.Nodup
import Mathlib.Logic.Relation
import WinBoot.Checks

/-! Depth-first search that marks a node before it descends and lists it when it is through. What is
looked up may fail, several atoms may stand for one node, and nodes with one key count as one. -/

namespace WinBoot.DepthFirst
open Checks Relation

structure Graph (Atom Node Key ε : Type) where
  /-- What an atom stands for, if there is anything to visit. -/
  node : Atom → Except ε (Option Node)
  key : Node → Key
  atoms : Node → List Atom

structure Progress (Node Key : Type) where
  seen : List Key
  done : List Node

variable {Atom Node Key ε : Type} (g : Graph Atom Node Key ε)

/-- `stuck` tells that the search was given too little fuel. -/
def search [DecidableEq Key] (stuck : ε) :
    Nat → Progress Node Key → Atom → Except ε (Progress Node Key)
  | 0, _, _ => .error stuck
  | fuel + 1, s, atom => do
    match ← g.node atom with
    | none => return s
    | some n =>
      if g.key n ∈ s.seen then return s
      let s ← (g.atoms n).foldlM (search stuck fuel) { s with seen := g.key n :: s.seen }
      return { s with done := s.done ++ [n] }

/-- `n` has an atom that stands for `m`. -/
def Edge (n m : Node) : Prop := ∃ atom ∈ g.atoms n, g.node atom = .ok (some m)

abbrev Reaches : Node → Node → Prop := ReflTransGen (Edge g)

def Found (n : Node) : Prop := ∃ atom, g.node atom = .ok (some n)

/-- The atom stands for nothing to visit, or for a node whose key is among `keys`. -/
def Covered (keys : Key → Prop) (atom : Atom) : Prop :=
  g.node atom = .ok none ∨ ∃ m, g.node atom = .ok (some m) ∧ keys (g.key m)

theorem Covered.mono {keys keys' : Key → Prop} {atom : Atom} (covered : Covered g keys atom)
    (more : ∀ k, keys k → keys' k) : Covered g keys' atom := by
  obtain none | ⟨m, found, known⟩ := covered
  · exact .inl none
  · exact .inr ⟨m, found, more _ known⟩

/-- The key is that of one of `new`, and of a node that reaches `n`. -/
def Above (new : List Node) (n : Node) (k : Key) : Prop :=
  k ∈ new.map g.key ∧ ∃ m, Found g m ∧ g.key m = k ∧ Reaches g m n

/-- What a search for `atoms` from `s` adds on its way to `s'`. Where a node is listed, everything
it has an edge to was seen before, is listed already, or is one that reaches it. -/
structure Grown (atoms : List Atom) (s : Progress Node Key) (new : List Node)
    (s' : Progress Node Key) : Prop where
  done : s'.done = s.done ++ new
  seen : ∀ k, k ∈ s'.seen ↔ k ∈ s.seen ∨ k ∈ new.map g.key
  distinct : (new.map g.key).Nodup
  fresh : ∀ n ∈ new, g.key n ∉ s.seen
  reached : ∀ n ∈ new, ∃ atom ∈ atoms, ∃ m, g.node atom = .ok (some m) ∧ Reaches g m n
  covered : ∀ atom ∈ atoms, Covered g (· ∈ s'.seen) atom
  ordered : ∀ before n after, new = before ++ n :: after → ∀ atom ∈ g.atoms n,
    Covered g (fun k => k ∈ s.seen ∨ k ∈ before.map g.key ∨ Above g new n k) atom

variable {g} {s s' s'' : Progress Node Key} {atom : Atom} {atoms atoms' : List Atom}
  {new new' : List Node}

theorem Above.mono {n : Node} {k : Key} (above : Above g new n k) (more : ∀ m ∈ new, m ∈ new') :
    Above g new' n k := by
  refine ⟨?_, above.2⟩
  obtain ⟨m, member, same⟩ := List.mem_map.mp above.1
  exact List.mem_map.mpr ⟨m, more m member, same⟩

theorem Grown.nil : Grown g [] s [] s where
  done := by simp
  seen k := by simp
  distinct := by simp
  fresh n member := absurd member List.not_mem_nil
  reached n member := absurd member List.not_mem_nil
  covered n member := absurd member List.not_mem_nil
  ordered before n after split := by simp at split

/-- Nothing was to be done for the atom. -/
theorem Grown.skip (covered : Covered g (· ∈ s.seen) atom) : Grown g [atom] s [] s where
  done := by simp
  seen k := by simp
  distinct := by simp
  fresh n member := absurd member List.not_mem_nil
  reached n member := absurd member List.not_mem_nil
  covered a member := List.mem_singleton.mp member ▸ covered
  ordered before n after split := by simp at split

theorem Grown.append (first : Grown g atoms s new s') (rest : Grown g atoms' s' new' s'') :
    Grown g (atoms ++ atoms') s (new ++ new') s'' where
  done := by rw [rest.done, first.done, List.append_assoc]
  seen k := by rw [rest.seen, first.seen, List.map_append, List.mem_append, or_assoc]
  distinct := by
    rw [List.map_append]
    refine first.distinct.append rest.distinct fun k early late => ?_
    obtain ⟨n, member, rfl⟩ := List.mem_map.mp late
    exact rest.fresh n member ((first.seen _).mpr (.inr early))
  fresh n member := by
    obtain early | late := List.mem_append.mp member
    · exact first.fresh n early
    · exact fun before => rest.fresh n late ((first.seen _).mpr (.inl before))
  reached n member := by
    obtain early | late := List.mem_append.mp member
    · obtain ⟨atom, member, found⟩ := first.reached n early
      exact ⟨atom, List.mem_append_left _ member, found⟩
    · obtain ⟨atom, member, found⟩ := rest.reached n late
      exact ⟨atom, List.mem_append_right _ member, found⟩
  covered atom member := by
    obtain early | late := List.mem_append.mp member
    · exact (first.covered atom early).mono g fun k known => (rest.seen k).mpr (.inl known)
    · exact rest.covered atom late
  ordered before n after split atom member := by
    have late (middle : List Node) (listed : before = new ++ middle) (tail : new' = middle ++ n :: after) :
        Covered g (fun k => k ∈ s.seen ∨ k ∈ before.map g.key ∨ Above g (new ++ new') n k) atom := by
      refine (rest.ordered middle n after tail atom member).mono g fun k known => ?_
      rw [listed, List.map_append, List.mem_append]
      obtain seen | listed | above := known
      · exact ((first.seen k).mp seen).imp_right fun early => .inl (.inl early)
      · exact .inr (.inl (.inr listed))
      · exact .inr (.inr (above.mono fun m member => List.mem_append_right new member))
    obtain ⟨middle, listed, tail⟩ | ⟨middle, tail, listed⟩ := List.append_eq_append_iff.mp split
    · exact late middle listed tail
    · cases middle with
      | nil => exact late [] (by simpa using tail.symm) (by simpa using listed.symm)
      | cons m middle =>
        obtain ⟨rfl, rfl⟩ := List.cons_eq_cons.mp listed
        refine (first.ordered before n middle tail atom member).mono g fun k known => ?_
        exact known.imp_right fun later => later.imp_right fun above =>
          above.mono fun m member => List.mem_append_left new' member

/-- A node is listed behind what was added for its own atoms. -/
theorem Grown.visit {n : Node} (found : g.node atom = .ok (some n)) (unseen : g.key n ∉ s.seen)
    (inner : Grown g (g.atoms n) { s with seen := g.key n :: s.seen } new s') :
    Grown g [atom] s (new ++ [n]) { s' with done := s'.done ++ [n] } where
  done := by simp [inner.done]
  seen k := by
    rw [inner.seen, List.map_append, List.mem_append, List.mem_cons, List.map_singleton,
      List.mem_singleton]
    tauto
  distinct := by
    rw [List.map_append, List.nodup_append_comm]
    refine List.nodup_cons.mpr ⟨fun again => ?_, inner.distinct⟩
    obtain ⟨m, member, same⟩ := List.mem_map.mp again
    exact inner.fresh m member (same ▸ List.mem_cons_self)
  fresh m member := by
    obtain early | last := List.mem_append.mp member
    · exact fun before => inner.fresh m early (List.mem_cons_of_mem _ before)
    · rwa [List.mem_singleton.mp last]
  reached m member := by
    refine ⟨atom, List.mem_singleton_self _, n, found, ?_⟩
    obtain early | last := List.mem_append.mp member
    · obtain ⟨a, own, k, stands, reaches⟩ := inner.reached m early
      exact .head ⟨a, own, stands⟩ reaches
    · rw [List.mem_singleton.mp last]
  covered a member := by
    rw [List.mem_singleton.mp member]
    exact .inr ⟨n, found, (inner.seen _).mpr (.inl List.mem_cons_self)⟩
  ordered before m after split a member := by
    -- an edge back to the node itself leads to one that reaches whatever was added below it
    have closes (last : before = new) (same : m = n) :
        Covered g (fun k => k ∈ s.seen ∨ k ∈ before.map g.key ∨ Above g (new ++ [n]) m k) a := by
      subst last same
      refine (inner.covered a member).mono g fun k known => ?_
      obtain seen | listed := (inner.seen k).mp known
      · obtain rfl | seen := List.mem_cons.mp seen
        · exact .inr (.inr ⟨by simp, m, ⟨atom, found⟩, rfl, .refl⟩)
        · exact .inl seen
      · exact .inr (.inl listed)
    obtain ⟨middle, listed, tail⟩ | ⟨middle, tail, listed⟩ := List.append_eq_append_iff.mp split
    · obtain ⟨rfl, rfl, rfl⟩ : middle = [] ∧ m = n ∧ after = [] := by
        cases middle <;> simp_all
      exact closes (by simpa using listed) rfl
    · cases middle with
      | nil =>
        obtain ⟨rfl, rfl⟩ := List.cons_eq_cons.mp listed
        exact closes (by simpa using tail.symm) rfl
      | cons head middle =>
        obtain ⟨rfl, -⟩ := List.cons_eq_cons.mp listed
        obtain ⟨b, own, k, stands, reaches⟩ := inner.reached m (tail ▸ by simp)
        refine (inner.ordered before m middle tail a member).mono g fun k known => ?_
        obtain seen | listed | above := known
        · obtain rfl | seen := List.mem_cons.mp seen
          · exact .inr (.inr ⟨by simp, n, ⟨atom, found⟩, rfl, .head ⟨b, own, stands⟩ reaches⟩)
          · exact .inl seen
        · exact .inr (.inl listed)
        · exact .inr (.inr (above.mono fun m member => List.mem_append_left [n] member))

theorem foldlM_grown {f : Progress Node Key → Atom → Except ε (Progress Node Key)}
    (turn : ∀ s atom s', f s atom = .ok s' → ∃ new, Grown g [atom] s new s')
    (ok : atoms.foldlM f s = .ok s') : ∃ new, Grown g atoms s new s' := by
  induction atoms generalizing s with
  | nil =>
    obtain rfl := Except.ok.inj ok
    exact ⟨[], .nil⟩
  | cons atom atoms ih =>
    rw [List.foldlM_cons] at ok
    obtain ⟨middle, turned, rest⟩ := bind_ok.mp ok
    obtain ⟨new, first⟩ := turn s atom middle turned
    obtain ⟨new', later⟩ := ih rest
    exact ⟨new ++ new', first.append later⟩

theorem search_some [DecidableEq Key] {stuck : ε} {fuel : Nat} {n : Node}
    (looked : g.node atom = .ok (some n)) :
    search g stuck (fuel + 1) s atom = if g.key n ∈ s.seen then .ok s else
      (g.atoms n).foldlM (search g stuck fuel) { s with seen := g.key n :: s.seen } >>= fun s' =>
        .ok { s' with done := s'.done ++ [n] } := by
  rw [search, looked]
  rfl

theorem search_grown [DecidableEq Key] {stuck : ε} {fuel : Nat}
    (ok : search g stuck fuel s atom = .ok s') :
    ∃ new, Grown g [atom] s new s' := by
  induction fuel generalizing s s' atom with
  | zero => cases ok
  | succ fuel ih =>
    cases looked : g.node atom with
    | error e =>
      rw [search, looked] at ok
      cases ok
    | ok found =>
    cases found with
    | none =>
      rw [search, looked] at ok
      obtain rfl := Except.ok.inj ok
      exact ⟨[], .skip (.inl looked)⟩
    | some n =>
      rw [search_some looked] at ok
      split at ok
      · next seen =>
        obtain rfl := Except.ok.inj ok
        exact ⟨[], .skip (.inr ⟨n, looked, seen⟩)⟩
      · next unseen =>
        obtain ⟨inner, descended, rest⟩ := bind_ok.mp ok
        obtain rfl := Except.ok.inj rest
        obtain ⟨new, grown⟩ := foldlM_grown (fun s atom s' => ih) descended
        exact ⟨new ++ [n], .visit looked unseen grown⟩

section Whole

/-- A search that began with nothing seen. -/
abbrev Complete (g : Graph Atom Node Key ε) (roots : List Atom) (new : List Node)
    (s' : Progress Node Key) : Prop := Grown g roots ⟨[], []⟩ new s'

variable {roots : List Atom}

theorem Grown.found (grown : Grown g atoms s new s') {n : Node} (member : n ∈ new) : Found g n := by
  obtain ⟨atom, -, m, stands, reaches⟩ := grown.reached n member
  obtain rfl | ⟨k, -, a, own, last⟩ := ReflTransGen.cases_tail_iff _ _ _ |>.mp reaches
  · exact ⟨atom, stands⟩
  · exact ⟨a, last⟩

/-- Every root and every atom of a listed node stands for a listed node, or for nothing. -/
theorem Grown.closed (grown : Complete g roots new s') :
    (∀ atom ∈ roots, Covered g (· ∈ new.map g.key) atom) ∧
      ∀ n ∈ new, ∀ atom ∈ g.atoms n, Covered g (· ∈ new.map g.key) atom := by
  constructor
  · intro atom member
    refine (grown.covered atom member).mono g fun k known => ?_
    exact ((grown.seen k).mp known).resolve_left List.not_mem_nil
  · intro n member atom own
    obtain ⟨before, after, rfl⟩ := List.append_of_mem member
    refine (grown.ordered before n after rfl atom own).mono g fun k known => ?_
    obtain seen | listed | above := known
    · cases seen
    · rw [List.map_append, List.mem_append]
      exact .inl listed
    · exact above.1

section Told

variable (told : ∀ m m', Found g m → Found g m' → g.key m = g.key m' → m = m')
include told

theorem Grown.edge (grown : Complete g roots new s') {n m : Node} (member : n ∈ new)
    (edge : Edge g n m) : m ∈ new := by
  obtain ⟨atom, own, stands⟩ := edge
  obtain none | ⟨k, found, known⟩ := grown.closed.2 n member atom own
  · rw [stands] at none
    cases none
  rw [stands] at found
  obtain rfl : m = k := by simpa using found
  obtain ⟨k, member, same⟩ := List.mem_map.mp known
  rwa [told m k ⟨atom, stands⟩ (grown.found member) same.symm]

/-- Whatever leads away from a listed node leads through listed ones. -/
theorem Grown.inside (grown : Complete g roots new s') {n m : Node} (member : n ∈ new)
    (path : TransGen (Edge g) n m) : TransGen (fun n m => n ∈ new ∧ Edge g n m) n m ∧ m ∈ new := by
  induction path with
  | single edge => exact ⟨.single ⟨member, edge⟩, grown.edge told member edge⟩
  | tail _ edge ih => exact ⟨ih.1.tail ⟨ih.2, edge⟩, grown.edge told ih.2 edge⟩

/-- Where no listed node leads back to itself, each is listed behind all it has an edge to. -/
theorem Grown.topological (grown : Complete g roots new s')
    (acyclic : ∀ n, ¬ TransGen (fun n m => n ∈ new ∧ Edge g n m) n n) {before after : List Node}
    {n m : Node} (split : new = before ++ n :: after) (edge : Edge g n m) : m ∈ before := by
  have member : n ∈ new := split ▸ by simp
  obtain ⟨atom, own, stands⟩ := edge
  obtain none | ⟨k, found, known⟩ := grown.ordered before n after split atom own
  · rw [stands] at none
    cases none
  rw [stands] at found
  obtain rfl : m = k := by simpa using found
  obtain seen | listed | ⟨-, up, above, same, reaches⟩ := known
  · cases seen
  · obtain ⟨k, member, same⟩ := List.mem_map.mp listed
    have listed : Found g k := grown.found (split ▸ List.mem_append_left _ member)
    rwa [told m k ⟨atom, stands⟩ listed same.symm]
  · obtain rfl := told up m above ⟨atom, stands⟩ same
    have back : TransGen (Edge g) n n := .head' ⟨atom, own, stands⟩ reaches
    exact absurd (grown.inside told member back).1 (acyclic n)

end Told

end Whole

section Fuel

variable [DecidableEq Key] {stuck : ε} {keys : List Key}

/-- How many keys may still be met. -/
def remaining (keys seen : List Key) : Nat := keys.countP (· ∉ seen)

theorem remaining_le_length (seen : List Key) : remaining keys seen ≤ keys.length :=
  List.countP_le_length

theorem remaining_mono {seen seen' : List Key} (more : ∀ k ∈ seen, k ∈ seen') :
    remaining keys seen' ≤ remaining keys seen := by
  refine List.countP_mono_left fun k _ unseen => ?_
  simp only [decide_eq_true_eq] at unseen ⊢
  exact fun before => unseen (more k before)

theorem remaining_cons {seen : List Key} {k : Key} (listed : k ∈ keys) (unseen : k ∉ seen) :
    remaining keys (k :: seen) < remaining keys seen := by
  induction keys with
  | nil => cases listed
  | cons head keys ih =>
    have fewer : remaining keys (k :: seen) ≤ remaining keys seen :=
      remaining_mono fun _ before => List.mem_cons_of_mem k before
    simp only [remaining, List.countP_cons, List.mem_cons] at ih fewer ⊢
    by_cases same : head = k
    · simp only [same, true_or, not_true_eq_false, unseen, not_false_eq_true, decide_true,
        decide_false, if_true]
      simp only [Bool.false_eq_true, if_false]
      omega
    · have later := ih ((List.mem_cons.mp listed).resolve_left (Ne.symm same))
      simp only [same, false_or]
      omega

/-- A loop over atoms goes on with no more keys left than it began with. -/
theorem Grown.remaining_le (grown : Grown g atoms s new s') :
    remaining keys s'.seen ≤ remaining keys s.seen :=
  remaining_mono fun k before => (grown.seen k).mpr (.inl before)

section Loop

variable {f f' : Progress Node Key → Atom → Except ε (Progress Node Key)} {room : Nat}
  (grows : ∀ s atom s', f s atom = .ok s' → ∃ new, Grown g [atom] s new s')
include grows

theorem foldlM_congr (same : ∀ s atom, remaining keys s.seen < room → f s atom = f' s atom)
    (enough : remaining keys s.seen < room) : atoms.foldlM f s = atoms.foldlM f' s := by
  induction atoms generalizing s with
  | nil => rfl
  | cons atom atoms ih =>
    rw [List.foldlM_cons, List.foldlM_cons, ← same s atom enough]
    cases turned : f s atom with
    | error e => rfl
    | ok s' =>
      obtain ⟨new, grown⟩ := grows s atom s' turned
      exact ih (Nat.lt_of_le_of_lt grown.remaining_le enough)

theorem foldlM_not_stuck (turn : ∀ s atom, remaining keys s.seen < room → f s atom ≠ .error stuck)
    (enough : remaining keys s.seen < room) : atoms.foldlM f s ≠ .error stuck := by
  induction atoms generalizing s with
  | nil => rintro ⟨⟩
  | cons atom atoms ih =>
    rw [List.foldlM_cons]
    cases turned : f s atom with
    | error e =>
      rintro ⟨⟩
      exact turn s atom enough turned
    | ok s' =>
      obtain ⟨new, grown⟩ := grows s atom s' turned
      exact ih (Nat.lt_of_le_of_lt grown.remaining_le enough)

end Loop

variable (listed : ∀ atom n, g.node atom = .ok (some n) → g.key n ∈ keys)
include listed

/-- With fuel for the keys that are left, more of it makes no difference. -/
theorem search_enough {fuel fuel' : Nat} (enough : remaining keys s.seen < fuel)
    (enough' : remaining keys s.seen < fuel') :
    search g stuck fuel s atom = search g stuck fuel' s atom := by
  induction fuel generalizing fuel' s atom with
  | zero => cases enough
  | succ fuel ih =>
    cases fuel' with
    | zero => cases enough'
    | succ fuel' =>
      cases looked : g.node atom with
      | error e => rw [search, search, looked]; rfl
      | ok found =>
        cases found with
        | none => rw [search, search, looked]; rfl
        | some n =>
          rw [search_some looked, search_some looked]
          by_cases seen : g.key n ∈ s.seen
          · rw [if_pos seen, if_pos seen]
          have fewer := remaining_cons (listed atom n looked) seen
          have inner : (g.atoms n).foldlM (search g stuck fuel) { s with seen := g.key n :: s.seen } =
              (g.atoms n).foldlM (search g stuck fuel') { s with seen := g.key n :: s.seen } := by
            refine foldlM_congr (fun _ _ _ => search_grown)
              (fun s' a room => ih (Nat.lt_of_lt_of_le room ?_) (Nat.lt_of_lt_of_le room ?_)) fewer
            · exact Nat.le_of_lt_succ enough
            · exact Nat.le_of_lt_succ enough'
          rw [inner]

theorem search_not_stuck (looks : ∀ atom, g.node atom ≠ .error stuck) {fuel : Nat}
    (enough : remaining keys s.seen < fuel) : search g stuck fuel s atom ≠ .error stuck := by
  induction fuel generalizing s atom with
  | zero => cases enough
  | succ fuel ih =>
    cases looked : g.node atom with
    | error e =>
      rw [search, looked]
      rintro ⟨⟩
      exact looks atom looked
    | ok found =>
      cases found with
      | none =>
        rw [search, looked]
        rintro ⟨⟩
      | some n =>
        rw [search_some looked]
        split
        · rintro ⟨⟩
        · next unseen =>
          have fewer := remaining_cons (listed atom n looked) unseen
          have inner : (g.atoms n).foldlM (search g stuck fuel) { s with seen := g.key n :: s.seen } ≠
              .error stuck :=
            foldlM_not_stuck (fun _ _ _ => search_grown)
              (fun s' a room => ih (Nat.lt_of_lt_of_le room (Nat.le_of_lt_succ enough))) fewer
          cases descended : (g.atoms n).foldlM (search g stuck fuel)
              { s with seen := g.key n :: s.seen } with
          | error e =>
            rintro ⟨⟩
            exact inner descended
          | ok s' => rintro ⟨⟩

end Fuel

end WinBoot.DepthFirst
