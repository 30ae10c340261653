import Mathlib.Data.List.Forall2
import WinBoot.Checks
import WinBoot.AdtWire

/-! What the report reveals: dumps that agree on the reported properties of the reported nodes give
the same report. A dump that parses is an encoded tree with something behind it, so dumps are
compared as trees, node by node. -/

namespace WinBoot.Adt

open Checks

/-! ### Dumps are encoded trees -/

theorem take_ok {size : Nat} {data : Bytes} {result : Bytes × Bytes}
    (ok : take size data = .ok result) : data = result.1 ++ result.2 ∧ result.1.length = size := by
  rw [take] at ok
  split at ok
  · cases ok
  · rename_i long
    obtain rfl := Except.ok.inj ok
    exact ⟨(List.take_append_drop ..).symm, List.length_take_of_le (by omega)⟩

theorem word_lt {bytes : Bytes} (four : bytes.length = 4) : word bytes < 2 ^ 32 := by
  match bytes, four with
  | [a, b, c, d], _ =>
    have ha := a.toNat_lt
    have hb := b.toNat_lt
    have hc := c.toNat_lt
    have hd := d.toNat_lt
    simp only [word, List.foldr_cons, List.foldr_nil]
    omega

theorem encodeWord_word {bytes : Bytes} (four : bytes.length = 4) :
    encodeWord (word bytes) = bytes := by
  match bytes, four with
  | [a, b, c, d], _ =>
    have ha := a.toNat_lt
    have hb := b.toNat_lt
    have hc := c.toNat_lt
    have hd := d.toNat_lt
    simp only [word, encodeWord, List.foldr_cons, List.foldr_nil, List.cons.injEq, and_true,
      ← UInt8.toNat_inj, Nat.toUInt8, UInt8.toNat_ofNat']
    omega

theorem takeWord_ok {data : Bytes} {result : Nat × Bytes} (ok : takeWord data = .ok result) :
    data = encodeWord result.1 ++ result.2 ∧ result.1 < 2 ^ 32 := by
  rw [takeWord, bind_ok] at ok
  obtain ⟨taken, took, last⟩ := ok
  obtain rfl := Except.ok.inj last
  obtain ⟨whole, four⟩ := take_ok took
  exact ⟨by rw [encodeWord_word four]; exact whole, word_lt four⟩

theorem readProperty_ok {props : Props} {data : Bytes} {result : Props × Bytes}
    (ok : readProperty props data = .ok result) :
    ∃ p : Property, data = p.encode ++ result.2 := by
  simp only [readProperty, bind_ok] at ok
  obtain ⟨field, tookField, key, -, size, tookSize, _, -, value, tookValue, tail, tookTail,
    last⟩ := ok
  obtain rfl := Except.ok.inj last
  obtain ⟨whole, width⟩ := take_ok tookField
  obtain ⟨behind, bound⟩ := takeWord_ok tookSize
  obtain ⟨body, length⟩ := take_ok tookValue
  obtain ⟨rest, padded⟩ := take_ok tookTail
  have mask : (0x7fffffff : Nat) = 2 ^ 31 - 1 := by decide
  rw [mask, Nat.and_two_pow_sub_one_eq_mod] at length padded
  have flagged : size.1 = value.1.length + if decide (2 ^ 31 ≤ size.1) then 2 ^ 31 else 0 := by
    rw [length]
    by_cases high : 2 ^ 31 ≤ size.1
    · rw [decide_eq_true high, if_pos rfl]
      omega
    · rw [decide_eq_false high, if_neg (by decide)]
      omega
  refine ⟨⟨field.1, decide (2 ^ 31 ≤ size.1), value.1, tail.1, width, by omega,
    by rw [padded, length]⟩, ?_⟩
  simp only [Property.encode, Property.word, ← flagged, List.append_assoc, ← rest, ← body, ← behind]
  exact whole

theorem readProperties_ok {count : Nat} {props : Props} {data : Bytes} {result : Props × Bytes}
    (ok : readProperties count props data = .ok result) : ∃ properties : List Property,
      properties.length = count ∧ data = properties.flatMap Property.encode ++ result.2 := by
  induction count generalizing props data with
  | zero =>
    obtain rfl := Except.ok.inj ok
    exact ⟨[], rfl, rfl⟩
  | succ count ih =>
    rw [readProperties, bind_ok] at ok
    obtain ⟨first, took, later⟩ := ok
    obtain ⟨p, front⟩ := readProperty_ok took
    obtain ⟨properties, length, rest⟩ := ih later
    refine ⟨p :: properties, by rw [List.length_cons, length], ?_⟩
    rw [List.flatMap_cons, List.append_assoc, ← rest]
    exact front

theorem times_ok {levels : Nat} {path : Bytes}
    (below : ∀ nodes data result, node levels path nodes data = .ok result →
      ∃ tree : Tree, tree.Counted ∧ data = tree.encode ++ result.2)
    {count : Nat} {nodes : Nodes} {data : Bytes} {result : Nodes × Bytes}
    (ok : times (node levels path) count nodes data = .ok result) : ∃ trees : List Tree,
      trees.length = count ∧ AllCounted trees ∧ data = encodeAll trees ++ result.2 := by
  induction count generalizing nodes data with
  | zero =>
    obtain rfl := Except.ok.inj ok
    exact ⟨[], rfl, trivial, rfl⟩
  | succ count ih =>
    rw [times, bind_ok] at ok
    obtain ⟨first, took, later⟩ := ok
    obtain ⟨tree, counted, front⟩ := below nodes data first took
    obtain ⟨trees, length, all, rest⟩ := ih later
    refine ⟨tree :: trees, by rw [List.length_cons, length], ⟨counted, all⟩, ?_⟩
    rw [encodeAll, List.append_assoc, ← rest]
    exact front

theorem node_ok {levels : Nat} {parent : Bytes} {nodes : Nodes} {data : Bytes}
    {result : Nodes × Bytes} (ok : node levels parent nodes data = .ok result) :
    ∃ tree : Tree, tree.Counted ∧ data = tree.encode ++ result.2 := by
  induction levels generalizing parent nodes data result with
  | zero => cases ok
  | succ levels ih =>
    simp only [node, bind_ok] at ok
    obtain ⟨_, -, counts, tookCounts, _, -, props, tookProps, path, -, rest⟩ := ok
    obtain ⟨whole, eight⟩ := take_ok tookCounts
    obtain ⟨properties, fewProperties, body⟩ := readProperties_ok tookProps
    obtain ⟨children, fewChildren, all, behind⟩ :=
      times_ok (fun nodes data result below => ih below) rest
    have first : (counts.1.take 4).length = 4 := List.length_take_of_le (by omega)
    have second : (counts.1.drop 4).length = 4 := by rw [List.length_drop, eight]
    have boundProperties := word_lt first
    have boundChildren := word_lt second
    refine ⟨.node properties children, ⟨by omega, by omega, all⟩, ?_⟩
    rw [Tree.encode, fewProperties, fewChildren, encodeWord_word first, encodeWord_word second,
      List.take_append_drop, List.append_assoc, List.append_assoc, ← behind, ← body]
    exact whole

/-- Every dump that parses is the encoding of some tree and what follows it. -/
theorem parse_encoded {data : Bytes} {nodes : Nodes} (ok : parse data = .ok nodes) :
    ∃ (tree : Tree) (rest : Bytes), tree.Counted ∧ data = tree.encode ++ rest := by
  rw [parse, bind_ok] at ok
  obtain ⟨result, ran, -⟩ := ok
  obtain ⟨tree, counted, whole⟩ := node_ok ran
  exact ⟨tree, result.2, counted, whole⟩

/-! ### The table of a tree -/

def childPath (parent name : Bytes) : Bytes := rstrip 47 parent ++ 47 :: name

mutual

/-- The nodes of a tree in the parser's order, by the paths it gives them. -/
def Tree.table (path : Bytes) : Tree → Nodes
  | .node properties children => (path, propsOf properties) :: tableAll path children

def tableAll (parent : Bytes) : List Tree → Nodes
  | [] => []
  | tree :: trees => tree.table (childPath parent tree.name) ++ tableAll parent trees

end

theorem addProperty_ok {props result : Props} {p : Property}
    (ok : addProperty props p = .ok result) : result = props ++ [(keyOf p.field, p.value)] := by
  simp only [addProperty, bind_ok] at ok
  obtain ⟨key, decoded, _, -, last⟩ := ok
  rw [decodeAscii] at decoded
  split at decoded
  · rw [← Except.ok.inj decoded] at last
    exact (Except.ok.inj last).symm
  · cases decoded

theorem foldlM_addProperty_ok {properties : List Property} {props result : Props}
    (ok : properties.foldlM addProperty props = .ok result) :
    result = props ++ propsOf properties := by
  induction properties generalizing props with
  | nil => exact (Except.ok.inj ok).symm.trans (List.append_nil props).symm
  | cons p properties ih =>
    rw [List.foldlM_cons, bind_ok] at ok
    obtain ⟨more, added, later⟩ := ok
    rw [ih later, addProperty_ok added, List.append_assoc]
    rfl

theorem nodePath_eq {depth : Nat} {parent path : Bytes} {props : Props} {nodes : Nodes}
    (ok : nodePath depth parent props nodes = .ok path) : path =
      if depth = 0 then [47] else childPath parent (rstrip 0 (lookup nameKey props)) := by
  simp only [nodePath, bind_ok] at ok
  obtain ⟨name, decoded, _, -, _, -, last⟩ := ok
  rw [decodeAscii] at decoded
  split at decoded
  · rw [← Except.ok.inj decoded] at last
    exact (Except.ok.inj last).symm
  · cases decoded

mutual

/-- A tree that loads adds its table, whatever was checked on the way. -/
theorem load_table (levels : Nat) (parent : Bytes) (nodes : Nodes) {result : Nodes} :
    ∀ tree : Tree, tree.load (levels + 1) parent nodes = .ok result → levels ≤ 64 →
      result = nodes ++ tree.table
        (if 64 - levels = 0 then [47] else childPath parent tree.name)
  | .node properties children, ok, deep => by
    rw [Tree.load] at ok
    simp only [bind_ok] at ok
    obtain ⟨_, -, _, -, props, added, path, placed, rest⟩ := ok
    have listed := foldlM_addProperty_ok added
    rw [List.nil_append] at listed
    rw [listed] at placed rest
    have below := loadAll_table levels path _ children rest (by omega)
    rw [below, Tree.table, Tree.name, ← nodePath_eq placed, List.append_assoc]
    rfl

theorem loadAll_table (levels : Nat) (parent : Bytes) (nodes : Nodes) {result : Nodes} :
    ∀ trees : List Tree, loadAll levels parent nodes trees = .ok result → levels ≤ 64 →
      result = nodes ++ tableAll parent trees
  | [], ok, _ => by
    rw [loadAll] at ok
    rw [tableAll, List.append_nil]
    exact (Except.ok.inj ok).symm
  | tree :: trees, ok, deep => by
    rw [loadAll, bind_ok] at ok
    obtain ⟨more, first, rest⟩ := ok
    cases levels with
    | zero =>
      cases tree
      cases first
    | succ levels =>
      have front := load_table levels parent nodes tree first (by omega)
      have back := loadAll_table (levels + 1) parent more trees rest deep
      rw [if_neg (by omega)] at front
      rw [back, front, tableAll, List.append_assoc]

end

theorem parse_table {tree : Tree} (counted : tree.Counted) {rest : Bytes} {nodes : Nodes}
    (ok : parse (tree.encode ++ rest) = .ok nodes) : nodes = tree.table [47] := by
  rw [parse_encode counted] at ok
  simpa using load_table 64 [] [] tree ok (Nat.le_refl _)

/-! ### Dumps that differ where the report does not look -/

section

variable (R : Bytes → Props → Props → Prop)

mutual

/-- Trees of one shape whose nodes' properties are related at each path. -/
inductive Related : Bytes → Tree → Tree → Prop where
  | node {path : Bytes} {ps₁ ps₂ : List Property} {cs₁ cs₂ : List Tree}
      (here : R path (propsOf ps₁) (propsOf ps₂)) (below : RelatedAll path cs₁ cs₂) :
      Related path (.node ps₁ cs₁) (.node ps₂ cs₂)

inductive RelatedAll : Bytes → List Tree → List Tree → Prop where
  | nil {path : Bytes} : RelatedAll path [] []
  | cons {path : Bytes} {t₁ t₂ : Tree} {ts₁ ts₂ : List Tree}
      (first : Related (childPath path t₁.name) t₁ t₂) (rest : RelatedAll path ts₁ ts₂) :
      RelatedAll path (t₁ :: ts₁) (t₂ :: ts₂)

end

/-- Two dumps of related trees, with anything behind them. -/
def RelatedDumps (d₁ d₂ : Bytes) : Prop :=
  ∃ (t₁ t₂ : Tree) (rest₁ rest₂ : Bytes), t₁.Counted ∧ t₂.Counted ∧ d₁ = t₁.encode ++ rest₁ ∧
    d₂ = t₂.encode ++ rest₂ ∧ Related R [47] t₁ t₂

end

/-- The keys whose values may be told from the report. -/
def revealed (key : Bytes) : Bool := allowed.contains key || key = modelKey || key = targetKey

/-- The same keys and value lengths, and the same values under revealed keys. -/
def PrivatelyDiffer (_ : Bytes) (a b : Props) : Prop :=
  List.Forall₂ (fun p q => p.1 = q.1 ∧ p.2.length = q.2.length ∧ (revealed p.1 → p.2 = q.2)) a b

/-- Unreported nodes may differ in everything but the name and, at the root, the target. -/
def DifferOutside (path : Bytes) (a b : Props) : Prop :=
  if reported path then a = b
  else lookup nameKey a = lookup nameKey b ∧ (path = [47] →
    lookup modelKey a = lookup modelKey b ∧ lookup targetKey a = lookup targetKey b)

/-- What a relation of properties must keep for the report not to tell them apart. -/
structure Hidden (R : Bytes → Props → Props → Prop) : Prop where
  name : ∀ {path a b}, R path a b → lookup nameKey a = lookup nameKey b
  root : ∀ {a b}, R [47] a b → lookup modelKey a = lookup modelKey b ∧
    lookup targetKey a = lookup targetKey b
  entry : ∀ {path a b}, R path a b → reported path → entryOf a = entryOf b

section

variable {R : Bytes → Props → Props → Prop} (hidden : Hidden R)

def entries (nodes : Nodes) : Report :=
  (nodes.filter fun entry => reported entry.1).map fun entry => (entry.1, entryOf entry.2)

theorem entries_append (a b : Nodes) : entries (a ++ b) = entries a ++ entries b := by
  simp [entries]

theorem entries_cons (path : Bytes) (props : Props) (nodes : Nodes) :
    entries ((path, props) :: nodes) =
      (if reported path then [(path, entryOf props)] else []) ++ entries nodes := by
  by_cases shown : reported path <;> simp [entries, shown]

include hidden

theorem Related.names {path : Bytes} {t₁ t₂ : Tree} (related : Related R path t₁ t₂) :
    t₁.name = t₂.name := by
  cases related with
  | node here below => rw [Tree.name, Tree.name, hidden.name here]

mutual

theorem related_entries : ∀ {path : Bytes} {t₁ t₂ : Tree}, Related R path t₁ t₂ →
    entries (t₁.table path) = entries (t₂.table path)
  | path, .node ps₁ cs₁, .node ps₂ cs₂, .node here below => by
    rw [Tree.table, Tree.table, entries_cons, entries_cons, relatedAll_entries below]
    by_cases shown : reported path
    · rw [if_pos shown, if_pos shown, hidden.entry here shown]
    · rw [if_neg shown, if_neg shown]

theorem relatedAll_entries : ∀ {path : Bytes} {ts₁ ts₂ : List Tree}, RelatedAll R path ts₁ ts₂ →
    entries (tableAll path ts₁) = entries (tableAll path ts₂)
  | _, _, _, .nil => rfl
  | path, t₁ :: ts₁, t₂ :: ts₂, .cons first rest => by
    rw [tableAll, tableAll, entries_append, entries_append, relatedAll_entries rest,
      related_entries first, first.names hidden]

end

/-- Related dumps that parse are summarized alike. -/
theorem summarize_related {d₁ d₂ : Bytes} (related : RelatedDumps R d₁ d₂) {n₁ n₂ : Nodes}
    (first : parse d₁ = .ok n₁) (second : parse d₂ = .ok n₂) : summarize n₁ = summarize n₂ := by
  obtain ⟨t₁, t₂, rest₁, rest₂, counted₁, counted₂, rfl, rfl, alike⟩ := related
  have same : entries n₁ = entries n₂ := by
    rw [parse_table counted₁ first, parse_table counted₂ second]
    exact related_entries hidden alike
  have roots : lookup modelKey (get n₁ [47]) = lookup modelKey (get n₂ [47]) ∧
      lookup targetKey (get n₁ [47]) = lookup targetKey (get n₂ [47]) := by
    rw [parse_table counted₁ first, parse_table counted₂ second]
    cases alike with
    | node here below => simpa [get, Tree.table] using hidden.root here
  rw [summarize, summarize, roots.1, roots.2]
  change (require _ _ >>= fun _ => .ok (entries n₁)) = (require _ _ >>= fun _ => .ok (entries n₂))
  rw [same]

end

theorem lookup_of_forall₂ {key : Bytes} (open_ : revealed key) {a b : Props}
    (alike : List.Forall₂ (fun p q => p.1 = q.1 ∧ p.2.length = q.2.length ∧
      (revealed p.1 → p.2 = q.2)) a b) : lookup key a = lookup key b := by
  have same : a.lookup key = b.lookup key := by
    induction alike with
    | nil => rfl
    | @cons p q a b first _ ih =>
      obtain ⟨k, v⟩ := p
      obtain ⟨k', v'⟩ := q
      obtain ⟨rfl, -, value⟩ := first
      rw [List.lookup_cons, List.lookup_cons, ih]
      by_cases here : key = k
      · subst here
        rw [show v = v' from value open_]
      · rw [beq_eq_false_iff_ne.mpr here]
  rw [lookup, lookup, same]

theorem entryOf_cons (key value : Bytes) (props : Props) : entryOf ((key, value) :: props) =
    (if allowed.contains key then [(key, shown key value)] else []) ++ entryOf props := by
  rw [entryOf, List.filter_cons]
  split <;> rfl

theorem privatelyDiffer_hidden : Hidden PrivatelyDiffer where
  name := lookup_of_forall₂ (by decide +kernel)
  root alike := ⟨lookup_of_forall₂ (by decide +kernel) alike,
    lookup_of_forall₂ (by decide +kernel) alike⟩
  entry := by
    intro path a b alike _
    induction alike with
    | nil => rfl
    | @cons p q a b first _ ih =>
      obtain ⟨k, v⟩ := p
      obtain ⟨k', v'⟩ := q
      obtain ⟨rfl, -, value⟩ := first
      rw [entryOf_cons, entryOf_cons, ih]
      by_cases listed : allowed.contains k
      · have open_ : revealed k := by rw [revealed, listed, Bool.true_or, Bool.true_or]
        rw [show v = v' from value open_]
      · rw [if_neg listed, if_neg listed]

theorem differOutside_hidden : Hidden DifferOutside where
  name := by
    intro path a b alike
    rw [DifferOutside] at alike
    split at alike
    · rw [alike]
    · exact alike.1
  root := by
    intro a b alike
    have outside : ¬reported [47] := by decide +kernel
    rw [DifferOutside, if_neg outside] at alike
    exact alike.2 rfl
  entry := by
    intro path a b alike shown
    rw [DifferOutside, if_pos shown] at alike
    rw [alike]

/-- The report of an accepted dump depends neither on the values of private properties nor on
anything but the names of unreported nodes. -/
theorem report_confidential {d₁ d₂ : Bytes} {n₁ n₂ : Nodes} {r₁ r₂ : Report}
    (parsed₁ : parse d₁ = .ok n₁) (parsed₂ : parse d₂ = .ok n₂)
    (summarized₁ : summarize n₁ = .ok r₁) (summarized₂ : summarize n₂ = .ok r₂)
    (alike : RelatedDumps PrivatelyDiffer d₁ d₂ ∨ RelatedDumps DifferOutside d₁ d₂) :
    r₁ = r₂ := by
  have same : summarize n₁ = summarize n₂ := by
    rcases alike with values | outside
    · exact summarize_related privatelyDiffer_hidden values parsed₁ parsed₂
    · exact summarize_related differOutside_hidden outside parsed₁ parsed₂
  rw [summarized₁, summarized₂] at same
  exact Except.ok.inj same

def fixtureReport : Report :=
  [(ascii "/wlan", [(ascii "name", "wlan".toList), (ascii "compatible", "wlan-pcie,bcm4350".toList)])]

theorem fixture_related : RelatedDumps PrivatelyDiffer
    (fixture [1, 2] [3, 4, 5] (by decide) (by decide)).encode
    (fixture [6, 7] [8, 9, 10] (by decide) (by decide)).encode := by
  refine ⟨_, _, [], [], ?_, ?_, (List.append_nil _).symm, (List.append_nil _).symm, ?_⟩
  · simp [fixture, Tree.Counted, AllCounted]
  · simp [fixture, Tree.Counted, AllCounted]
  · refine .node ?_ (.cons (.node ?_ .nil) .nil)
    · exact .cons ⟨rfl, rfl, fun _ => rfl⟩ (.cons ⟨rfl, rfl, fun _ => rfl⟩
        (.cons ⟨rfl, rfl, fun _ => rfl⟩ (.cons ⟨rfl, rfl, by decide +kernel⟩ .nil)))
    · exact .cons ⟨rfl, rfl, fun _ => rfl⟩ (.cons ⟨rfl, rfl, fun _ => rfl⟩
        (.cons ⟨rfl, rfl, by decide +kernel⟩ .nil))

theorem fixture_report_confidential : ∃ (n₁ n₂ : Nodes) (r₁ r₂ : Report),
    parse (fixture [1, 2] [3, 4, 5] (by decide) (by decide)).encode = .ok n₁ ∧
    parse (fixture [6, 7] [8, 9, 10] (by decide) (by decide)).encode = .ok n₂ ∧ n₁ ≠ n₂ ∧
    summarize n₁ = .ok r₁ ∧ summarize n₂ = .ok r₂ ∧ r₁ = r₂ := by
  have parsed₁ : parse (fixture [1, 2] [3, 4, 5] (by decide) (by decide)).encode =
      .ok ((fixture [1, 2] [3, 4, 5] (by decide) (by decide)).table [47]) :=
    ok_of_toOption (by decide +kernel)
  have parsed₂ : parse (fixture [6, 7] [8, 9, 10] (by decide) (by decide)).encode =
      .ok ((fixture [6, 7] [8, 9, 10] (by decide) (by decide)).table [47]) :=
    ok_of_toOption (by decide +kernel)
  have summarized₁ : summarize ((fixture [1, 2] [3, 4, 5] (by decide) (by decide)).table [47]) =
      .ok fixtureReport := ok_of_toOption (by decide +kernel)
  have summarized₂ : summarize ((fixture [6, 7] [8, 9, 10] (by decide) (by decide)).table [47]) =
      .ok fixtureReport := ok_of_toOption (by decide +kernel)
  exact ⟨_, _, _, _, parsed₁, parsed₂, by decide +kernel, summarized₁, summarized₂,
    report_confidential parsed₁ parsed₂ summarized₁ summarized₂ (.inl fixture_related)⟩

end WinBoot.Adt
