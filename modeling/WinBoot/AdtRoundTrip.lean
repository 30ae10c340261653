import WinBoot.AdtWire
import WinBoot.Checks
import WinBoot.PathSegments

/-! Reading back an encoded device tree: the parser returns every node's properties under its full
path, whatever follows the encoding, and refuses every shorter prefix of it. -/

namespace WinBoot.Adt

open PathSegments Checks

mutual

def Tree.size : Tree → Nat
  | .node _ children => 1 + sizeAll children

def sizeAll : List Tree → Nat
  | [] => 0
  | tree :: trees => tree.size + sizeAll trees

end

mutual

/-- The number of levels, the root included. -/
def Tree.height : Tree → Nat
  | .node _ children => 1 + heightAll children

def heightAll : List Tree → Nat
  | [] => 0
  | tree :: trees => max tree.height (heightAll trees)

end

mutual

/-- Every node with the names that lead to it, in the order of the wire. -/
def Tree.listing (address : List Bytes) : Tree → List (List Bytes × Props)
  | .node properties children => (address, propsOf properties) :: listingAll address children

def listingAll (address : List Bytes) : List Tree → List (List Bytes × Props)
  | [] => []
  | tree :: trees => tree.listing (address ++ [tree.name]) ++ listingAll address trees

end

def fullPath (address : List Bytes) : Bytes :=
  if address = [] then [47] else address.flatMap fun name => 47 :: name

structure NameOk (name : Bytes) : Prop where
  nonempty : name ≠ []
  ascii : ∀ b ∈ name, b < 128
  slash : 47 ∉ name
  nul : 0 ∉ name

/-- What a node holds besides its children. -/
structure PropertiesOk (properties : List Property) : Prop where
  few : properties.length ≤ 4096
  ascii : ∀ p ∈ properties, ∀ b ∈ keyOf p.field, b < 128
  distinct : (properties.map fun p => keyOf p.field).Nodup

mutual

def Tree.Ok : Tree → Prop
  | .node properties children =>
    PropertiesOk properties ∧ NameOk (rstrip 0 (lookup nameKey (propsOf properties))) ∧
      children.length ≤ 4096 ∧ (children.map Tree.name).Nodup ∧ AllOk children

def AllOk : List Tree → Prop
  | [] => True
  | tree :: trees => tree.Ok ∧ AllOk trees

end

mutual

theorem Tree.Ok.counted : ∀ {tree : Tree}, tree.Ok → tree.Counted
  | .node properties children, ok => by
    have few := ok.1.few
    have fewer := ok.2.2.1
    exact ⟨by omega, by omega, allCounted ok.2.2.2.2⟩

theorem allCounted : ∀ {trees : List Tree}, AllOk trees → AllCounted trees
  | [], _ => trivial
  | _ :: _, ok => ⟨ok.1.counted, allCounted ok.2⟩

end

/-! ### Paths -/

theorem splitOn_flatMap {address : List Bytes} (free : ∀ name ∈ address, 47 ∉ name)
    (text : Bytes) : (text ++ address.flatMap fun name => 47 :: name).splitOn 47 =
      text.splitOn 47 ++ address := by
  induction address generalizing text with
  | nil => simp
  | cons name address ih =>
    have bare := List.splitOn_eq_singleton (free name List.mem_cons_self)
    have rest := ih (fun other member => free other (List.mem_cons_of_mem _ member)) name
    rw [List.flatMap_cons, List.cons_append, List.splitOn_append_cons_self, rest, bare]
    rfl

/-- The names that lead to a node are the components of its path. -/
theorem components_fullPath {address : List Bytes} (ok : ∀ name ∈ address, NameOk name) :
    components 47 (fullPath address) = address := by
  rw [fullPath]
  split
  · rename_i root
    rw [root]
    decide
  · have cut := splitOn_flatMap (fun name member => (ok name member).slash) []
    rw [List.nil_append] at cut
    rw [components, cut, List.splitOn_nil, List.singleton_append]
    refine (List.filter_cons_of_neg (by simp)).trans (List.filter_eq_self.mpr ?_)
    intro name member
    simpa using (ok name member).nonempty

theorem rstrip_of_last {byte : UInt8} {text : Bytes}
    (last : ∀ h : text ≠ [], text.getLast h ≠ byte) :
    rstrip byte text = text :=
  List.rdropWhile_eq_self_iff.mpr fun h => by simpa using last h

/-- The parser's way to a child's path. -/
theorem childPath_fullPath {address : List Bytes} (ok : ∀ name ∈ address, NameOk name)
    (name : Bytes) :
    rstrip 47 (fullPath address) ++ 47 :: name = fullPath (address ++ [name]) := by
  by_cases root : address = []
  · subst root
    simp [fullPath, rstrip]
  · obtain ⟨front, last, rfl⟩ : ∃ front last, address = front ++ [last] :=
      ⟨_, _, (List.dropLast_append_getLast root).symm⟩
    have named := ok last (by simp)
    have plain : rstrip 47 (fullPath (front ++ [last])) = fullPath (front ++ [last]) := by
      refine rstrip_of_last fun h => ?_
      have ends : fullPath (front ++ [last]) =
          front.flatMap (fun name => 47 :: name) ++ [47] ++ last := by
        simp [fullPath]
      simp only [ends, List.getLast_append_of_ne_nil _ named.nonempty]
      intro slash
      exact named.slash (slash ▸ List.getLast_mem named.nonempty)
    rw [plain]
    simp [fullPath]

/-! ### The listing -/

theorem Tree.Ok.name {tree : Tree} (ok : tree.Ok) : NameOk tree.name := by
  cases tree
  exact ok.2.1

theorem ok_snoc {address : List Bytes} {name : Bytes} (ok : ∀ n ∈ address, NameOk n)
    (named : NameOk name) : ∀ n ∈ address ++ [name], NameOk n := by
  intro n member
  rcases List.mem_append.mp member with early | last
  · exact ok n early
  · rw [List.mem_singleton.mp last]
    exact named

mutual

/-- Below a node every address begins with the node's own and is made of good names. -/
theorem listing_below (address : List Bytes) (names : ∀ n ∈ address, NameOk n) :
    ∀ tree : Tree, tree.Ok → ∀ entry ∈ tree.listing address,
      address <+: entry.1 ∧ ∀ n ∈ entry.1, NameOk n
  | .node properties children, ok, entry, member => by
    rw [Tree.listing, List.mem_cons] at member
    rcases member with rfl | below
    · exact ⟨List.prefix_rfl, names⟩
    · obtain ⟨name, -, inside, named⟩ :=
        listingAll_below address names children ok.2.2.2.2 entry below
      exact ⟨(List.prefix_append _ _).trans inside, named⟩

theorem listingAll_below (address : List Bytes) (names : ∀ n ∈ address, NameOk n) :
    ∀ trees : List Tree, AllOk trees → ∀ entry ∈ listingAll address trees,
      ∃ name ∈ trees.map Tree.name, address ++ [name] <+: entry.1 ∧ ∀ n ∈ entry.1, NameOk n
  | [], _, entry, member => by
    rw [listingAll] at member
    cases member
  | tree :: trees, ok, entry, member => by
    rw [listingAll, List.mem_append] at member
    rcases member with here | later
    · have named := ok_snoc names ok.1.name
      exact ⟨tree.name, by simp, listing_below (address ++ [tree.name]) named tree ok.1 entry here⟩
    · obtain ⟨name, listed, rest⟩ := listingAll_below address names trees ok.2 entry later
      exact ⟨name, List.mem_cons_of_mem _ listed, rest⟩

end

theorem snoc_prefix_inj {address : List Bytes} {a b : Bytes} {whole : List Bytes}
    (first : address ++ [a] <+: whole) (second : address ++ [b] <+: whole) : a = b := by
  have same := List.prefix_of_prefix_length_le first second (by simp)
  have equal := same.eq_of_length (by simp)
  simpa using equal

mutual

theorem listing_distinct (address : List Bytes) (names : ∀ n ∈ address, NameOk n) :
    ∀ tree : Tree, tree.Ok → ((tree.listing address).map Prod.fst).Nodup
  | .node properties children, ok => by
    rw [Tree.listing, List.map_cons, List.nodup_cons]
    refine ⟨fun again => ?_, listingAll_distinct address names children ok.2.2.2.2 ok.2.2.2.1⟩
    obtain ⟨entry, below, same⟩ := List.mem_map.mp again
    obtain ⟨name, -, longer, -⟩ :=
      listingAll_below address names children ok.2.2.2.2 entry below
    have at_node : entry.1 = address := same
    have lengths := longer.length_le
    rw [at_node, List.length_append, List.length_singleton] at lengths
    omega

theorem listingAll_distinct (address : List Bytes) (names : ∀ n ∈ address, NameOk n) :
    ∀ trees : List Tree, AllOk trees → (trees.map Tree.name).Nodup →
      ((listingAll address trees).map Prod.fst).Nodup
  | [], _, _ => by simp [listingAll]
  | tree :: trees, ok, distinct => by
    rw [List.map_cons, List.nodup_cons] at distinct
    have named := ok_snoc names ok.1.name
    rw [listingAll, List.map_append, List.nodup_append]
    refine ⟨listing_distinct _ named tree ok.1,
      listingAll_distinct address names trees ok.2 distinct.2, ?_⟩
    intro a here b there same
    obtain ⟨entry, member, rfl⟩ := List.mem_map.mp here
    obtain ⟨other, later, rfl⟩ := List.mem_map.mp there
    obtain ⟨first, -⟩ := listing_below _ named tree ok.1 entry member
    obtain ⟨name, listed, second, -⟩ := listingAll_below address names trees ok.2 other later
    rw [← same] at second
    exact distinct.1 (snoc_prefix_inj first second ▸ listed)

end

/-- What the parser should return: every full path with its node's properties. -/
def Tree.nodes (tree : Tree) (address : List Bytes) : Nodes :=
  (tree.listing address).map fun entry => (fullPath entry.1, entry.2)

theorem nodes_distinct {tree : Tree} (ok : tree.Ok) : ((tree.nodes []).map Prod.fst).Nodup := by
  have none : ∀ n ∈ ([] : List Bytes), NameOk n := by simp
  have apart := listing_distinct [] none tree ok
  rw [Tree.nodes, List.map_map]
  rw [List.Nodup, List.pairwise_map] at apart ⊢
  refine apart.imp_of_mem fun here there differ same => differ ?_
  have first := components_fullPath (listing_below [] none tree ok _ here).2
  have second := components_fullPath (listing_below [] none tree ok _ there).2
  rw [← first, ← second]
  exact congrArg (components 47) same

mutual

theorem listing_length (address : List Bytes) :
    ∀ tree : Tree, (tree.listing address).length = tree.size
  | .node properties children => by
    rw [Tree.listing, List.length_cons, listingAll_length address children, Tree.size, Nat.add_comm]

theorem listingAll_length (address : List Bytes) :
    ∀ trees : List Tree, (listingAll address trees).length = sizeAll trees
  | [] => rfl
  | tree :: trees => by
    rw [listingAll, List.length_append, listing_length (address ++ [tree.name]) tree,
      listingAll_length address trees, sizeAll]

end

/-! ### Loading -/

theorem ok_require {good : Prop} [Decidable good] (yes : good) (error : AdtError) :
    require good error = .ok () := if_pos yes

theorem decodeAscii_ok {text : Bytes} (ascii : ∀ b ∈ text, b < 128) :
    decodeAscii text = .ok text :=
  if_pos (List.all_eq_true.mpr fun b member => decide_eq_true (ascii b member))

theorem foldlM_addProperty {properties : List Property} {props : Props}
    (ascii : ∀ p ∈ properties, ∀ b ∈ keyOf p.field, b < 128)
    (distinct : (props.map Prod.fst ++ properties.map fun p => keyOf p.field).Nodup) :
    properties.foldlM addProperty props = .ok (props ++ propsOf properties) := by
  induction properties generalizing props with
  | nil => exact congrArg Except.ok (List.append_nil props).symm
  | cons p properties ih =>
    rw [List.map_cons, List.append_cons] at distinct
    have fresh : keyOf p.field ∉ props.map Prod.fst := by
      intro taken
      have front := (List.nodup_append.mp distinct).1
      rw [List.nodup_append] at front
      exact front.2.2 _ taken _ List.mem_cons_self rfl
    have added : addProperty props p = .ok (props ++ [(keyOf p.field, p.value)]) := by
      rw [addProperty, decodeAscii_ok (ascii p List.mem_cons_self)]
      simp only [bind, Except.bind, ok_require fresh]
      rfl
    have later : ((props ++ [(keyOf p.field, p.value)]).map Prod.fst ++
        properties.map fun p => keyOf p.field).Nodup := by simpa using distinct
    have rest := ih (fun q member => ascii q (List.mem_cons_of_mem _ member)) later
    rw [List.foldlM_cons, added]
    exact rest.trans (by simp [propsOf])

theorem nodePath_ok {depth : Nat} {address : List Bytes} {props : Props} {nodes : Nodes}
    {parent : Bytes} (named : NameOk (rstrip 0 (lookup nameKey props)))
    (path : (if depth = 0 then [47] else rstrip 47 parent ++ 47 :: rstrip 0 (lookup nameKey props)) =
      fullPath address) (fresh : fullPath address ∉ nodes.map Prod.fst) :
    nodePath depth parent props nodes = .ok (fullPath address) := by
  have good : ¬(rstrip 0 (lookup nameKey props) = [] ∨
      47 ∈ rstrip 0 (lookup nameKey props) ∧ depth ≠ 0) := by
    rintro (empty | ⟨slash, -⟩)
    · exact named.nonempty empty
    · exact named.slash slash
  rw [nodePath, decodeAscii_ok named.ascii]
  simp only [bind, Except.bind, ok_require good, path, ok_require fresh]
  rfl

/-- How the parser comes to the node at an address: at the root, or below its parent. -/
inductive Reaches : Nat → Bytes → List Bytes → Bytes → Prop where
  | root (name : Bytes) : Reaches 65 [] [] name
  | child (levels : Nat) (address : List Bytes) (name : Bytes) (deep : levels < 65)
      (ok : ∀ n ∈ address, NameOk n) : Reaches levels (fullPath address) (address ++ [name]) name

theorem Reaches.path {levels : Nat} {parent : Bytes} {address : List Bytes} {name : Bytes}
    (reaches : Reaches (levels + 1) parent address name) :
    (if 64 - levels = 0 then [47] else rstrip 47 parent ++ 47 :: name) = fullPath address := by
  cases reaches with
  | root => rfl
  | child _ address _ deep ok => rw [if_neg (by omega), childPath_fullPath ok]

theorem Reaches.names {levels : Nat} {parent : Bytes} {address : List Bytes} {name : Bytes}
    (reaches : Reaches levels parent address name) (named : NameOk name) :
    ∀ n ∈ address, NameOk n := by
  cases reaches with
  | root => simp
  | child _ address _ _ ok => exact ok_snoc ok named

theorem Reaches.levels {levels : Nat} {parent : Bytes} {address : List Bytes} {name : Bytes}
    (reaches : Reaches levels parent address name) : levels ≤ 65 := by
  cases reaches with
  | root => exact Nat.le_refl _
  | child _ _ _ deep _ => exact Nat.le_of_lt deep

mutual

theorem load_ok (levels : Nat) (parent : Bytes) (address : List Bytes) (nodes : Nodes) :
    ∀ tree : Tree, tree.Ok → Reaches levels parent address tree.name → tree.height ≤ levels →
      nodes.length + tree.size ≤ 10001 →
      ((nodes ++ tree.nodes address).map Prod.fst).Nodup →
      tree.load levels parent nodes = .ok (nodes ++ tree.nodes address)
  | .node properties children, ok, reaches, high, size, distinct => by
    rw [Tree.height] at high
    obtain ⟨levels, rfl⟩ : ∃ fewer, levels = fewer + 1 := ⟨levels - 1, by omega⟩
    rw [Tree.size] at size
    have listed : (Tree.node properties children).nodes address =
        (fullPath address, propsOf properties) ::
          (listingAll address children).map fun entry => (fullPath entry.1, entry.2) := by
      rw [Tree.nodes, Tree.listing, List.map_cons]
    have fresh : fullPath address ∉ nodes.map Prod.fst := by
      intro taken
      rw [listed, List.map_append, List.nodup_append] at distinct
      exact distinct.2.2 _ taken _ List.mem_cons_self rfl
    have deep := reaches.levels
    have inside := loadAll_ok levels address
      (nodes ++ [(fullPath address, propsOf properties)]) (by omega)
      (reaches.names ok.2.1) children ok.2.2.2.2 (by omega)
      (by rw [List.length_append, List.length_singleton]; omega)
      (by rw [List.append_assoc, List.singleton_append, ← listed]; exact distinct)
    have props : properties.foldlM addProperty [] = .ok (propsOf properties) :=
      foldlM_addProperty ok.1.ascii ok.1.distinct
    have path := nodePath_ok ok.2.1 reaches.path fresh
    rw [Tree.load]
    simp only [bind, Except.bind, ok_require (show nodes.length ≤ 10000 by omega),
      ok_require (show properties.length ≤ 4096 ∧ children.length ≤ 4096 from
        ⟨ok.1.few, ok.2.2.1⟩), props, path, inside]
    rw [listed, List.append_assoc, List.singleton_append]

theorem loadAll_ok (levels : Nat) (address : List Bytes) (nodes : Nodes) (deep : levels < 65)
    (names : ∀ n ∈ address, NameOk n) : ∀ trees : List Tree, AllOk trees →
      heightAll trees ≤ levels → nodes.length + sizeAll trees ≤ 10001 →
      ((nodes ++ (listingAll address trees).map fun entry =>
        (fullPath entry.1, entry.2)).map Prod.fst).Nodup →
      loadAll levels (fullPath address) nodes trees =
        .ok (nodes ++ (listingAll address trees).map fun entry => (fullPath entry.1, entry.2))
  | [], _, _, _, _ => by simp [loadAll, listingAll]
  | tree :: trees, ok, high, size, distinct => by
    rw [heightAll] at high
    rw [sizeAll] at size
    have split : ((listingAll address (tree :: trees)).map fun entry =>
        (fullPath entry.1, entry.2)) = tree.nodes (address ++ [tree.name]) ++
          (listingAll address trees).map fun entry => (fullPath entry.1, entry.2) := by
      rw [listingAll, List.map_append, Tree.nodes]
    rw [split, ← List.append_assoc] at distinct ⊢
    have first : ((nodes ++ tree.nodes (address ++ [tree.name])).map Prod.fst).Nodup := by
      rw [List.map_append, List.nodup_append] at distinct
      exact distinct.1
    have front := load_ok levels (fullPath address) (address ++ [tree.name]) nodes tree ok.1
      (.child levels address tree.name deep names) (by omega) (by omega) first
    have longer : (nodes ++ tree.nodes (address ++ [tree.name])).length + sizeAll trees ≤ 10001 := by
      rw [List.length_append, Tree.nodes, List.length_map, listing_length]
      omega
    have rest := loadAll_ok levels address (nodes ++ tree.nodes (address ++ [tree.name])) deep names
      trees ok.2 (by omega) longer distinct
    rw [loadAll]
    simp only [bind, Except.bind, front]
    exact rest

end

/-! ### Cursors -/

/-- A read that succeeds does the same on a longer input. -/
theorem take_more {size : Nat} {data extra : Bytes} {result : Bytes × Bytes}
    (ok : take size data = .ok result) :
    take size (data ++ extra) = .ok (result.1, result.2 ++ extra) := by
  rw [take] at ok
  split at ok
  · cases ok
  · rename_i long
    obtain rfl := Except.ok.inj ok
    have longer : ¬(data ++ extra).length < size := by
      rw [List.length_append]
      omega
    have inside : size ≤ data.length := by omega
    rw [take, if_neg longer, List.take_append_of_le_length inside,
      List.drop_append_of_le_length inside]

theorem takeWord_more {data extra : Bytes} {result : Nat × Bytes}
    (ok : takeWord data = .ok result) :
    takeWord (data ++ extra) = .ok (result.1, result.2 ++ extra) := by
  obtain ⟨taken, took, rfl⟩ : ∃ taken, take 4 data = .ok taken ∧ (word taken.1, taken.2) = result := by
    rw [takeWord, bind_ok] at ok
    obtain ⟨taken, took, last⟩ := ok
    exact ⟨taken, took, Except.ok.inj last⟩
  rw [takeWord, take_more took]
  rfl

theorem readProperty_more {props : Props} {data extra : Bytes} {result : Props × Bytes}
    (ok : readProperty props data = .ok result) :
    readProperty props (data ++ extra) = .ok (result.1, result.2 ++ extra) := by
  simp only [readProperty, bind_ok] at ok
  obtain ⟨field, tookField, key, decoded, size, tookSize, _, fresh, value, tookValue, tail,
    tookTail, last⟩ := ok
  obtain rfl := Except.ok.inj last
  simp only [readProperty, take_more tookField, decoded, takeWord_more tookSize, fresh,
    take_more tookValue, take_more tookTail, bind, Except.bind]
  rfl

theorem readProperties_more {count : Nat} {props : Props} {data extra : Bytes}
    {result : Props × Bytes} (ok : readProperties count props data = .ok result) :
    readProperties count props (data ++ extra) = .ok (result.1, result.2 ++ extra) := by
  induction count generalizing props data with
  | zero =>
    obtain rfl := Except.ok.inj ok
    rfl
  | succ count ih =>
    rw [readProperties, bind_ok] at ok
    obtain ⟨first, took, rest⟩ := ok
    rw [readProperties, readProperty_more took]
    exact ih rest

theorem times_more {read : Nodes → Bytes → Except AdtError (Nodes × Bytes)} {extra : Bytes}
    (more : ∀ nodes data result, read nodes data = .ok result →
      read nodes (data ++ extra) = .ok (result.1, result.2 ++ extra))
    {count : Nat} {nodes : Nodes} {data : Bytes} {result : Nodes × Bytes}
    (ok : times read count nodes data = .ok result) :
    times read count nodes (data ++ extra) = .ok (result.1, result.2 ++ extra) := by
  induction count generalizing nodes data with
  | zero =>
    obtain rfl := Except.ok.inj ok
    rfl
  | succ count ih =>
    rw [times, bind_ok] at ok
    obtain ⟨first, took, rest⟩ := ok
    rw [times, more nodes data first took]
    exact ih rest

theorem node_more (extra : Bytes) {levels : Nat} {parent : Bytes} {nodes : Nodes} {data : Bytes}
    {result : Nodes × Bytes} (ok : node levels parent nodes data = .ok result) :
    node levels parent nodes (data ++ extra) = .ok (result.1, result.2 ++ extra) := by
  induction levels generalizing parent nodes data result with
  | zero => cases ok
  | succ levels ih =>
    simp only [node, bind_ok] at ok
    obtain ⟨_, room, counts, tookCounts, _, few, props, tookProps, path, placed, rest⟩ := ok
    simp only [node, room, take_more tookCounts, few, readProperties_more tookProps, placed, bind,
      Except.bind]
    exact times_more (fun nodes data result below => ih below) rest

/-! ### Round trip -/

/-- An encoding is read back node by node, whatever follows it, and none of its strict prefixes
is read at all. -/
theorem parse_inverts_encode {tree : Tree} (ok : tree.Ok) (size : tree.size ≤ 10000)
    (high : tree.height ≤ 65) :
    (∀ rest, parse (tree.encode ++ rest) = .ok (tree.nodes [])) ∧
      ∀ data, data <+: tree.encode → data ≠ tree.encode → ∃ error, parse data = .error error := by
  have loaded := load_ok 65 [] [] [] tree ok (.root _) high (by simpa using Nat.le_succ_of_le size)
    (by simpa using nodes_distinct ok)
  rw [List.nil_append] at loaded
  refine ⟨fun rest => by rw [parse_encode ok.counted, loaded], ?_⟩
  rintro data ⟨extra, whole⟩ shorter
  cases early : node 65 [] [] data with
  | error error => exact ⟨error, by rw [parse, early]; rfl⟩
  | ok result =>
    have longer := node_more extra early
    have full := node_encode 65 [] [] [] tree ok.counted
    rw [whole] at longer
    rw [List.append_nil, longer, loaded, Except.map, Except.ok.injEq, Prod.mk.injEq,
      List.append_eq_nil_iff] at full
    rw [full.2.2, List.append_nil] at whole
    exact absurd whole shorter

theorem fixture_ok : (fixture [1, 2] [3, 4, 5] (by decide) (by decide)).Ok := by
  refine ⟨⟨by decide, by decide +kernel, by decide +kernel⟩,
    ⟨by decide +kernel, by decide +kernel, by decide +kernel, by decide +kernel⟩, by decide,
    by decide +kernel, ⟨⟨by decide, by decide +kernel, by decide +kernel⟩,
      ⟨by decide +kernel, by decide +kernel, by decide +kernel, by decide +kernel⟩, by decide,
      by decide, trivial⟩, trivial⟩

theorem fixture_parsed :
    parse (fixture [1, 2] [3, 4, 5] (by decide) (by decide)).encode =
        .ok ((fixture [1, 2] [3, 4, 5] (by decide) (by decide)).nodes []) ∧
      ∃ error, parse ((fixture [1, 2] [3, 4, 5] (by decide) (by decide)).encode.take 100) =
        .error error := by
  have both := parse_inverts_encode fixture_ok (by decide) (by decide)
  have whole := both.1 []
  rw [List.append_nil] at whole
  exact ⟨whole, both.2 _ (List.take_prefix _ _) (by decide +kernel)⟩

end WinBoot.Adt
