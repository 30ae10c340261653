import WinBoot.AdtParser

/-! Device trees as they lie on the wire, and the parser read off them: on an encoded tree it makes
exactly the checks that `Tree.load` makes on the tree itself. -/

namespace WinBoot.Adt

/-- A property with everything the wire holds for it: the whole key field, the flag in the size
word and whatever pads the value. -/
structure Property where
  field : Bytes
  flag : Bool
  value : Bytes
  tail : Bytes
  field_width : field.length = 32
  value_size : value.length < 2 ^ 31
  tail_width : tail.length = padding value.length

inductive Tree where
  | node (props : List Property) (children : List Tree)

def encodeWord (n : Nat) : Bytes :=
  [n.toUInt8, (n / 256).toUInt8, (n / 65536).toUInt8, (n / 16777216).toUInt8]

/-- The size word: the flag is its top bit. -/
def Property.word (p : Property) : Nat := p.value.length + if p.flag then 2 ^ 31 else 0

def Property.encode (p : Property) : Bytes :=
  p.field ++ (encodeWord p.word ++ (p.value ++ p.tail))

mutual

def Tree.encode : Tree → Bytes
  | .node props children =>
    encodeWord props.length ++ encodeWord children.length ++ props.flatMap Property.encode ++
      encodeAll children

def encodeAll : List Tree → Bytes
  | [] => []
  | tree :: trees => tree.encode ++ encodeAll trees

end

mutual

/-- Counts fit their words. -/
def Tree.Counted : Tree → Prop
  | .node props children => props.length < 2 ^ 32 ∧ children.length < 2 ^ 32 ∧ AllCounted children

def AllCounted : List Tree → Prop
  | [] => True
  | tree :: trees => tree.Counted ∧ AllCounted trees

end

/-! ### Loading a tree -/

def propsOf (properties : List Property) : Props := properties.map fun p => (keyOf p.field, p.value)

/-- A node's name, without the NULs that pad it. -/
def Tree.name : Tree → Bytes
  | .node properties _ => rstrip 0 (lookup nameKey (propsOf properties))

local instance lawfulBytes : LawfulBEq Bytes := inferInstance

def addProperty (props : Props) (p : Property) : Except AdtError Props := do
  let key ← decodeAscii (keyOf p.field)
  require (key ∉ props.map Prod.fst) .duplicateProperty
  return props ++ [(key, p.value)]

mutual

/-- The parser's checks and results on the tree that is encoded. -/
def Tree.load (levels : Nat) (parent : Bytes) (nodes : Nodes) : Tree → Except AdtError Nodes
  | .node properties children =>
    match levels with
    | 0 => .error .complexity
    | levels + 1 => do
      require (nodes.length ≤ 10000) .complexity
      require (properties.length ≤ 4096 ∧ children.length ≤ 4096) .counts
      let props ← properties.foldlM addProperty []
      let path ← nodePath (64 - levels) parent props nodes
      loadAll levels path (nodes ++ [(path, props)]) children

def loadAll (levels : Nat) (parent : Bytes) (nodes : Nodes) : List Tree → Except AdtError Nodes
  | [] => .ok nodes
  | tree :: trees => do
    let nodes ← tree.load levels parent nodes
    loadAll levels parent nodes trees

end

/-! ### The wire -/

theorem take_append (front rest : Bytes) :
    take front.length (front ++ rest) = .ok (front, rest) := by
  simp [take]

theorem word_encodeWord {n : Nat} (fits : n < 2 ^ 32) : word (encodeWord n) = n := by
  simp only [word, encodeWord, List.foldr_cons, List.foldr_nil, Nat.toUInt8, UInt8.toNat_ofNat']
  omega

theorem takeWord_encode {n : Nat} (fits : n < 2 ^ 32) (rest : Bytes) :
    takeWord (encodeWord n ++ rest) = .ok (n, rest) := by
  have taken : take 4 (encodeWord n ++ rest) = .ok (encodeWord n, rest) :=
    take_append (encodeWord n) rest
  simp [takeWord, taken, word_encodeWord fits, bind, Except.bind, pure, Except.pure]

/-- The flag bit is masked off. -/
theorem masked_size (p : Property) : p.word &&& 0x7fffffff = p.value.length := by
  have small := p.value_size
  have mask : (0x7fffffff : Nat) = 2 ^ 31 - 1 := by decide
  rw [mask, Nat.and_two_pow_sub_one_eq_mod, Property.word]
  split <;> omega

theorem readProperty_encode (p : Property) (props : Props) (rest : Bytes) :
    readProperty props (p.encode ++ rest) =
      (addProperty props p).map fun props => (props, rest) := by
  have small := p.value_size
  have bound : p.word < 2 ^ 32 := by
    rw [Property.word]
    split <;> omega
  have whole : p.encode ++ rest =
      p.field ++ (encodeWord p.word ++ (p.value ++ (p.tail ++ rest))) := by
    simp only [Property.encode, List.append_assoc]
  have key : take 32 (p.encode ++ rest) =
      .ok (p.field, encodeWord p.word ++ (p.value ++ (p.tail ++ rest))) := by
    rw [whole, ← p.field_width]
    exact take_append _ _
  have size := takeWord_encode bound (p.value ++ (p.tail ++ rest))
  have value := take_append p.value (p.tail ++ rest)
  have tail : take (padding p.value.length) (p.tail ++ rest) = .ok (p.tail, rest) := by
    rw [← p.tail_width]
    exact take_append _ _
  rw [readProperty, addProperty]
  simp only [key, bind, Except.bind]
  cases decodeAscii (keyOf p.field) with
  | error e => rfl
  | ok key =>
    simp only [size, masked_size, value, tail]
    cases require (key ∉ props.map Prod.fst) .duplicateProperty <;> rfl

theorem readProperties_encode (properties : List Property) (props : Props) (rest : Bytes) :
    readProperties properties.length props (properties.flatMap Property.encode ++ rest) =
      (properties.foldlM addProperty props).map fun props => (props, rest) := by
  induction properties generalizing props with
  | nil => rfl
  | cons p properties ih =>
    rw [List.length_cons, List.flatMap_cons, List.append_assoc, readProperties,
      readProperty_encode, List.foldlM_cons]
    cases addProperty props p with
    | error e => rfl
    | ok more => exact ih more

/-! ### The parser loads what is encoded -/

mutual

theorem node_encode (levels : Nat) (parent : Bytes) (nodes : Nodes) (rest : Bytes) :
    ∀ tree : Tree, tree.Counted → node levels parent nodes (tree.encode ++ rest) =
      (tree.load levels parent nodes).map fun nodes => (nodes, rest)
  | .node properties children, counted => by
    rw [Tree.Counted] at counted
    obtain ⟨few_properties, few_children, inside⟩ := counted
    cases levels with
    | zero => simp [node, Tree.load, Except.map]
    | succ levels =>
      have counts : take 8 ((Tree.node properties children).encode ++ rest) =
          .ok (encodeWord properties.length ++ encodeWord children.length,
            properties.flatMap Property.encode ++ (encodeAll children ++ rest)) := by
        rw [Tree.encode, List.append_assoc, List.append_assoc]
        exact take_append (encodeWord properties.length ++ encodeWord children.length) _
      have first : word ((encodeWord properties.length ++ encodeWord children.length).take 4) =
          properties.length := word_encodeWord few_properties
      have second : word ((encodeWord properties.length ++ encodeWord children.length).drop 4) =
          children.length := word_encodeWord few_children
      rw [node, Tree.load]
      simp only [counts, first, second, readProperties_encode, bind, Except.bind]
      cases require (nodes.length ≤ 10000) .complexity with
      | error e => rfl
      | ok _ =>
        simp only
        cases require (properties.length ≤ 4096 ∧ children.length ≤ 4096) .counts with
        | error e => rfl
        | ok _ =>
          simp only
          cases properties.foldlM addProperty [] with
          | error e => rfl
          | ok props =>
            simp only [Except.map]
            cases nodePath (64 - levels) parent props nodes with
            | error e => rfl
            | ok path => exact times_encode levels path _ rest children inside

theorem times_encode (levels : Nat) (parent : Bytes) (nodes : Nodes) (rest : Bytes) :
    ∀ trees : List Tree, AllCounted trees →
      times (node levels parent) trees.length nodes (encodeAll trees ++ rest) =
        (loadAll levels parent nodes trees).map fun nodes => (nodes, rest)
  | [], _ => by simp [times, loadAll, encodeAll, Except.map]
  | tree :: trees, counted => by
    rw [AllCounted] at counted
    have front := node_encode levels parent nodes (encodeAll trees ++ rest) tree counted.1
    rw [List.length_cons, times, encodeAll, List.append_assoc, front, loadAll]
    cases tree.load levels parent nodes with
    | error e => rfl
    | ok more => exact times_encode levels parent more rest trees counted.2

end

theorem parse_encode {tree : Tree} (counted : tree.Counted) (rest : Bytes) :
    parse (tree.encode ++ rest) = tree.load 65 [] [] := by
  rw [parse, node_encode 65 [] [] rest tree counted]
  cases tree.load 65 [] [] <;> rfl

/-! ### Small trees -/

/-- A key filled up with NULs and a value padded with them. -/
def pack (key value : Bytes) (short : key.length ≤ 32) (small : value.length < 2 ^ 31) :
    Property where
  field := key ++ List.replicate (32 - key.length) 0
  flag := false
  value := value
  tail := List.replicate (padding value.length) 0
  field_width := by
    rw [List.length_append, List.length_replicate]
    omega
  value_size := small
  tail_width := List.length_replicate

/-- The device tree of the repository's own test, with its private values as parameters. -/
def fixture (serial mac : Bytes) (short : serial.length < 64) (brief : mac.length < 64) : Tree :=
  .node
    [pack (ascii "name") (ascii "device-tree" ++ [0]) (by decide) (by decide),
      pack (ascii "model") (ascii "AppleTV5,3" ++ [0]) (by decide) (by decide),
      pack (ascii "target-type") (ascii "J42d" ++ [0]) (by decide) (by decide),
      pack (ascii "serial-number") serial (by decide) (by omega)]
    [.node
      [pack (ascii "name") (ascii "wlan" ++ [0]) (by decide) (by decide),
        pack (ascii "compatible") (ascii "wlan-pcie,bcm4350" ++ [0]) (by decide) (by decide),
        pack (ascii "local-mac-address") mac (by decide) (by omega)] []]

end WinBoot.Adt
