import Mathlib.Algebra.Order.Ring.Nat
import Mathlib.Data.List.DropRight
import Mathlib.Data.List.Infix
import Mathlib.Tactic.Common

/-! Reading an Apple device tree from a memory dump. The wire holds, for each node, its counts,
its properties and then its children; the parser keeps a cursor into the dump and a table of the
nodes met, in order, by path. -/

namespace WinBoot.Adt

abbrev Bytes : Type := List UInt8

inductive AdtError where
  | truncated
  | complexity
  | counts
  | duplicateProperty
  | nodeName
  | duplicatePath
  | notAscii
  | wrongTarget
deriving DecidableEq

abbrev Props : Type := List (Bytes × Bytes)

/-- The nodes in the order they were met. -/
abbrev Nodes : Type := List (Bytes × Props)

def require (good : Prop) [Decidable good] (error : AdtError) : Except AdtError Unit :=
  if good then .ok () else .error error

def take (size : Nat) (data : Bytes) : Except AdtError (Bytes × Bytes) :=
  if data.length < size then .error .truncated else .ok (data.take size, data.drop size)

/-- A little-endian word. -/
def word (bytes : Bytes) : Nat := bytes.foldr (fun b value => b.toNat + 256 * value) 0

def takeWord (data : Bytes) : Except AdtError (Nat × Bytes) := do
  let (bytes, data) ← take 4 data
  return (word bytes, data)

def decodeAscii (text : Bytes) : Except AdtError Bytes :=
  if text.all (· < 128) then .ok text else .error .notAscii

/-- A key ends at its first NUL. -/
def keyOf (field : Bytes) : Bytes := field.takeWhile (· != 0)

def padding (size : Nat) : Nat := (4 - size % 4) % 4

def readProperty (props : Props) (data : Bytes) : Except AdtError (Props × Bytes) := do
  let (field, data) ← take 32 data
  let key ← decodeAscii (keyOf field)
  let (size, data) ← takeWord data
  let size := size &&& 0x7fffffff
  require (key ∉ props.map Prod.fst) .duplicateProperty
  let (value, data) ← take size data
  let (_, data) ← take (padding size) data
  return (props ++ [(key, value)], data)

def readProperties : Nat → Props → Bytes → Except AdtError (Props × Bytes)
  | 0, props, data => .ok (props, data)
  | count + 1, props, data => do
    let (props, data) ← readProperty props data
    readProperties count props data

def lookup (key : Bytes) (props : Props) : Bytes := (props.lookup key).getD []

def ascii (text : String) : Bytes := text.toList.map fun c => c.toNat.toUInt8

def nameKey : Bytes := ascii "name"

def rstrip (byte : UInt8) (text : Bytes) : Bytes := text.rdropWhile (· == byte)

/-- The path of a node, checked against the names already taken. -/
def nodePath (depth : Nat) (parent : Bytes) (props : Props) (nodes : Nodes) :
    Except AdtError Bytes := do
  let name ← decodeAscii (rstrip 0 (lookup nameKey props))
  require (¬(name = [] ∨ 47 ∈ name ∧ depth ≠ 0)) .nodeName
  let path := if depth = 0 then [47] else rstrip 47 parent ++ 47 :: name
  require (path ∉ nodes.map Prod.fst) .duplicatePath
  return path

/-- Runs a reader a number of times. -/
def times (read : Nodes → Bytes → Except AdtError (Nodes × Bytes)) :
    Nat → Nodes → Bytes → Except AdtError (Nodes × Bytes)
  | 0, nodes, data => .ok (nodes, data)
  | count + 1, nodes, data => do
    let (nodes, data) ← read nodes data
    times read count nodes data

/-- `levels` more levels may be entered: it is 65 less the depth. -/
def node : Nat → Bytes → Nodes → Bytes → Except AdtError (Nodes × Bytes)
  | 0, _, _, _ => .error .complexity
  | levels + 1, parent, nodes, data => do
    require (nodes.length ≤ 10000) .complexity
    let (counts, data) ← take 8 data
    let properties := word (counts.take 4)
    let children := word (counts.drop 4)
    require (properties ≤ 4096 ∧ children ≤ 4096) .counts
    let (props, data) ← readProperties properties [] data
    let path ← nodePath (64 - levels) parent props nodes
    times (node levels path) children (nodes ++ [(path, props)]) data

def parse (data : Bytes) : Except AdtError Nodes := do
  let (nodes, _) ← node 65 [] [] data
  return nodes

/-! ### The report -/

def get (nodes : Nodes) (path : Bytes) : Props := (nodes.lookup path).getD []

def allowed : List Bytes :=
  ["name", "compatible", "device_type", "reg", "ranges", "interrupts", "interrupt-parent",
    "#address-cells", "#size-cells", "clock-gates", "power-gates", "apcie-port", "msi-address",
    "msi-vector-offset", "msi-vector-base", "#msi-vectors", "t-refclk-to-perst",
    "maximum-link-speed", "page-size", "function-reg_on", "function-perst", "function-clkreq",
    "function-device_wake"].map ascii

def keywords : List Bytes := ["wlan", "wifi", "pcie", "sdio"].map ascii

def lower (text : Bytes) : Bytes := text.map fun b => if 65 ≤ b ∧ b ≤ 90 then b + 32 else b

def reported (path : Bytes) : Bool := keywords.any fun keyword => decide (keyword <:+: lower path)

def isText (key : Bytes) : Bool := ["name", "compatible", "device_type"].map ascii |>.contains key

def hexDigit (n : Nat) : Char := "0123456789abcdef".toList.getD n '0'

def hex (value : Bytes) : List Char :=
  value.flatMap fun b => [hexDigit (b.toNat / 16), hexDigit (b.toNat % 16)]

/-- Texts are decoded with every byte from 0x80 on replaced, other values dumped. -/
def shown (key value : Bytes) : List Char :=
  if isText key then
    (rstrip 0 value).map fun b => if b < 128 then Char.ofNat b.toNat else Char.ofNat 0xFFFD
  else hex value

abbrev Report : Type := List (Bytes × List (Bytes × List Char))

def entryOf (props : Props) : List (Bytes × List Char) :=
  (props.filter fun prop => allowed.contains prop.1).map fun prop => (prop.1, shown prop.1 prop.2)

def modelKey : Bytes := ascii "model"
def targetKey : Bytes := ascii "target-type"

def summarize (nodes : Nodes) : Except AdtError Report := do
  let root := get nodes [47]
  require (¬(rstrip 0 (lookup modelKey root) ≠ ascii "AppleTV5,3" ∨
    rstrip 0 (lookup targetKey root) ≠ ascii "J42d")) .wrongTarget
  return (nodes.filter fun entry => reported entry.1).map fun entry => (entry.1, entryOf entry.2)

end WinBoot.Adt
