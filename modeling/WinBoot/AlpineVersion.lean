import Mathlib.Tactic.Common

/-! Versions of dot-separated numbers with a revision behind them, in the order of the numbers. -/

namespace WinBoot.AlpineVersion

structure Version where
  components : List Nat
  revision : Nat
deriving DecidableEq

/-- A proper prefix comes before what continues it. -/
def Version.Before (v w : Version) : Prop :=
  List.lt v.components w.components ∨ v.components = w.components ∧ v.revision < w.revision

instance (v w : Version) : Decidable (v.Before w) :=
  inferInstanceAs (Decidable (_ ∨ _ ∧ _))

def number (text : List Char) : Option Nat :=
  if text ≠ [] ∧ text.all Char.isDigit then
    some (text.foldl (fun n c => 10 * n + (c.toNat - '0'.toNat)) 0)
  else none

/-- `1.10.2-r3`; without a revision it is 0. -/
def parse (text : List Char) : Option Version :=
  match text.splitOn '-' with
  | [body] => do return ⟨← (body.splitOn '.').mapM number, 0⟩
  | [body, 'r' :: revision] => do return ⟨← (body.splitOn '.').mapM number, ← number revision⟩
  | _ => none

/-- Both are versions, and the first is the later one. -/
def Newer (text text' : List Char) : Prop :=
  ∃ v ∈ parse text, ∃ w ∈ parse text', w.Before v

instance (text text' : List Char) : Decidable (Newer text text') :=
  inferInstanceAs (Decidable (∃ v ∈ parse text, ∃ w ∈ parse text', w.Before v))

example : Newer "1.10-r0".toList "1.9-r3".toList ∧ ¬ Newer "1.9-r3".toList "1.10-r0".toList := by
  decide

end WinBoot.AlpineVersion
