import Mathlib.Data.List.Basic

/-! A pipe: one end writes and closes, the other takes in order what was written. -/

namespace WinBoot

/-- What was taken from a pipe, what is still under way in it and whether more may be written. -/
structure Pipe (α : Type) where
  taken : List α
  flight : List α
  isOpen : Bool

namespace Pipe

variable {α : Type} {p : Pipe α}

def fresh : Pipe α := ⟨[], [], true⟩

def written (p : Pipe α) : List α := p.taken ++ p.flight

def write (p : Pipe α) (items : List α) : Pipe α := { p with flight := p.flight ++ items }

def take (p : Pipe α) (n : ℕ) : Pipe α :=
  { p with taken := p.taken ++ p.flight.take n, flight := p.flight.drop n }

def close (p : Pipe α) : Pipe α := { p with isOpen := false }

/-- The writing end is lost, with all but so much of what is under way. -/
def cut (p : Pipe α) (n : ℕ) : Pipe α := { p with flight := p.flight.take n, isOpen := false }

/-- The taking end sees the end. -/
def ended (p : Pipe α) : Bool := !p.isOpen && p.flight.isEmpty

@[simp] theorem written_fresh : (fresh : Pipe α).written = [] := rfl

@[simp] theorem written_write (items : List α) : (p.write items).written = p.written ++ items := by
  simp [written, write]

@[simp] theorem written_take (n : ℕ) : (p.take n).written = p.written := by
  simp [written, take]

@[simp] theorem written_close : p.close.written = p.written := rfl

@[simp] theorem taken_write (items : List α) : (p.write items).taken = p.taken := rfl

@[simp] theorem taken_close : p.close.taken = p.taken := rfl

@[simp] theorem taken_cut (n : ℕ) : (p.cut n).taken = p.taken := rfl

@[simp] theorem isOpen_take (n : ℕ) : (p.take n).isOpen = p.isOpen := rfl

@[simp] theorem isOpen_close : p.close.isOpen = false := rfl

@[simp] theorem isOpen_cut (n : ℕ) : (p.cut n).isOpen = false := rfl

theorem written_cut (n : ℕ) : (p.cut n).written <+: p.written :=
  (List.prefix_append_right_inj _).mpr (List.take_prefix n p.flight)

theorem taken_prefix : p.taken <+: p.written := List.prefix_append _ _

theorem ended_iff : p.ended ↔ p.isOpen = false ∧ p.flight = [] := by
  simp [ended]

/-- At the end everything has been taken. -/
theorem taken_of_ended (ended : p.ended) : p.taken = p.written := by
  rw [written, (ended_iff.mp ended).2, List.append_nil]

theorem take_of_ended (ended : p.ended) (n : ℕ) : p.take n = p := by
  obtain ⟨taken, flight, isOpen⟩ := p
  obtain rfl : flight = [] := (ended_iff.mp ended).2
  simp [take]

theorem close_of_closed (closed : p.isOpen = false) : p.close = p := by
  cases p
  cases closed
  rfl

end Pipe

end WinBoot
