import Mathlib.Data.List.Basic

/-! `ReadDebt` of `lib.rs`: the part of a message that did not fit into the caller's read
slice. The operations pass the debt and the slice explicitly; the panic of
`assert_eq!(self.0, None)` is the `none` of their `Option`. `process_message` never builds an
`io::Error`, so its `Result<usize>` is the byte count alone. -/
namespace Websocat

structure ReadDebt where
  debt : Option (List UInt8)
  deriving DecidableEq, Repr

instance : Inhabited ReadDebt := ⟨⟨none⟩⟩

namespace ReadDebt

def pending (self : ReadDebt) : List UInt8 := self.debt.getD []

/-- `process_message(buf, buf_in)`: copies `l = min` of the two lengths to the front of `buf`
and keeps `buf_in[l..]` as debt when it is not empty. Returns the debt, `buf` and `l`. -/
def processMessage (self : ReadDebt) (buf bufIn : List UInt8) :
    Option (ReadDebt × List UInt8 × Nat) :=
  if self.debt = none then
    let l := min bufIn.length buf.length
    some (if l < bufIn.length then ⟨some (bufIn.drop l)⟩ else self, bufIn.take l ++ buf.drop l, l)
  else none

/-- `check_debt(buf)`: `self.0.take()`, then `process_message` on the debt taken. The inner
`Option` is the method's own: `None` tells the caller to poll its source. -/
def checkDebt (self : ReadDebt) (buf : List UInt8) : Option (ReadDebt × List UInt8 × Option Nat) :=
  match self.debt with
  | some debt => (processMessage ⟨none⟩ buf debt).map fun (self, buf, l) => (self, buf, some l)
  | none => some (self, buf, none)

@[simp] theorem pending_mk_none : pending ⟨none⟩ = [] := rfl

@[simp] theorem pending_mk_some (debt : List UInt8) : pending ⟨some debt⟩ = debt := rfl

@[simp] theorem default_debt : (default : ReadDebt).debt = none := rfl

variable {self self' : ReadDebt} {buf buf' bufIn : List UInt8} {l : Nat}

theorem processMessage_inv (called : self.processMessage buf bufIn = some (self', buf', l)) :
    self.debt = none ∧ l = min bufIn.length buf.length ∧ buf' = bufIn.take l ++ buf.drop l ∧
      self'.debt = if l < bufIn.length then some (bufIn.drop l) else none := by
  unfold processMessage at called
  split at called
  · simp only [Option.some.injEq, Prod.mk.injEq] at called
    obtain ⟨rfl, rfl, rfl⟩ := called
    refine ⟨‹_›, rfl, rfl, ?_⟩
    split <;> simp_all
  · cases called

theorem processMessage_conserves (called : self.processMessage buf bufIn = some (self', buf', l)) :
    buf'.take l ++ self'.pending = bufIn := by
  obtain ⟨-, rfl, rfl, debt⟩ := processMessage_inv called
  rw [List.take_left' (by simp), pending, debt]
  split
  · exact List.take_append_drop _ _
  · simpa using List.take_of_length_le (by omega)

theorem processMessage_count_add (called : self.processMessage buf bufIn = some (self', buf', l)) :
    l + self'.pending.length = bufIn.length := by
  obtain ⟨-, rfl, -, debt⟩ := processMessage_inv called
  rw [pending, debt]
  split
  · simp only [Option.getD_some, List.length_drop]
    omega
  · simp only [Option.getD_none, List.length_nil]
    omega

/-- A debt is never an empty buffer: `check_debt` would turn it into a read of 0 bytes. -/
def NoEmptyDebt (self : ReadDebt) : Prop := self.debt ≠ some []

theorem NoEmptyDebt.ne_nil {debt : List UInt8} (owes : NoEmptyDebt self) (owed : self.debt = some debt) :
    debt ≠ [] :=
  fun empty => owes (owed.trans (congrArg some empty))

theorem processMessage_noEmptyDebt (called : self.processMessage buf bufIn = some (self', buf', l)) :
    NoEmptyDebt self' := by
  obtain ⟨-, rfl, -, debt⟩ := processMessage_inv called
  rw [NoEmptyDebt, debt]
  split
  · simp only [ne_eq, Option.some.injEq, List.drop_eq_nil_iff, Nat.not_le]
    assumption
  · simp

theorem checkDebt_inv {r : Option Nat} (called : self.checkDebt buf = some (self', buf', r)) :
    (self.debt = none ∧ self' = self ∧ buf' = buf ∧ r = none) ∨
      ∃ debt l, self.debt = some debt ∧ r = some l ∧
        processMessage ⟨none⟩ buf debt = some (self', buf', l) := by
  unfold checkDebt at called
  split at called
  · obtain ⟨⟨self', buf', l⟩, processed, ⟨⟩⟩ := Option.map_eq_some'.mp called
    exact .inr ⟨_, l, ‹_›, rfl, processed⟩
  · cases called
    exact .inl ⟨‹_›, rfl, rfl, rfl⟩

theorem checkDebt_isSome (self : ReadDebt) (buf : List UInt8) : (self.checkDebt buf).isSome := by
  unfold checkDebt processMessage
  split <;> simp

theorem checkDebt_noEmptyDebt {r : Option Nat} (called : self.checkDebt buf = some (self', buf', r)) :
    NoEmptyDebt self' := by
  rcases checkDebt_inv called with ⟨none, rfl, -⟩ | ⟨debt, l, -, -, processed⟩
  · simp [NoEmptyDebt, none]
  · exact processMessage_noEmptyDebt processed

theorem checkDebt_count {n : Nat} (owes : NoEmptyDebt self) (room : 0 < buf.length)
    (called : self.checkDebt buf = some (self', buf', some n)) : 1 ≤ n ∧ n ≤ buf.length := by
  rcases checkDebt_inv called with ⟨-, -, -, ⟨⟩⟩ | ⟨debt, l, owed, ⟨⟩, processed⟩
  obtain ⟨-, rfl, -⟩ := processMessage_inv processed
  have : 0 < debt.length := List.length_pos.mpr (owes.ne_nil owed)
  omega

/-- The debts reachable from `ReadDebt::default()` through `check_debt` calls and through
`process_message` calls made while no debt is pending. -/
inductive Reachable : ReadDebt → Prop
  | default : Reachable default
  | checkDebt {self self' : ReadDebt} {buf : List UInt8} {r : List UInt8 × Option Nat} :
      Reachable self → self.checkDebt buf = some (self', r) → Reachable self'
  | processMessage {self self' : ReadDebt} {buf bufIn : List UInt8} {r : List UInt8 × Nat} :
      Reachable self → self.debt = none → self.processMessage buf bufIn = some (self', r) →
        Reachable self'

theorem Reachable.noEmptyDebt (reachable : Reachable self) : NoEmptyDebt self := by
  cases reachable with
  | default => simp [NoEmptyDebt]
  | checkDebt _ called => exact checkDebt_noEmptyDebt called
  | processMessage _ _ called => exact processMessage_noEmptyDebt called

/-- In every reachable state the debt is absent or not empty, so `check_debt` on a slice of at
least one byte answers `None` or a count between 1 and the slice's length, never a read of 0
bytes that a copy loop would take for the end of the stream. -/
theorem reachable_checkDebt_reads (reachable : Reachable self) :
    (self.debt = none ∨ ∃ v, self.debt = some v ∧ v ≠ []) ∧
      ∀ buf : List UInt8, 0 < buf.length → ∃ self' buf', self.checkDebt buf = some (self', buf', none) ∨
        ∃ n, self.checkDebt buf = some (self', buf', some n) ∧ 1 ≤ n ∧ n ≤ buf.length := by
  have owes := reachable.noEmptyDebt
  refine ⟨?_, fun buf room => ?_⟩
  · rcases h : self.debt with _ | v
    · exact .inl rfl
    · exact .inr ⟨v, rfl, owes.ne_nil h⟩
  · obtain ⟨⟨self', buf', r⟩, called⟩ := Option.isSome_iff_exists.mp (checkDebt_isSome self buf)
    cases r with
    | none => exact ⟨self', buf', .inl called⟩
    | some n => exact ⟨self', buf', .inr ⟨n, called, checkDebt_count owes room called⟩⟩

/-- A one-byte slice against a two-byte message leaves one byte owed; draining it into a
one-byte slice moves that byte. -/
theorem reachable_checkDebt_reads_after_short_read :
    Reachable ⟨some [2]⟩ ∧ ∃ self' buf', (ReadDebt.checkDebt ⟨some [2]⟩ [0]) = some (self', buf', none) ∨
      ∃ n, (ReadDebt.checkDebt ⟨some [2]⟩ [0]) = some (self', buf', some n) ∧ 1 ≤ n ∧ n ≤ 1 :=
  have reachable : Reachable ⟨some [2]⟩ :=
    .processMessage .default rfl (show processMessage default [0] [1, 2] = some (_, [1], 1) from rfl)
  ⟨reachable, (reachable_checkDebt_reads reachable).2 [0] (by decide)⟩

end ReadDebt

end Websocat
