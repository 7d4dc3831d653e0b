import Websocat.ReadDebt

/-! The reader half that `ws_upgrade_peer` puts over a WebSocket stream, as spec §4.1 and §4.5
describe it: every `read` drains the debt first and polls the stream only when nothing is
owed. The stream is the finite list of payloads of its data messages; control frames never
reach `process_message` and are left out. -/
namespace Websocat

/-- Modelled from the spec: `WsReadWrapper` of `ws_peer.rs`, absent from src/. `debt` is the
`ReadDebt` that `ws_upgrade_peer` starts as `Default::default()`; `source` holds the payloads
of the messages not yet taken from the stream. -/
structure WsReader where
  debt : ReadDebt
  source : List (List UInt8)
  deriving DecidableEq, Repr

namespace WsReader

/-- Modelled from the spec: `read(buf)` of `WsReadWrapper`. `check_debt` first; only when it
answers `None` is the next message taken and passed to `process_message`; an exhausted stream
reads 0 bytes. Returns the reader, `buf` and the count; `none` is an assertion's panic. -/
def read (self : WsReader) (buf : List UInt8) : Option (WsReader × List UInt8 × Nat) :=
  match self.debt.checkDebt buf with
  | none => none
  | some (debt, buf, some n) => some (⟨debt, self.source⟩, buf, n)
  | some (debt, buf, none) =>
    match self.source with
    | [] => some (⟨debt, []⟩, buf, 0)
    | chunk :: rest => (debt.processMessage buf chunk).map fun (debt, buf, n) => (⟨debt, rest⟩, buf, n)

/-- `read` with each of the caller's slices in turn: the reader after them and the bytes the
calls returned, `buf[..n]` of each, concatenated. -/
def readAll (self : WsReader) : List (List UInt8) → Option (WsReader × List UInt8)
  | [] => some (self, [])
  | buf :: bufs => do
    let (self, buf, n) ← self.read buf
    let (self, rest) ← self.readAll bufs
    pure (self, buf.take n ++ rest)

def pending (self : WsReader) : List UInt8 := self.debt.pending ++ self.source.flatten

/-- A bound on the reads that can still return data: one per byte owed or queued and one per
message queued, which may be empty. -/
def readsLeft (self : WsReader) : Nat :=
  self.debt.pending.length + self.source.flatten.length + self.source.length

variable {self self' : WsReader} {buf buf' : List UInt8} {n : Nat}

theorem read_inv (called : self.read buf = some (self', buf', n)) :
    (∃ debt, self.debt.checkDebt buf = some (debt, buf', some n) ∧ self' = ⟨debt, self.source⟩) ∨
      (self.debt.debt = none ∧ self.source = [] ∧ self' = self ∧ buf' = buf ∧ n = 0) ∨
      ∃ chunk rest debt, self.debt.debt = none ∧ self.source = chunk :: rest ∧
        self.debt.processMessage buf chunk = some (debt, buf', n) ∧ self' = ⟨debt, rest⟩ := by
  unfold read at called
  split at called
  · cases called
  · cases called
    exact .inl ⟨_, ‹_›, rfl⟩
  · rename_i checked
    obtain ⟨owed, rfl, rfl, -⟩ | ⟨_, _, _, ⟨⟩, _⟩ := ReadDebt.checkDebt_inv checked
    split at called
    · rename_i source
      cases called
      exact .inr (.inl ⟨owed, source, by rw [← source], rfl, rfl⟩)
    · obtain ⟨⟨debt, buf', n⟩, processed, ⟨⟩⟩ := Option.map_eq_some'.mp called
      exact .inr (.inr ⟨_, _, debt, owed, ‹_›, processed, rfl⟩)

theorem read_isSome (self : WsReader) (buf : List UInt8) : (self.read buf).isSome := by
  unfold read
  split
  · rename_i checked
    simpa [checked] using ReadDebt.checkDebt_isSome self.debt buf
  · rfl
  · rename_i checked
    obtain ⟨owed, rfl, rfl, -⟩ | ⟨_, _, _, ⟨⟩, _⟩ := ReadDebt.checkDebt_inv checked
    split
    · rfl
    · simp [ReadDebt.processMessage, owed]

theorem read_conserves (called : self.read buf = some (self', buf', n)) :
    buf'.take n ++ self'.pending = self.pending := by
  rcases read_inv called with ⟨debt, checked, rfl⟩ | ⟨-, source, rfl, -, rfl⟩ |
    ⟨chunk, rest, debt, owed, source, processed, rfl⟩
  · obtain ⟨-, -, -, ⟨⟩⟩ | ⟨owed, l, debtEq, ⟨⟩, processed⟩ := ReadDebt.checkDebt_inv checked
    have conserved := ReadDebt.processMessage_conserves processed
    simp only [pending, ReadDebt.pending, debtEq, Option.getD_some] at conserved ⊢
    rw [← conserved, List.append_assoc]
  · simp
  · have conserved := ReadDebt.processMessage_conserves processed
    simp only [pending, ReadDebt.pending, owed, source, Option.getD_none, List.nil_append,
      List.flatten_cons] at conserved ⊢
    rw [← conserved, List.append_assoc]

theorem read_noEmptyDebt (called : self.read buf = some (self', buf', n)) :
    self'.debt.NoEmptyDebt := by
  rcases read_inv called with ⟨debt, checked, rfl⟩ | ⟨owed, -, rfl, -⟩ |
    ⟨chunk, rest, debt, -, -, processed, rfl⟩
  · exact ReadDebt.checkDebt_noEmptyDebt checked
  · simp [ReadDebt.NoEmptyDebt, owed]
  · exact ReadDebt.processMessage_noEmptyDebt processed

theorem read_progress (owes : self.debt.NoEmptyDebt) (room : 0 < buf.length)
    (called : self.read buf = some (self', buf', n)) :
    self'.readsLeft + 1 ≤ self.readsLeft ∨ self'.readsLeft = 0 := by
  rcases read_inv called with ⟨debt, checked, rfl⟩ | ⟨owed, source, rfl, -⟩ |
    ⟨chunk, rest, debt, -, source, processed, rfl⟩
  · have count := ReadDebt.checkDebt_count owes room checked
    obtain ⟨-, -, -, ⟨⟩⟩ | ⟨owed, l, debtEq, ⟨⟩, processed⟩ := ReadDebt.checkDebt_inv checked
    have added := ReadDebt.processMessage_count_add processed
    simp only [readsLeft, ReadDebt.pending, debtEq, Option.getD_some] at added ⊢
    omega
  · simp [readsLeft, ReadDebt.pending, owed, source]
  · have added := ReadDebt.processMessage_count_add processed
    simp only [readsLeft, source, List.flatten_cons, List.length_append, List.length_cons] at added ⊢
    omega

theorem readAll_cons (called : self.read buf = some (self', buf', n)) (bufs : List (List UInt8)) :
    self.readAll (buf :: bufs) =
      (self'.readAll bufs).map fun (reader, rest) => (reader, buf'.take n ++ rest) := by
  simp only [readAll, called, Option.bind_eq_bind, Option.some_bind]
  cases self'.readAll bufs <;> rfl

theorem readsLeft_eq_zero (owes : self.debt.NoEmptyDebt) (noneLeft : self.readsLeft = 0) :
    self = ⟨default, []⟩ := by
  obtain ⟨⟨_ | debt⟩, source⟩ := self
  all_goals simp only [readsLeft, ReadDebt.pending, Option.getD_none, Option.getD_some,
    List.length_nil, Nat.add_eq_zero, List.length_eq_zero] at noneLeft
  · rw [noneLeft.2]
    rfl
  · exact absurd (congrArg some noneLeft.1.1) owes

theorem readAll_isSome (self : WsReader) (bufs : List (List UInt8)) : (self.readAll bufs).isSome := by
  induction bufs generalizing self with
  | nil => rfl
  | cons buf bufs ih =>
    obtain ⟨⟨next, buf', n⟩, called⟩ := Option.isSome_iff_exists.mp (read_isSome self buf)
    simpa [readAll_cons called] using ih next

theorem readAll_conserves {bufs : List (List UInt8)} {out : List UInt8}
    (run : self.readAll bufs = some (self', out)) : out ++ self'.pending = self.pending := by
  induction bufs generalizing self out with
  | nil =>
    cases run
    rfl
  | cons buf bufs ih =>
    obtain ⟨⟨next, buf', n⟩, called⟩ := Option.isSome_iff_exists.mp (read_isSome self buf)
    rw [readAll_cons called] at run
    obtain ⟨⟨reader, rest⟩, tail, ⟨⟩⟩ := Option.map_eq_some'.mp run
    rw [List.append_assoc, ih tail, read_conserves called]

theorem readAll_drains {bufs : List (List UInt8)} (owes : self.debt.NoEmptyDebt)
    (rooms : ∀ buf ∈ bufs, 0 < buf.length) (enough : self.readsLeft ≤ bufs.length) :
    self.readAll bufs = some (⟨default, []⟩, self.pending) := by
  induction bufs generalizing self with
  | nil =>
    obtain rfl := readsLeft_eq_zero owes (Nat.le_zero.mp enough)
    rfl
  | cons buf bufs ih =>
    obtain ⟨⟨next, buf', n⟩, called⟩ := Option.isSome_iff_exists.mp (read_isSome self buf)
    have fewer : next.readsLeft ≤ bufs.length := by
      have := read_progress owes (rooms buf (List.mem_cons_self _ _)) called
      simp only [List.length_cons] at enough
      omega
    rw [readAll_cons called, ih (read_noEmptyDebt called) (fun b mem => rooms b (List.mem_cons_of_mem _ mem))
      fewer, ← read_conserves called]
    rfl

/-- Reading messages `cs` through a fresh `ReadDebt` with any slices never panics, and after
each read the bytes returned, the debt and the messages not yet taken spell `cs` out. With
slices of at least one byte, `|concat cs| + |cs|` reads return exactly `concat cs`. -/
theorem readAll_delivers (cs : List (List UInt8)) :
    (∀ bufs, ∃ reader out, (⟨default, cs⟩ : WsReader).readAll bufs = some (reader, out) ∧
      out ++ reader.debt.pending ++ reader.source.flatten = cs.flatten) ∧
    ∀ bufs : List (List UInt8), (∀ buf ∈ bufs, 0 < buf.length) →
      cs.flatten.length + cs.length ≤ bufs.length →
        (⟨default, cs⟩ : WsReader).readAll bufs = some (⟨default, []⟩, cs.flatten) := by
  refine ⟨fun bufs => ?_, fun bufs rooms enough => ?_⟩
  · obtain ⟨⟨reader, out⟩, run⟩ := Option.isSome_iff_exists.mp (readAll_isSome ⟨default, cs⟩ bufs)
    exact ⟨reader, out, run, by simpa [pending] using readAll_conserves run⟩
  · simpa [pending] using readAll_drains (by simp [ReadDebt.NoEmptyDebt]) rooms
      (by simpa [readsLeft, ReadDebt.pending] using enough)

/-- Two messages of two and one bytes through one-byte slices: five reads suffice. -/
theorem readAll_delivers_two_messages :
    (⟨default, [[1, 2], [3]]⟩ : WsReader).readAll [[0], [0], [0], [0], [0]] =
      some (⟨default, []⟩, [1, 2, 3]) :=
  (readAll_delivers [[1, 2], [3]]).2 _ (by decide) (by decide)

end WsReader

end Websocat
