import Websocat.Specifier

/-! Sessions of `lib.rs`: two peers recombined into two transfers, run under the policy that
`unidirectional`, `unidirectional_reverse` and `exit_on_eof` select. The copy of a transfer is
`my_copy::copy`, absent from src/, and is known by when it ends on the event loop's clock and
how. `join` and `select` of `futures` 0.1 are modelled by the order they poll their futures in:
the first, then the second, on every tick. -/
namespace Websocat

abbrev Timed (ε α : Type) := Option (Nat × Except ε α)

namespace Timed

variable {ε α β : Type}

def map (self : Timed ε α) (f : α → β) : Timed ε β :=
  Option.map (fun (t, r) => (t, r.map f)) self

/-- `a.join(b)`: the first error ends it, `a`'s on a tie; without an error it resolves once
both have. -/
def join : Timed ε α → Timed ε β → Timed ε (α × β)
  | some (ta, .error e), some (tb, .error e') => if tb < ta then some (tb, .error e') else some (ta, .error e)
  | some (ta, .error e), _ => some (ta, .error e)
  | _, some (tb, .error e) => some (tb, .error e)
  | some (ta, .ok x), some (tb, .ok y) => some (max ta tb, .ok (x, y))
  | _, _ => none

/-- `a.select(b)`: whichever resolves first, `a` on a tie; the other is dropped. -/
def select : Timed ε α → Timed ε α → Timed ε α
  | some (ta, ra), some (tb, rb) => if tb < ta then some (tb, rb) else some (ta, ra)
  | some a, none => some a
  | none, b => b

end Timed

def Resolved.ofTimed {ε α : Type} : Timed ε α → Resolved ε α
  | some (_, .ok value) => .ok value
  | some (_, .error error) => .err error
  | none => .pending

structure Transfer where
  «from» : ReadHalf
  «to» : WriteHalf
  deriving DecidableEq, Repr

structure Session where
  forward : Transfer
  reverse : Transfer
  opts : Options
  deriving DecidableEq, Repr

namespace Session

def new (peer1 peer2 : Peer) (opts : Options) : Session :=
  ⟨⟨peer1.reader, peer2.writer⟩, ⟨peer2.reader, peer1.writer⟩, opts⟩

/-- `run()`. `copy` is `my_copy::copy` of a transfer, then the shutdown of its writer. -/
def run (copy : Transfer → Timed String Unit) (self : Session) : Timed String Unit :=
  let f1 := copy self.forward
  let f2 := copy self.reverse
  match self.opts.unidirectional, self.opts.unidirectionalReverse, self.opts.exitOnEof with
  | false, false, false => (f1.join f2).map fun _ => ()
  | false, false, true => f1.select f2
  | true, false, _ => f1
  | false, true, _ => f2
  | true, true, _ => some (0, .ok ())

end Session

end Websocat
