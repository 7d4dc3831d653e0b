import Mathlib.Data.Seq.Seq
import Websocat.WsReader

/-! Peers and peer constructors of `lib.rs`. A boxed future of `futures` 0.1 is modelled by
what polling it comes to, and a boxed stream by the sequence of its elements, finite or not,
each such an outcome. An error `Box<std::error::Error>` is known by its message. -/
namespace Websocat

/-- What a future comes to when polled to the end: its item, its error, a panic with its
message, or nothing ever (`NotReady` forever). -/
inductive Resolved (ε α : Type) where
  | ok (value : α)
  | err (error : ε)
  | panic (message : String)
  | pending
  deriving DecidableEq, Repr

namespace Resolved

variable {ε α β γ : Type}

def andThen (self : Resolved ε α) (f : α → Resolved ε β) : Resolved ε β :=
  match self with
  | ok value => f value
  | err error => err error
  | panic message => panic message
  | pending => pending

def map (self : Resolved ε α) (f : α → β) : Resolved ε β := self.andThen fun value => ok (f value)

def ofExcept : Except ε α → Resolved ε α
  | .ok value => ok value
  | .error error => err error

@[simp] theorem ok_andThen (value : α) (f : α → Resolved ε β) : (ok value).andThen f = f value := rfl

@[simp] theorem err_andThen (error : ε) (f : α → Resolved ε β) :
    (err error : Resolved ε α).andThen f = err error := rfl

theorem andThen_eq_ok {self : Resolved ε α} {f : α → Resolved ε β} {value : β} :
    self.andThen f = ok value ↔ ∃ first, self = ok first ∧ f first = ok value := by
  cases self <;> simp [andThen]

theorem map_map (self : Resolved ε α) (f : α → β) (g : β → γ) :
    (self.map f).map g = self.map fun value => g (f value) := by
  cases self <;> rfl

theorem andThen_assoc (self : Resolved ε α) (f : α → Resolved ε β) (g : β → Resolved ε γ) :
    (self.andThen f).andThen g = self.andThen fun value => (f value).andThen g := by
  cases self <;> rfl

end Resolved

/-- Modelled from the spec: `Mode1` of `ws_peer.rs`, absent from src/: whether the writer
sends Text or Binary frames. -/
inductive Mode1 where
  | text
  | binary
  deriving DecidableEq, Repr

inductive ReadHalf where
  | transport (name : Nat)
  | ws (reader : WsReader)
  deriving DecidableEq, Repr

inductive WriteHalf where
  | transport (name : Nat)
  | ws (sink : Nat) (mode1 : Mode1)
  deriving DecidableEq, Repr

structure Peer where
  reader : ReadHalf
  writer : WriteHalf
  deriving DecidableEq, Repr

abbrev BoxedNewPeerFuture := Resolved String Peer

abbrev BoxedNewPeerStream := Stream'.Seq (Resolved String Peer)

inductive PeerConstructor where
  | serveOnce (future : BoxedNewPeerFuture)
  | serveMultipleTimes (stream : BoxedNewPeerStream)

namespace PeerConstructor

def map (self : PeerConstructor) (f : Peer → BoxedNewPeerFuture) : PeerConstructor :=
  match self with
  | serveOnce x => serveOnce (x.andThen f)
  | serveMultipleTimes s => serveMultipleTimes (s.map fun x => x.andThen f)

/-- `get_only_first_conn()`: `into_future()` on the stream resolves to its first element and
drops the rest; a stream with no element trips `expect("Nowhere to connect it")`. -/
def getOnlyFirstConn (self : PeerConstructor) : BoxedNewPeerFuture :=
  match self with
  | serveMultipleTimes stre =>
    match stre.head with
    | some first => first
    | none => .panic "Nowhere to connect it"
  | serveOnce future => future

def isServeMultipleTimes : PeerConstructor → Bool
  | serveOnce _ => false
  | serveMultipleTimes _ => true

@[simp] theorem isServeMultipleTimes_map (self : PeerConstructor) (f : Peer → BoxedNewPeerFuture) :
    (self.map f).isServeMultipleTimes = self.isServeMultipleTimes := by
  cases self <;> rfl

theorem map_map (self : PeerConstructor) (f g : Peer → BoxedNewPeerFuture) :
    (self.map f).map g = self.map fun p => (f p).andThen g := by
  cases self with
  | serveOnce x => simp [map, Resolved.andThen_assoc]
  | serveMultipleTimes s =>
    simp only [map, ← Stream'.Seq.map_comp, Function.comp_def, Resolved.andThen_assoc]

theorem getOnlyFirstConn_serveMultipleTimes (stre : BoxedNewPeerStream) :
    (serveMultipleTimes stre).getOnlyFirstConn = stre.head.getD (.panic "Nowhere to connect it") := by
  simp only [getOnlyFirstConn]
  cases stre.head <;> rfl

end PeerConstructor

-- The constructors of `lib.rs` that transports use for their results and failures.

def once (x : BoxedNewPeerFuture) : PeerConstructor := .serveOnce x

def multi (x : BoxedNewPeerStream) : PeerConstructor := .serveMultipleTimes x

def peerErr (e : String) : BoxedNewPeerFuture := .err e

def peerErrS (e : String) : BoxedNewPeerStream := Stream'.Seq.ofList [.err e]

def peerStrerr (e : String) : BoxedNewPeerFuture := .err e

end Websocat
