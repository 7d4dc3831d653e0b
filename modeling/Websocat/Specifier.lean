import Websocat.Peer
import Websocat.SpecifierInfo

/-! Specifiers of `lib.rs` and `ws_server_peer.rs`. The trait `Specifier` is open; the nodes
whose code is in src/ are `WsUpgrade` and `Rc<Specifier>`, so a tree is a chain of those over
a transport specifier, which is known only by its `specifier_boilerplate!` answers and its
`construct`. The `ProgramState` that `construct` borrows mutably is the type `σ`: its fields
belong to `stdio_peer` and `connection_reuse_peer`, absent from src/. -/
namespace Websocat

/-- `Options` of `lib.rs`: the fields the modelled code reads, with the derived `Default` as
the structure instance `{}`. `websocket_protocol`, `udp_oneshot_mode`, `unlink_unix_socket`,
`exec_args` and `ws_c_uri` are read only by transports absent from src/ and are left out. -/
structure Options where
  websocketTextMode : Bool := false
  unidirectional : Bool := false
  unidirectionalReverse : Bool := false
  exitOnEof : Bool := false
  oneshot : Bool := false
  deriving DecidableEq, Repr

structure Handle

/-- What the `websocket` crate's server handshake over a peer (`into_ws`, then `accept`) comes
to, as the client at the other end of the peer decides: on success, the payloads of the data
messages the client will send and the name of the sink of the accepted stream. -/
abbrev Handshake := Peer → Resolved String (List (List UInt8) × Nat)

/-- `ws_upgrade_peer(inner_peer, mode1)`: the handshake, then `y.split()` and
`Peer::new(WsReadWrapper { debt: Default::default(), .. }, WsWriteWrapper(mpsink, mode1))`. -/
def wsUpgradePeer (handshake : Handshake) (innerPeer : Peer) (mode1 : Mode1) : BoxedNewPeerFuture :=
  (handshake innerPeer).map fun (messages, sink) => ⟨.ws ⟨default, messages⟩, .ws sink mode1⟩

theorem wsUpgradePeer_eq_ok {handshake : Handshake} {innerPeer peer : Peer} {mode1 : Mode1} :
    wsUpgradePeer handshake innerPeer mode1 = .ok peer ↔
      ∃ messages sink, handshake innerPeer = .ok (messages, sink) ∧
        peer = ⟨.ws ⟨default, messages⟩, .ws sink mode1⟩ := by
  simp only [wsUpgradePeer, Resolved.map, Resolved.andThen_eq_ok, Resolved.ok.injEq, Prod.exists]
  exact exists₂_congr fun _ _ => and_congr_right fun _ => eq_comm

structure Terminal (σ : Type) where
  multiconnect : Bool
  globalstate : Bool
  typ : SpecifierType
  construct : Handle → σ → Options → PeerConstructor × σ

inductive Specifier (σ : Type) where
  | terminal (t : Terminal σ)
  | wsUpgrade (inner : Specifier σ)
  | rc (inner : Specifier σ)

namespace Specifier

variable {σ : Type}

/-- `construct(h, ps, opts)`. `WsUpgrade` picks `mode1` from `websocket_text_mode` and maps
`ws_upgrade_peer` over what its inner node constructs; `Rc` forwards. -/
def construct : Specifier σ → Handshake → Handle → σ → Options → PeerConstructor × σ
  | terminal t, _, h, ps, opts => t.construct h ps opts
  | wsUpgrade inner, handshake, h, ps, opts =>
    let mode1 := if opts.websocketTextMode then Mode1.text else Mode1.binary
    let (inner, ps) := inner.construct handshake h ps opts
    (inner.map fun p => wsUpgradePeer handshake p mode1, ps)
  | rc inner, handshake, h, ps, opts => inner.construct handshake h ps opts

theorem construct_wsUpgrade (inner : Specifier σ) (handshake : Handshake) (h : Handle) (ps : σ)
    (opts : Options) :
    (wsUpgrade inner).construct handshake h ps opts =
      ((inner.construct handshake h ps opts).1.map fun p =>
          wsUpgradePeer handshake p (if opts.websocketTextMode then .text else .binary),
        (inner.construct handshake h ps opts).2) := rfl

/-- `peer_from_str(ps, handle, opts, s)`. `spec` is `specparse::spec`, absent from src/: a
string that does not parse gives `once` of a failed future and leaves `ps` alone. -/
def peerFromStr (spec : String → Except String (Specifier σ)) (handshake : Handshake) (ps : σ)
    (h : Handle) (opts : Options) (s : String) : PeerConstructor × σ :=
  match spec s with
  | .ok x => x.construct handshake h ps opts
  | .error e => (once (.err e), ps)

-- The answers of `specifier_boilerplate!` and `self_0_is_subspecifier!`: `WsUpgrade` is
-- `proxy_is_multiconnect`, `noglobalstate` and `typ=Other`, and chains its inner node's info;
-- `Rc` forwards every method.

def isMulticonnect : Specifier σ → Bool
  | terminal t => t.multiconnect
  | wsUpgrade inner => inner.isMulticonnect
  | rc inner => inner.isMulticonnect

def usesGlobalState : Specifier σ → Bool
  | terminal t => t.globalstate
  | wsUpgrade _ => false
  | rc inner => inner.usesGlobalState

def getType : Specifier σ → SpecifierType
  | terminal t => t.typ
  | wsUpgrade _ => .other
  | rc inner => inner.getType

def getInfoWithoutSubspecs (self : Specifier σ) : OneSpecifierInfo :=
  match self with
  | rc inner => inner.getInfoWithoutSubspecs
  | _ => ⟨self.isMulticonnect, self.usesGlobalState, self.getType⟩

def getInfo (self : Specifier σ) : SpecifierInfo :=
  match self with
  | terminal _ => ⟨self.getInfoWithoutSubspecs, none⟩
  | wsUpgrade inner => ⟨self.getInfoWithoutSubspecs, some inner.getInfo⟩
  | rc inner => inner.getInfo

def leaf : Specifier σ → Terminal σ
  | terminal t => t
  | wsUpgrade inner | rc inner => inner.leaf

def depth : Specifier σ → Nat
  | terminal _ => 0
  | wsUpgrade inner => inner.depth + 1
  | rc inner => inner.depth

def levels : Specifier σ → List (Specifier σ)
  | terminal t => [terminal t]
  | wsUpgrade inner => wsUpgrade inner :: inner.levels
  | rc inner => inner.levels

theorem isMulticonnect_eq_leaf (self : Specifier σ) : self.isMulticonnect = self.leaf.multiconnect := by
  induction self with
  | terminal t => rfl
  | wsUpgrade inner ih | rc inner ih => exact ih

theorem construct_isServeMultipleTimes (self : Specifier σ) (handshake : Handshake) (h : Handle)
    (ps : σ) (opts : Options) :
    (self.construct handshake h ps opts).1.isServeMultipleTimes =
      (self.leaf.construct h ps opts).1.isServeMultipleTimes := by
  induction self generalizing ps with
  | terminal t => rfl
  | wsUpgrade inner ih => simp [construct, leaf, ih]
  | rc inner ih => exact ih ps

theorem getInfo_flat (self : Specifier σ) : self.getInfo.flat = self.levels.map getInfoWithoutSubspecs := by
  induction self with
  | terminal t => rfl
  | wsUpgrade inner ih => simp [getInfo, levels, SpecifierInfo.flat, ih]
  | rc inner ih => exact ih

theorem levels_length (self : Specifier σ) : self.levels.length = self.depth + 1 := by
  induction self with
  | terminal t => rfl
  | wsUpgrade inner ih => simp [levels, depth, ih]
  | rc inner ih => exact ih

theorem levels_multiconnect (self : Specifier σ) :
    ∀ node ∈ self.levels, node.getInfoWithoutSubspecs.multiconnect = self.leaf.multiconnect := by
  induction self with
  | terminal t => simp [levels, getInfoWithoutSubspecs, isMulticonnect, leaf]
  | wsUpgrade inner ih =>
    simpa [levels, getInfoWithoutSubspecs, isMulticonnect, leaf, isMulticonnect_eq_leaf] using ih
  | rc inner ih => exact ih

/-- Over a transport whose `construct` gives `ServeMultipleTimes` exactly when it is
multi-connect, every chain of `WsUpgrade` and `Rc` constructs a stream exactly when it says it
is multi-connect, and every record the linter reads carries the transport's flag. -/
theorem construct_agrees_with_info (self : Specifier σ)
    (honest : ∀ h ps opts, (self.leaf.construct h ps opts).1.isServeMultipleTimes = self.leaf.multiconnect)
    (handshake : Handshake) (h : Handle) (ps : σ) (opts : Options) :
    ((self.construct handshake h ps opts).1.isServeMultipleTimes = true ↔ self.isMulticonnect = true) ∧
      (self.isMulticonnect = true ↔ self.leaf.multiconnect = true) ∧
      ∀ info ∈ self.getInfo.collect, info.multiconnect = self.leaf.multiconnect := by
  rw [isMulticonnect_eq_leaf, construct_isServeMultipleTimes, honest, SpecifierInfo.collect_eq_flat,
    getInfo_flat, List.forall_mem_map]
  exact ⟨Iff.rfl, Iff.rfl, levels_multiconnect self⟩

theorem construct_agrees_with_info_listener :
    let listener : Terminal Unit := ⟨true, false, .other, fun _ ps _ => (.serveMultipleTimes .nil, ps)⟩
    (∀ h ps opts, ((wsUpgrade (rc (terminal listener))).leaf.construct h ps opts).1.isServeMultipleTimes =
      (wsUpgrade (rc (terminal listener))).leaf.multiconnect) ∧
    ((((wsUpgrade (rc (terminal listener))).construct (fun _ => .pending) ⟨⟩ () {}).1.isServeMultipleTimes = true ↔
        (wsUpgrade (rc (terminal listener))).isMulticonnect = true) ∧
      ((wsUpgrade (rc (terminal listener))).isMulticonnect = true ↔
        (wsUpgrade (rc (terminal listener))).leaf.multiconnect = true) ∧
      ∀ info ∈ (wsUpgrade (rc (terminal listener))).getInfo.collect,
        info.multiconnect = (wsUpgrade (rc (terminal listener))).leaf.multiconnect) := by
  intro listener
  exact ⟨fun _ _ _ => rfl, construct_agrees_with_info (wsUpgrade (rc (terminal listener)))
    (fun _ _ _ => rfl) (fun _ => .pending) ⟨⟩ () {}⟩

/-- `collect` is the recursive flattening on every chain, so on a tree it lists, root first,
the record of each `WsUpgrade` level and of the transport: `k + 1` records for `k` levels. -/
theorem collect_lists_levels :
    (∀ info : SpecifierInfo, info.collect = info.flat) ∧
      ∀ self : Specifier σ, self.getInfo.collect.length = self.depth + 1 ∧
        self.getInfo.collect = self.levels.map getInfoWithoutSubspecs := by
  refine ⟨SpecifierInfo.collect_eq_flat, fun self => ?_⟩
  rw [SpecifierInfo.collect_eq_flat, getInfo_flat, List.length_map, levels_length]
  exact ⟨rfl, rfl⟩

end Specifier

end Websocat
