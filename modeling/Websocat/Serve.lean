import Websocat.Session

/-! `serve` of `lib.rs`. The left specifier is constructed once, and with `oneshot` its
constructor is cut down to its first connection. A stream of left peers is consumed by
`stream.map(..).for_each(..)`: each peer gets a right side constructed afresh and a session
in a task of its own. What a future does is a list of events and the outcome it comes to. -/
namespace Websocat

/-- What `serve` does that can be seen from outside: `h1.spawn` of the task that pairs a left
peer with the first peer of the right side `s2.construct` returned for it, a session run, and a
call of `onerror`. -/
inductive Event where
  | spawn (peer1 : Peer) (right : PeerConstructor)
  | session (s : Session)
  | onError (e : String)

namespace Event

def isSpawn : Event → Bool
  | spawn _ _ => true
  | _ => false

def isSession : Event → Bool
  | session _ => true
  | _ => false

def spawned : Event → Option (Peer × PeerConstructor)
  | spawn peer1 right => some (peer1, right)
  | _ => none

end Event

/-- `map_err(move |e| onerror(e))` at the end of a future: an error is reported and becomes
`()`. -/
def report (events : List Event) : Resolved String Unit → List Event × Resolved Unit Unit
  | .ok () => (events, .ok ())
  | .err e => (events ++ [.onError e], .err ())
  | .panic message => (events, .panic message)
  | .pending => (events, .pending)

theorem report_events (events : List Event) (r : Resolved String Unit) :
    (report events r).1 = events ∨ ∃ e, (report events r).1 = events ++ [.onError e] := by
  cases r <;> simp [report]

theorem report_spawned (events : List Event) (r : Resolved String Unit) :
    (report events r).1.filterMap Event.spawned = events.filterMap Event.spawned := by
  rcases report_events events r with same | ⟨e, failed⟩
  · rw [same]
  · simp [failed, Event.spawned]

/-- `right.get_only_first_conn().and_then(|peer2| Session::new(peer1, peer2, opts).run())`,
then `map_err` to `onerror`: the body of a spawned task, and of the one-shot serve. -/
def pairWith (copy : Transfer → Timed String Unit) (opts : Options) (peer1 : Peer)
    (right : PeerConstructor) : List Event × Resolved Unit Unit :=
  match right.getOnlyFirstConn with
  | .ok peer2 =>
    let s := Session.new peer1 peer2 opts
    report [.session s] (.ofTimed (s.run copy))
  | first => report [] (first.map fun _ => ())

theorem pairWith_of_getOnlyFirstConn_ok {copy : Transfer → Timed String Unit} {opts : Options}
    {peer1 peer2 : Peer} {right : PeerConstructor} (first : right.getOnlyFirstConn = .ok peer2) :
    pairWith copy opts peer1 right =
      report [.session (Session.new peer1 peer2 opts)]
        (.ofTimed ((Session.new peer1 peer2 opts).run copy)) := by
  simp only [pairWith, first]

theorem pairWith_events (copy : Transfer → Timed String Unit) (opts : Options) (peer1 : Peer)
    (right : PeerConstructor) :
    ((pairWith copy opts peer1 right).1.filter Event.isSession).length ≤ 1 ∧
      ∀ event ∈ (pairWith copy opts peer1 right).1,
        (∃ peer2, right.getOnlyFirstConn = .ok peer2 ∧
            event = .session (Session.new peer1 peer2 opts)) ∨
          ∃ e, event = .onError e := by
  rcases first : right.getOnlyFirstConn with peer2 | e | message | _
  · rw [pairWith_of_getOnlyFirstConn_ok first]
    rcases report_events [.session (Session.new peer1 peer2 opts)]
        (.ofTimed ((Session.new peer1 peer2 opts).run copy)) with same | ⟨e, failed⟩
    · simp [same, Event.isSession]
    · simp [failed, Event.isSession]
  all_goals simp [pairWith, first, report, Resolved.map, Resolved.andThen, Event.isSession]

variable {σ : Type}

/-- The runner `stream.map(..).for_each(|()| ok(()))` with `map_err(e2)`, after at most `fuel`
polls of the stream: for each peer, `s2.construct` from the state the previous call left, and
a spawned task. The outcome is `none` while the runner still polls. -/
def forEach (handshake : Handshake) (h : Handle) (s2 : Specifier σ) (opts : Options) :
    Nat → σ → BoxedNewPeerStream → List Event × Option (Resolved Unit Unit)
  | 0, _, _ => ([], none)
  | fuel + 1, ps, stream =>
    match stream.destruct with
    | none => ([], some (.ok ()))
    | some (.ok peer1, rest) =>
      let (right, ps) := s2.construct handshake h ps opts
      let (events, result) := forEach handshake h s2 opts fuel ps rest
      (.spawn peer1 right :: events, result)
    | some (first, _) =>
      let (events, result) := report [] (first.map fun _ => ())
      (events, some result)

def runOnce (copy : Transfer → Timed String Unit) (handshake : Handshake) (h : Handle)
    (s2 : Specifier σ) (opts : Options) (ps : σ) (peer1c : BoxedNewPeerFuture) :
    List Event × Resolved Unit Unit :=
  match peer1c with
  | .ok peer1 => pairWith copy opts peer1 (s2.construct handshake h ps opts).1
  | first => report [] (first.map fun _ => ())

/-- `serve(h, s1, s2, opts, onerror)` from `ProgramState::default()`, its stream of left peers
polled at most `fuel` times. -/
def serve [Inhabited σ] (copy : Transfer → Timed String Unit) (handshake : Handshake) (h : Handle)
    (s1 s2 : Specifier σ) (opts : Options) (fuel : Nat) : List Event × Option (Resolved Unit Unit) :=
  let (left, ps) := s1.construct handshake h default opts
  let left := if opts.oneshot then .serveOnce left.getOnlyFirstConn else left
  match left with
  | .serveMultipleTimes stream => forEach handshake h s2 opts fuel ps stream
  | .serveOnce peer1c =>
    let (events, result) := runOnce copy handshake h s2 opts ps peer1c
    (events, some result)

structure WebsocatConfiguration (σ : Type) where
  opts : Options
  s1 : Specifier σ
  s2 : Specifier σ

def WebsocatConfiguration.serve [Inhabited σ] (self : WebsocatConfiguration σ)
    (copy : Transfer → Timed String Unit) (handshake : Handshake) (h : Handle) (fuel : Nat) :
    List Event × Option (Resolved Unit Unit) :=
  Websocat.serve copy handshake h self.s1 self.s2 self.opts fuel

section
variable {handshake : Handshake} {h : Handle} {s2 : Specifier σ} {opts : Options} {fuel : Nat}
  {ps : σ} {stream rest : BoxedNewPeerStream}

theorem forEach_succ_ended (ended : stream.destruct = none) :
    forEach handshake h s2 opts (fuel + 1) ps stream = ([], some (.ok ())) := by
  simp [forEach, ended]

theorem forEach_succ_peer {peer1 : Peer} (next : stream.destruct = some (.ok peer1, rest)) :
    forEach handshake h s2 opts (fuel + 1) ps stream =
      (.spawn peer1 (s2.construct handshake h ps opts).1 ::
          (forEach handshake h s2 opts fuel (s2.construct handshake h ps opts).2 rest).1,
        (forEach handshake h s2 opts fuel (s2.construct handshake h ps opts).2 rest).2) := by
  simp only [forEach, next]

theorem forEach_succ_stop {first : Resolved String Peer} (next : stream.destruct = some (first, rest))
    (stops : ∀ peer1, first ≠ .ok peer1) :
    forEach handshake h s2 opts (fuel + 1) ps stream =
      ((report [] (first.map fun _ => ())).1, some (report [] (first.map fun _ => ())).2) := by
  rcases first with peer1 | e | message | _
  · exact absurd rfl (stops peer1)
  all_goals simp only [forEach, next]

end

def Specifier.constructs (self : Specifier σ) (handshake : Handshake) (h : Handle) (opts : Options) :
    σ → Nat → List PeerConstructor
  | _, 0 => []
  | ps, n + 1 =>
    (self.construct handshake h ps opts).1 ::
      self.constructs handshake h opts (self.construct handshake h ps opts).2 n

def peersBefore : List (Resolved String Peer) → List Peer
  | .ok peer :: rest => peer :: peersBefore rest
  | _ => []

theorem take_succ_nil {α : Type} {stream : Stream'.Seq α} (n : Nat) (ended : stream.destruct = none) :
    stream.take (n + 1) = [] := by
  simp [Stream'.Seq.take, ended]

theorem take_succ_cons {α : Type} {stream rest : Stream'.Seq α} {first : α} (n : Nat)
    (next : stream.destruct = some (first, rest)) : stream.take (n + 1) = first :: rest.take n := by
  simp [Stream'.Seq.take, next]

/-- On every stream, finite or not, after any number of polls the runner has spawned one task
per accepted peer, in accept order, each with the next `s2.construct`. -/
theorem forEach_spawns_in_order (handshake : Handshake) (h : Handle) (s2 : Specifier σ) (opts : Options)
    (fuel : Nat) (ps : σ) (stream : BoxedNewPeerStream) :
    (forEach handshake h s2 opts fuel ps stream).1.filterMap Event.spawned =
      (peersBefore (stream.take fuel)).zip
        (s2.constructs handshake h opts ps (peersBefore (stream.take fuel)).length) := by
  induction fuel generalizing ps stream with
  | zero => rfl
  | succ fuel ih =>
    rcases next : stream.destruct with _ | ⟨first, rest⟩
    · simp [forEach_succ_ended next, take_succ_nil fuel next, peersBefore]
    · rw [take_succ_cons fuel next]
      rcases first with peer1 | e | message | _
      · simp [forEach_succ_peer next, Event.spawned, peersBefore, Specifier.constructs, ih]
      all_goals simp [forEach_succ_stop next (fun _ => Resolved.noConfusion), report_spawned, peersBefore]

def okPrefix : List (Except String Peer) → List Peer
  | .ok peer :: rest => peer :: okPrefix rest
  | _ => []

def firstError : List (Except String Peer) → Option String
  | [] => none
  | .ok _ :: rest => firstError rest
  | .error e :: _ => some e

@[simp] theorem destruct_ofList_cons {α : Type} (first : α) (rest : List α) :
    (Stream'.Seq.ofList (first :: rest)).destruct = some (first, Stream'.Seq.ofList rest) := by
  simp

theorem forEach_ofList (handshake : Handshake) (h : Handle) (s2 : Specifier σ) (opts : Options)
    (l : List (Except String Peer)) (ps : σ) (fuel : Nat) (enough : l.length < fuel) :
    forEach handshake h s2 opts fuel ps (Stream'.Seq.ofList (l.map Resolved.ofExcept)) =
      ((okPrefix l).zipWith .spawn (s2.constructs handshake h opts ps (okPrefix l).length) ++
          ((firstError l).map Event.onError).toList,
        some (if (firstError l).isSome then .err () else .ok ())) := by
  obtain ⟨fuel, rfl⟩ : ∃ f, fuel = f + 1 := ⟨fuel - 1, by omega⟩
  induction l generalizing ps fuel with
  | nil => simp [forEach, okPrefix, firstError]
  | cons first rest ih =>
    cases first with
    | ok peer =>
      have more : rest.length < fuel := by simpa using enough
      obtain ⟨fuel, rfl⟩ : ∃ f, fuel = f + 1 := ⟨fuel - 1, by omega⟩
      rw [List.map_cons, forEach, destruct_ofList_cons]
      simp [okPrefix, firstError, Specifier.constructs, Resolved.ofExcept, ih _ _ more]
    | error e => simp [forEach, okPrefix, firstError, Resolved.ofExcept, Resolved.map, report]

/-- Without `oneshot`, over a finite stream of left peers: for each peer before the first
error, in order, one `s2.construct` from the state the previous call left and one spawned
task; at the first error one `onerror` call, after which nothing more is consumed and the
future fails. With no error every peer gets its task and the future succeeds. -/
theorem serve_stops_at_first_error [Inhabited σ] (copy : Transfer → Timed String Unit)
    (handshake : Handshake) (h : Handle) (s1 s2 : Specifier σ) (opts : Options)
    (l : List (Except String Peer)) (fuel : Nat) (notOneshot : opts.oneshot = false)
    (multi : (s1.construct handshake h default opts).1 =
      .serveMultipleTimes (Stream'.Seq.ofList (l.map Resolved.ofExcept)))
    (enough : l.length < fuel) :
    serve copy handshake h s1 s2 opts fuel =
      ((okPrefix l).zipWith .spawn
          (s2.constructs handshake h opts (s1.construct handshake h default opts).2 (okPrefix l).length) ++
          ((firstError l).map Event.onError).toList,
        some (if (firstError l).isSome then .err () else .ok ())) := by
  rcases constructed : s1.construct handshake h default opts with ⟨left, ps⟩
  rw [constructed] at multi
  subst multi
  simpa only [serve, constructed, notOneshot] using forEach_ofList handshake h s2 opts l ps fuel enough

theorem serve_stops_at_first_error_handshake :
    let l : List (Except String Peer) := [.error "handshake", .ok ⟨.transport 1, .transport 1⟩]
    let right : Specifier Unit := .terminal ⟨false, false, .other, fun _ ps _ => (.serveOnce .pending, ps)⟩
    serve (fun _ => none) (fun _ => .pending) ⟨⟩ (.terminal ⟨true, false, .other,
        fun _ ps _ => (.serveMultipleTimes (Stream'.Seq.ofList (l.map Resolved.ofExcept)), ps)⟩) right {} 3 =
      ((okPrefix l).zipWith .spawn (right.constructs (fun _ => .pending) ⟨⟩ {} () (okPrefix l).length) ++
          ((firstError l).map Event.onError).toList,
        some (if (firstError l).isSome then .err () else .ok ())) := by
  intro l right
  exact serve_stops_at_first_error _ _ _ _ right _ l 3 rfl rfl (by decide)

/-- The same listener: the client after the one whose handshake failed is never served, and
`serve` fails, where spec §7 has the error reported and the stream continue. -/
theorem serve_skips_peer_after_failed_handshake :
    serve (fun _ => none) (fun _ => .pending) ⟨⟩
        (.terminal ⟨true, false, .other, fun _ ps _ => (.serveMultipleTimes (Stream'.Seq.ofList
          [.err "handshake", .ok ⟨.transport 1, .transport 1⟩]), ps)⟩)
        (.terminal ⟨false, false, .other, fun _ (ps : Unit) _ => (.serveOnce .pending, ps)⟩) {} 3 =
      ([.onError "handshake"], some (.err ())) := by
  rfl

theorem runOnce_events (copy : Transfer → Timed String Unit) (handshake : Handshake) (h : Handle)
    (s2 : Specifier σ) (opts : Options) (ps : σ) (peer1c : BoxedNewPeerFuture) :
    (∀ event ∈ (runOnce copy handshake h s2 opts ps peer1c).1, event.isSpawn = false) ∧
      ((runOnce copy handshake h s2 opts ps peer1c).1.filter Event.isSession).length ≤ 1 ∧
      (∀ s, Event.session s ∈ (runOnce copy handshake h s2 opts ps peer1c).1 →
        ∃ peer1 peer2, peer1c = .ok peer1 ∧ s = Session.new peer1 peer2 opts) ∧
      ∀ e, peer1c = .err e → runOnce copy handshake h s2 opts ps peer1c = ([.onError e], .err ()) := by
  rcases peer1c with peer1 | e | message | _
  · obtain ⟨sessions, events⟩ := pairWith_events copy opts peer1 (s2.construct handshake h ps opts).1
    refine ⟨fun event mem => ?_, sessions, fun s mem => ?_, fun _ failed => nomatch failed⟩
    · rcases events event mem with ⟨peer2, -, rfl⟩ | ⟨e, rfl⟩ <;> rfl
    · rcases events _ mem with ⟨peer2, -, same⟩ | ⟨e, ⟨⟩⟩
      exact ⟨peer1, peer2, rfl, Event.session.inj same⟩
  all_goals simp [runOnce, report, Resolved.map, Resolved.andThen, Event.isSpawn, Event.isSession]

theorem serve_serveMultipleTimes [Inhabited σ] (copy : Transfer → Timed String Unit)
    (handshake : Handshake) (h : Handle) (s1 s2 : Specifier σ) (opts : Options) (fuel : Nat)
    (stream : BoxedNewPeerStream) (notOneshot : opts.oneshot = false)
    (multi : (s1.construct handshake h default opts).1 = .serveMultipleTimes stream) :
    serve copy handshake h s1 s2 opts fuel =
      forEach handshake h s2 opts fuel (s1.construct handshake h default opts).2 stream := by
  rcases constructed : s1.construct handshake h default opts with ⟨left, ps⟩
  rw [constructed] at multi
  subst multi
  simp only [serve, constructed, notOneshot, Bool.false_eq_true, if_false]

theorem serve_oneshot [Inhabited σ] (copy : Transfer → Timed String Unit) (handshake : Handshake)
    (h : Handle) (s1 s2 : Specifier σ) (opts : Options) (fuel : Nat) (stream : BoxedNewPeerStream)
    (oneshot : opts.oneshot = true)
    (multi : (s1.construct handshake h default opts).1 = .serveMultipleTimes stream) :
    serve copy handshake h s1 s2 opts fuel =
      ((runOnce copy handshake h s2 opts (s1.construct handshake h default opts).2
          (PeerConstructor.serveMultipleTimes stream).getOnlyFirstConn).1,
        some (runOnce copy handshake h s2 opts (s1.construct handshake h default opts).2
          (PeerConstructor.serveMultipleTimes stream).getOnlyFirstConn).2) := by
  rcases constructed : s1.construct handshake h default opts with ⟨left, ps⟩
  rw [constructed] at multi
  subst multi
  simp only [serve, constructed, oneshot, if_true]

/-- `get_only_first_conn` resolves to the first element of a stream, finite or not, whatever it
is, and panics on a stream with no element; it returns a future unchanged. So with `oneshot`
and a multi-connect left side, `serve` spawns nothing and runs at most one session. When the
first element is `Ok(p)` and the right side's first connection is `Ok(q)`, it runs exactly the
session of `p` with `q` and reports that session's error, if any; a first error is reported
and fails `serve`, and an empty stream panics. -/
theorem oneshot_serves_first_element [Inhabited σ] (stream : BoxedNewPeerStream) :
    (PeerConstructor.serveMultipleTimes stream).getOnlyFirstConn =
        stream.head.getD (.panic "Nowhere to connect it") ∧
      (∀ future, (PeerConstructor.serveOnce future).getOnlyFirstConn = future) ∧
      ∀ (copy : Transfer → Timed String Unit) (handshake : Handshake) (h : Handle)
        (s1 s2 : Specifier σ) (opts : Options) (fuel : Nat), opts.oneshot = true →
        (s1.construct handshake h default opts).1 = .serveMultipleTimes stream →
          (∀ event ∈ (serve copy handshake h s1 s2 opts fuel).1, event.isSpawn = false) ∧
          ((serve copy handshake h s1 s2 opts fuel).1.filter Event.isSession).length ≤ 1 ∧
          (∀ s, Event.session s ∈ (serve copy handshake h s1 s2 opts fuel).1 →
            ∃ peer1 peer2, stream.head = some (.ok peer1) ∧ s = Session.new peer1 peer2 opts) ∧
          (∀ peer1 peer2, stream.head = some (.ok peer1) →
            (s2.construct handshake h (s1.construct handshake h default opts).2 opts).1.getOnlyFirstConn =
              .ok peer2 →
            serve copy handshake h s1 s2 opts fuel =
              ((report [.session (Session.new peer1 peer2 opts)]
                  (.ofTimed ((Session.new peer1 peer2 opts).run copy))).1,
                some (report [.session (Session.new peer1 peer2 opts)]
                  (.ofTimed ((Session.new peer1 peer2 opts).run copy))).2)) ∧
          (∀ e, stream.head = some (.err e) →
            serve copy handshake h s1 s2 opts fuel = ([.onError e], some (.err ()))) ∧
          (stream.head = none →
            serve copy handshake h s1 s2 opts fuel = ([], some (.panic "Nowhere to connect it"))) := by
  refine ⟨PeerConstructor.getOnlyFirstConn_serveMultipleTimes stream, fun _ => rfl,
    fun copy handshake h s1 s2 opts fuel oneshot multi => ?_⟩
  rw [serve_oneshot copy handshake h s1 s2 opts fuel stream oneshot multi,
    PeerConstructor.getOnlyFirstConn_serveMultipleTimes]
  obtain ⟨spawns, sessions, left, failed⟩ := runOnce_events copy handshake h s2 opts
    (s1.construct handshake h default opts).2 (stream.head.getD (.panic "Nowhere to connect it"))
  refine ⟨spawns, sessions, fun s mem => ?_, fun peer1 peer2 first right => ?_, fun e first => ?_,
    fun ended => ?_⟩
  · obtain ⟨peer1, peer2, head, rfl⟩ := left s mem
    refine ⟨peer1, peer2, ?_, rfl⟩
    revert head
    cases stream.head with
    | none => exact Resolved.noConfusion
    | some first => exact congrArg some
  · simp only [first, Option.getD_some, runOnce, pairWith_of_getOnlyFirstConn_ok right]
  · rw [failed e (by simp [first])]
  · simp [ended, runOnce, report, Resolved.map, Resolved.andThen]

theorem getOnlyFirstConn_fails_on_first_error :
    (PeerConstructor.serveMultipleTimes (Stream'.Seq.ofList
        [.err "handshake", .ok ⟨.transport 1, .transport 1⟩])).getOnlyFirstConn ≠
      .ok ⟨.transport 1, .transport 1⟩ ∧
    (PeerConstructor.serveMultipleTimes .nil).getOnlyFirstConn = .panic "Nowhere to connect it" := by
  decide

end Websocat
