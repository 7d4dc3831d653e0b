import Websocat.Serve

/-! The runner of `serve` over the stream of a listener, finite or not, and `ws-listen:` over
a multi-connect transport. The runner polls one element at a time and stops at the first that
is not a peer. `WsUpgrade` maps `ws_upgrade_peer` over the accept stream with
`Stream::and_then`, so the handshake of each client runs inside the stream the runner polls:
the runner sees a client only once its handshake has resolved, and only after the handshakes of
all clients before it. -/
namespace Websocat

variable {σ α : Type}

theorem get?_of_destruct_none {s : Stream'.Seq α} (ended : s.destruct = none) (n : Nat) :
    s.get? n = none := by
  rw [Stream'.Seq.destruct_eq_nil ended, Stream'.Seq.get?_nil]

theorem get?_zero_of_destruct {s rest : Stream'.Seq α} {x : α} (next : s.destruct = some (x, rest)) :
    s.get? 0 = some x := by
  rw [Stream'.Seq.destruct_eq_cons next, Stream'.Seq.get?_cons_zero]

theorem destruct_eq_some_of_get?_zero {s : Stream'.Seq α} {x : α} (first : s.get? 0 = some x) :
    ∃ rest, s.destruct = some (x, rest) := by
  rcases next : s.destruct with _ | ⟨y, rest⟩
  · simp [get?_of_destruct_none next] at first
  · obtain rfl := Option.some.inj ((get?_zero_of_destruct next).symm.trans first)
    exact ⟨rest, rfl⟩

theorem get?_succ_of_destruct {s rest : Stream'.Seq α} {x : α} (next : s.destruct = some (x, rest))
    (n : Nat) : s.get? (n + 1) = rest.get? n := by
  rw [Stream'.Seq.destruct_eq_cons next, Stream'.Seq.get?_cons_succ]

section
variable {handshake : Handshake} {h : Handle} {s2 : Specifier σ} {opts : Options} {k : Nat}
  {x : Resolved String Peer}

theorem forEach_blocked_at {stream : BoxedNewPeerStream} (kth : stream.get? k = some x)
    (notPeer : ∀ peer, x ≠ .ok peer) (fuel : Nat) (ps : σ) :
    ((forEach handshake h s2 opts fuel ps stream).1.filterMap Event.spawned).length ≤ k ∧
      (forEach handshake h s2 opts fuel ps stream).2 ≠ some (.ok ()) := by
  induction fuel generalizing k ps stream with
  | zero => simp [forEach]
  | succ fuel ih =>
    rcases next : stream.destruct with _ | ⟨first, rest⟩
    · simp [get?_of_destruct_none next] at kth
    · rcases first with peer1 | e | message | _
      · cases k with
        | zero =>
          rw [get?_zero_of_destruct next] at kth
          exact absurd (Option.some.inj kth).symm (notPeer peer1)
        | succ k =>
          rw [get?_succ_of_destruct next] at kth
          obtain ⟨fewer, notOk⟩ := ih kth (s2.construct handshake h ps opts).2
          rw [forEach_succ_peer next]
          exact ⟨by simpa [Event.spawned] using fewer, notOk⟩
      all_goals simp [forEach_succ_stop next (fun _ => Resolved.noConfusion), report, Resolved.map,
        Resolved.andThen, Event.spawned]

/-- However often the runner polls, it is still running exactly when every element it polled
was a peer, and then it has done nothing but spawn one task per poll: a listener whose accepts
keep succeeding is served for ever. -/
theorem forEach_running_iff (handshake : Handshake) (h : Handle) (s2 : Specifier σ) (opts : Options)
    (fuel : Nat) (ps : σ) (stream : BoxedNewPeerStream) :
    ((forEach handshake h s2 opts fuel ps stream).2 = none ↔
        ∀ i < fuel, ∃ peer, stream.get? i = some (.ok peer)) ∧
      ((forEach handshake h s2 opts fuel ps stream).2 = none →
        (forEach handshake h s2 opts fuel ps stream).1.length = fuel ∧
          ∀ event ∈ (forEach handshake h s2 opts fuel ps stream).1, event.isSpawn) := by
  induction fuel generalizing ps stream with
  | zero => simp [forEach]
  | succ fuel ih =>
    rw [Nat.forall_lt_succ_left]
    rcases next : stream.destruct with _ | ⟨first, rest⟩
    · simp [forEach_succ_ended next, get?_of_destruct_none next]
    · simp only [get?_zero_of_destruct next, get?_succ_of_destruct next]
      rcases first with peer1 | e | message | _
      · obtain ⟨running, spawns⟩ := ih (s2.construct handshake h ps opts).2 rest
        rw [forEach_succ_peer next]
        refine ⟨by simpa using running, fun still => ?_⟩
        obtain ⟨length, all⟩ := spawns still
        simpa [length, Event.isSpawn] using all
      all_goals simp [forEach_succ_stop next (fun _ => Resolved.noConfusion), report, Resolved.map,
        Resolved.andThen]

/-- If the first `k` elements are peers and the next is not, then after more than `k` polls
the runner has spawned exactly `k` tasks, reports that element after them and nothing else, and
comes to that element's outcome. -/
theorem forEach_stops_at {stream : BoxedNewPeerStream}
    (before : ∀ i < k, ∃ peer, stream.get? i = some (.ok peer)) (kth : stream.get? k = some x)
    (notPeer : ∀ peer, x ≠ .ok peer) (fuel : Nat) (enough : k < fuel) (ps : σ) :
    ((forEach handshake h s2 opts fuel ps stream).1.filterMap Event.spawned).length = k ∧
      (forEach handshake h s2 opts fuel ps stream).1.drop k = (report [] (x.map fun _ => ())).1 ∧
      (forEach handshake h s2 opts fuel ps stream).2 = some (report [] (x.map fun _ => ())).2 := by
  obtain ⟨fuel, rfl⟩ : ∃ f, fuel = f + 1 := ⟨fuel - 1, by omega⟩
  induction k generalizing fuel ps stream with
  | zero =>
    obtain ⟨rest, next⟩ := destruct_eq_some_of_get?_zero kth
    rw [forEach_succ_stop next notPeer]
    exact ⟨by simp [report_spawned], rfl, rfl⟩
  | succ k ih =>
    obtain ⟨peer1, first⟩ := before 0 (Nat.succ_pos k)
    obtain ⟨rest, next⟩ := destruct_eq_some_of_get?_zero first
    obtain ⟨fuel, rfl⟩ : ∃ f, fuel = f + 1 := ⟨fuel - 1, by omega⟩
    have later (i : Nat) (lt : i < k) : ∃ peer, rest.get? i = some (.ok peer) := by
      simpa [get?_succ_of_destruct next] using before (i + 1) (by omega)
    rw [get?_succ_of_destruct next] at kth
    obtain ⟨spawned, reported, outcome⟩ := ih later kth (s2.construct handshake h ps opts).2 fuel (by omega)
    rw [forEach_succ_peer next]
    exact ⟨by simpa [Event.spawned] using spawned, reported, outcome⟩

end

theorem wsUpgrade_construct_of_multi {inner : Specifier σ} {handshake : Handshake} {h : Handle} {ps : σ}
    {opts : Options} {accepted : BoxedNewPeerStream}
    (listens : (inner.construct handshake h ps opts).1 = .serveMultipleTimes accepted) :
    ((Specifier.wsUpgrade inner).construct handshake h ps opts).1 = .serveMultipleTimes (accepted.map fun x =>
      x.andThen fun p => wsUpgradePeer handshake p (if opts.websocketTextMode then .text else .binary)) := by
  rw [Specifier.construct_wsUpgrade, listens]
  rfl

/-- `ws-listen:` over a multi-connect node, without `oneshot`: once client `k`'s handshake does
not succeed, no client from `k` on is ever given a task and `serve` never succeeds, however
often the runner polls. If the handshakes of the clients before `k` all succeed, each of them
gets its task, and after them the only event is the report of client `k`'s handshake: a failed
one is reported once and fails `serve`, a stalled one leaves it waiting for good. -/
theorem serve_ws_listener_stops_at_handshake [Inhabited σ] (copy : Transfer → Timed String Unit)
    (handshake : Handshake) (h : Handle) (inner s2 : Specifier σ) (opts : Options)
    (accepted : BoxedNewPeerStream) (k : Nat) (p : Peer) (notOneshot : opts.oneshot = false)
    (listens : (inner.construct handshake h default opts).1 = .serveMultipleTimes accepted)
    (kth : accepted.get? k = some (.ok p)) (notUpgraded : ∀ r, handshake p ≠ .ok r) :
    (∀ fuel, ((serve copy handshake h (.wsUpgrade inner) s2 opts fuel).1.filterMap Event.spawned).length ≤ k ∧
      (serve copy handshake h (.wsUpgrade inner) s2 opts fuel).2 ≠ some (.ok ())) ∧
    ((∀ i < k, ∃ q r, accepted.get? i = some (.ok q) ∧ handshake q = .ok r) → ∀ fuel, k < fuel →
      ((serve copy handshake h (.wsUpgrade inner) s2 opts fuel).1.filterMap Event.spawned).length = k ∧
      (serve copy handshake h (.wsUpgrade inner) s2 opts fuel).1.drop k = (report [] ((handshake p).map fun _ => ())).1 ∧
      (serve copy handshake h (.wsUpgrade inner) s2 opts fuel).2 = some (report [] ((handshake p).map fun _ => ())).2) := by
  set mode : Mode1 := if opts.websocketTextMode then .text else .binary
  have serves (fuel : Nat) : serve copy handshake h (.wsUpgrade inner) s2 opts fuel =
      forEach handshake h s2 opts fuel ((Specifier.wsUpgrade inner).construct handshake h default opts).2
        (accepted.map fun x => x.andThen fun q => wsUpgradePeer handshake q mode) :=
    serve_serveMultipleTimes copy handshake h _ s2 opts fuel _ notOneshot (wsUpgrade_construct_of_multi listens)
  have upgraded (i : Nat) : (accepted.map fun x => x.andThen fun q => wsUpgradePeer handshake q mode).get? i =
      (accepted.get? i).map fun x => x.andThen fun q => wsUpgradePeer handshake q mode :=
    Stream'.Seq.map_get? _ _ _
  have kth' : (accepted.map fun x => x.andThen fun q => wsUpgradePeer handshake q mode).get? k =
      some (wsUpgradePeer handshake p mode) := by
    rw [upgraded, kth]
    rfl
  have notPeer (peer : Peer) : wsUpgradePeer handshake p mode ≠ .ok peer := fun made => by
    obtain ⟨_, _, upgraded, -⟩ := wsUpgradePeer_eq_ok.mp made
    exact notUpgraded _ upgraded
  have reported : (wsUpgradePeer handshake p mode).map (fun _ => ()) = (handshake p).map fun _ => () :=
    Resolved.map_map _ _ _
  refine ⟨fun fuel => ?_, fun before fuel enough => ?_⟩
  · rw [serves]
    exact forEach_blocked_at kth' notPeer fuel _
  · rw [serves, ← reported]
    refine forEach_stops_at (fun i lt => ?_) kth' notPeer fuel enough _
    obtain ⟨q, r, acceptedI, ok⟩ := before i lt
    exact ⟨⟨.ws ⟨default, r.1⟩, .ws r.2 mode⟩, by rw [upgraded, acceptedI]; simp [wsUpgradePeer, ok, Resolved.map]⟩

/-- Three clients, of which the second sends no valid upgrade request: the first gets its
task, the second's error is reported, and the third is never served. -/
theorem serve_ws_listener_stops_at_handshake_bad_request :
    let client (n : Nat) : Peer := ⟨.transport n, .transport n⟩
    let accepted : BoxedNewPeerStream := Stream'.Seq.ofList [.ok (client 0), .ok (client 1), .ok (client 2)]
    let listener : Specifier Unit := .terminal ⟨true, false, .other, fun _ ps _ => (.serveMultipleTimes accepted, ps)⟩
    let handshake : Handshake := fun p => if p = client 1 then .err "bad request" else .ok ([[104, 105]], 0)
    let serveIt (fuel : Nat) := serve (fun _ => none) handshake ⟨⟩ (.wsUpgrade listener) listener {} fuel
    ({} : Options).oneshot = false ∧
      (listener.construct handshake ⟨⟩ default {}).1 = .serveMultipleTimes accepted ∧
      accepted.get? 1 = some (.ok (client 1)) ∧ (∀ r, handshake (client 1) ≠ .ok r) ∧
      (∀ fuel, ((serveIt fuel).1.filterMap Event.spawned).length ≤ 1 ∧ (serveIt fuel).2 ≠ some (.ok ())) ∧
      ((∀ i < 1, ∃ q r, accepted.get? i = some (.ok q) ∧ handshake q = .ok r) → ∀ fuel, 1 < fuel →
        ((serveIt fuel).1.filterMap Event.spawned).length = 1 ∧
        (serveIt fuel).1.drop 1 = (report [] ((handshake (client 1)).map fun _ => ())).1 ∧
        (serveIt fuel).2 = some (report [] ((handshake (client 1)).map fun _ => ())).2) := by
  intro client accepted listener handshake serveIt
  have refused : ∀ r, handshake (client 1) ≠ .ok r := fun _ => Resolved.noConfusion
  exact ⟨rfl, rfl, rfl, refused, serve_ws_listener_stops_at_handshake _ handshake ⟨⟩ listener listener {}
    accepted 1 (client 1) rfl rfl rfl refused⟩

end Websocat
