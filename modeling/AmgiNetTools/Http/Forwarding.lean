/-
Module: AmgiNetTools.Http.Forwarding
Layer: Http
Purpose: A session that sends its request on, seen from its two wires. Both operations it keeps
  outstanding may be reads of the peer, and then a chunk may be laid over one whose write is under
  way. The remote gets a chunk for each chunk that arrived, of the same size, in every run; and
  while each chunk arrives when all before are out, it gets the chunks themselves. The peer gets
  nothing, or the answer 500.
Main exports: Http.Forwards, Http.SendsOn, Http.Forwarded, http_forward_transparent
-/
import AmgiNetTools.Http.Transparent
import AmgiNetTools.Session.Writers

namespace AmgiNetTools

namespace Http

/-- A session whose request is not CONNECT, or has not come yet. -/
def Forwards (history : History HttpState) : Prop :=
  ∀ message ∈ requests history, (getHeaders message).method ≠ .kConnect

instance : DecidablePred Forwards := fun _ => inferInstanceAs (Decidable (∀ _ ∈ _, _))

/-- What its streams are handed, whether it goes out or not. -/
structure SendsOn (history : History HttpState) : Prop where
  toRemote : writes .client history <+: arrivals .server history
  toPeer : writes .server history <+: [kHttpError500]

/-- The law of its two wires. -/
structure Forwarded (history : History HttpState) : Prop where
  toRemote : Spaced .client history → sent .client history <+: arrivals .server history
  sizes : ((sent .client history).map List.length : Multiset Nat) ≤
    (arrivals .server history).map List.length
  toPeer : sent .server history <+: [kHttpError500]

variable {tls : Bool} {exchange : Exchange} {trace : History HttpState}
  {ops : Multiset (Side × AsyncOp)}

theorem Forwards.of_append {first second : History HttpState}
    (forwards : Forwards (first ++ second)) : Forwards first := by
  intro message asked
  refine forwards message ?_
  rw [requests_append]
  exact List.mem_append_left _ asked

/-! ### What is written is what has arrived -/

theorem SendsOn.append {first rest : History HttpState} (sendsOn : SendsOn first)
    (silent : ∀ side, writes side rest = []) : SendsOn (first ++ rest) := by
  constructor
  · rw [writes_append, silent, List.append_nil, arrivals_append]
    exact sendsOn.toRemote.trans (List.prefix_append _ _)
  · rw [writes_append, silent, List.append_nil]
    exact sendsOn.toPeer

theorem sendsOn_transcript {phase : Phase} (forwards : Forwards (phase.transcript tls)) :
    SendsOn (phase.transcript tls) := by
  cases phase with
  | handshake | request | resolving | connecting =>
      cases tls <;> exact ⟨List.nil_prefix, List.nil_prefix⟩
  | forwarding exchange other =>
      constructor
      · rw [Phase.transcript, writes_append, arrivals_append, writes_connected,
          arrivals_connected]
        exact List.prefix_refl _
      · rw [Phase.transcript, writes_append, writes_connected]
        exact List.nil_prefix
  | answering exchange connect | tunnel exchange connect transfer =>
      refine absurd connect (forwards exchange.message ?_)
      rw [requests_transcript]
      exact List.mem_singleton_self _

theorem arrivals_crossing (crossing : Crossing trace ops) :
    arrivals .server trace = writes .client trace := by
  induction crossing with
  | start => rfl
  | receive chunk _ ih | deliver size bytes _ ih =>
      rw [arrivals_append, writes_append, ih]
      rfl

/-- All that has arrived is handed to the remote. -/
theorem arrivals_crossed (crossing : Crossing trace ops) :
    arrivals .server (Transcript.forwarded tls exchange ++ trace) =
      writes .client (Transcript.forwarded tls exchange ++ trace) := by
  rw [Transcript.forwarded, arrivals_append, arrivals_append, writes_append, writes_append,
    arrivals_connected, arrivals_crossing crossing, writes_connected]
  rfl

theorem sendsOn_crossed (crossing : Crossing trace ops) :
    SendsOn (Transcript.forwarded tls exchange ++ trace) := by
  constructor
  · exact (arrivals_crossed crossing) ▸ List.prefix_refl _
  · rw [writes_append, (writes_crossing crossing).1, Transcript.forwarded, writes_append,
      writes_connected]
    exact List.nil_prefix

theorem sendsOn_rejected {message : IoBuffer} {late : History HttpState}
    (isLate : ∀ line ∈ late, IsLate line) : SendsOn (Transcript.rejected tls message late) := by
  have opening (side : Side) : writes side (Transcript.opening tls) = [] := by cases tls <;> rfl
  constructor
  · simp [Transcript.rejected, writes_append, opening, writes_late _ isLate]
  · simp [Transcript.rejected, writes_append, opening, writes_late _ isLate]

/-- Each session that sends its request on hands the remote what has arrived. -/
theorem sendsOn {world : HttpStreamManager} (reachable : Reachable world)
    {upstream : ServerStream} (accepted : world.Accepted upstream)
    (forwards : Forwards (world.conversation upstream)) :
    SendsOn (world.conversation upstream) := by
  cases conversed reachable accepted with
  | live holds =>
      rcases holds with ⟨phase, within, -⟩ | ⟨exchange, other, count, trace, crossing, -, history⟩
      · have history : world.conversation upstream = phase.transcript upstream.tls :=
          within.history
        rw [history] at forwards ⊢
        exact sendsOn_transcript forwards
      · rw [show world.conversation upstream = _ from history]
        exact sendsOn_crossed crossing
  | ended gone last stopped late grown isLate =>
      have history : world.conversation upstream = last.history ++ late := grown
      rcases stopped with ⟨phase, calls, stopped⟩ | stopped
      · obtain ⟨side, task, completion, side', ec, raised, whole⟩ | ⟨message, rejected, whole⟩ :=
          stoppedIn_cases stopped late
        · rw [history, whole] at forwards ⊢
          refine (sendsOn_transcript forwards.of_append).append fun side' => ?_
          rw [Snapshot.done, writes_completed, writes_append, writes_stopLines,
            writes_late _ isLate]
          rfl
        · rw [history, whole]
          exact sendsOn_rejected isLate
      · obtain ⟨exchange, other, trace, ops, crossing, side, op, ec, failed, whole⟩ := stopped
        rw [history, whole, List.append_assoc]
        refine (sendsOn_crossed crossing).append fun side' => ?_
        rw [List.cons_append, writes_completed, writes_append, writes_stopLines,
          writes_late _ isLate]
        rfl

theorem forwarded {world : HttpStreamManager} (reachable : Reachable world)
    {upstream : ServerStream} (accepted : world.Accepted upstream)
    (forwards : Forwards (world.conversation upstream)) :
    Forwarded (world.conversation upstream) := by
  have handed := sendsOn reachable accepted forwards
  obtain ⟨kept, sizes, inOrder⟩ := writesKept world upstream reachable accepted .client
  constructor
  · intro spaced
    exact (inOrder spaced).trans handed.toRemote
  · refine sizes.trans (le_trans ?_ (Multiset.coe_le.mpr (handed.toRemote.map _).sublist.subperm))
    rw [kept]
    exact Multiset.le_add_left _ _
  · have few : (writes .server (world.conversation upstream)).length ≤ 1 :=
      handed.toPeer.length_le
    obtain ⟨-, -, inOrder⟩ := writesKept world upstream reachable accepted .server
    exact (inOrder (spaced_of_one few)).trans handed.toPeer

/-- Nothing has failed in a session that has sent its request on. -/
theorem succeeded_crossed (crossing : Crossing trace ops) {side : Side} {op : AsyncOp}
    {ec : ErrorCode} {bytes : IoBuffer} {found : Option HttpState}
    (member : (side, .completed op ec bytes found) ∈
      Transcript.forwarded tls exchange ++ trace) : ec.isError = false := by
  rcases List.mem_append.mp member with early | late
  · cases tls <;>
      simp [Transcript.forwarded, Transcript.connected, Transcript.resolved,
        Transcript.requested, Transcript.opening] at early <;> grind [ErrorCode.isError_success]
  · obtain ⟨_, same⟩ | ⟨_, _, same⟩ | same | ⟨_, same⟩ := crossing.line_cases late
    · cases same
      rfl
    · cases same
      rfl
    · cases same
    · cases same

/-- A session that transfers data, and whose request is not CONNECT, has sent it on. -/
theorem crossed_of_forwards {world : HttpStreamManager} {key : Int32}
    {pair : SessionPair HttpState} (reachable : Reachable world)
    (present : world.sessions key = some pair)
    (relaying : pair.session.state = .dataTransferMode)
    (forwards : Forwards (world.conversation pair.server)) :
    Crossed pair.server.tls pair.server.id (world.snapshot pair.server) := by
  obtain ⟨-, -, session, -⟩ := World.entry_of_reachable reachable present
  rcases live_of_present reachable present with ⟨phase, within, -⟩ | crossed
  · have state := congrArg Session.state (Option.some.inj (session.symm.trans within.session))
    rw [relaying] at state
    rw [show world.conversation pair.server = phase.transcript pair.server.tls from
      within.history] at forwards
    cases phase with
    | tunnel exchange connect transfer =>
        refine absurd connect (forwards exchange.message ?_)
        rw [requests_transcript]
        exact List.mem_singleton_self _
    | _ => cases state
  · exact crossed

end Http

/-- An HTTP session that sends its request on gives the remote one chunk for each chunk that
    arrived, of the same size, in every state of every run; and it gives it the chunks themselves,
    in order, as long as each arrives when all before are out. The peer gets nothing or the answer
    500. While no write is under way, this is so of all that has arrived. -/
theorem http_forward_transparent {world : HttpStreamManager} (reachable : Reachable world) :
    (∀ upstream, world.Accepted upstream → Http.Forwards (world.conversation upstream) →
      Http.Forwarded (world.conversation upstream)) ∧
    ∀ key pair, world.sessions key = some pair → pair.session.state = .dataTransferMode →
      Http.Forwards (world.conversation pair.server) →
      (∀ size, .write size ∉ (world.streams (pair.stream .client)).pending) →
      let history := world.conversation pair.server
      ((sent .client history).map List.length : Multiset Nat) =
          (arrivals .server history).map List.length ∧
        (Spaced .client history → sent .client history = arrivals .server history) := by
  refine ⟨fun upstream accepted forwards => Http.forwarded reachable accepted forwards, ?_⟩
  intro key pair present relaying forwards idle
  obtain ⟨accepted, -, -, client⟩ := World.entry_of_reachable reachable present
  obtain ⟨exchange, -, count, trace, crossing, -, whole⟩ :=
    Http.crossed_of_forwards reachable present relaying forwards
  have history : world.conversation pair.server =
    Http.Transcript.forwarded pair.server.tls exchange ++ trace := whole
  have endpoint : pair.stream .client = pair.server.endpoint .client := by
    rw [SessionPair.stream, client]
    rfl
  rw [endpoint] at idle
  have out := sent_of_idle reachable accepted idle fun size ec bytes found member =>
    Http.succeeded_crossed crossing (history ▸ member)
  rw [history] at out ⊢
  rwa [← Http.arrivals_crossed crossing] at out

namespace Http.Sample

/-- A request is sent on, and then three bytes of its peer. -/
def onePiece : List IoEvent :=
  forwarding ++ [.complete (.server peer) .read (.succeeded [1, 2, 3]),
    .complete (.client peer.downstream) (.write 3) (.succeeded [])]

/-- Three bytes more come before the first three are out. -/
def twoPieces : List IoEvent :=
  forwarding ++ [.complete (.server peer) .read (.succeeded [1, 2, 3]),
    .complete (.server peer) .read (.succeeded [4, 5, 6]),
    .complete (.client peer.downstream) (.write 3) (.succeeded []),
    .complete (.client peer.downstream) (.write 3) (.succeeded [])]

end Http.Sample

/-- In the run of `Http.Sample.onePiece` the remote gets what the peer sent. -/
theorem http_forward_transparent_sample :
    Http.Forwarded ((World.play Http.Sample.onePiece).conversation Http.Sample.peer) ∧
      Spaced .client ((World.play Http.Sample.onePiece : HttpStreamManager).conversation
        Http.Sample.peer) ∧
      sent .client ((World.play Http.Sample.onePiece : HttpStreamManager).conversation
        Http.Sample.peer) = [Http.Sample.forwardRequest, [1, 2, 3]] :=
  ⟨(http_forward_transparent (World.reachable_play Http.Sample.onePiece)).1 _ (by decide)
    (by decide), by decide, by decide⟩

/-- The spacing is needed: in the run of `Http.Sample.twoPieces` three bytes are lost. -/
example :
    sent .client ((World.play Http.Sample.twoPieces : HttpStreamManager).conversation
        Http.Sample.peer) = [Http.Sample.forwardRequest, [4, 5, 6], [4, 5, 6]] := by
  decide

end AmgiNetTools
