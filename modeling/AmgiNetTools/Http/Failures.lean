/-
Module: AmgiNetTools.Http.Failures
Layer: Http
Purpose: The sessions that the proxy itself gives up: their request is no good, or the remote cannot
  be reached. Of the first the peer is sent an error, but the stream is stopped right after the
  write was started; of the second it is sent nothing.
Main exports: Http.Failure, Http.AnsweredFirst, http_failure_not_answered
-/
import AmgiNetTools.Http.Order

namespace AmgiNetTools

namespace Http

/-- What makes the proxy give a session up: a buffer that names no usable address, or a resolve or a
    connect that failed. -/
inductive Failure : Side × Happening HttpState → Prop where
  | rejected (message : IoBuffer) (unusable : target message = .ok none) :
      Failure (.server, .completed .read .success message (some .waitRequest))
  | unresolved (host service : Text) (ec : ErrorCode) (bytes : IoBuffer)
      (failed : ec.isError = true) :
      Failure (.client, .completed (.resolve host service) ec bytes (some .connectionEstablished))
  | unconnected (ec : ErrorCode) (bytes : IoBuffer) (failed : ec.isError = true) :
      Failure (.client, .completed .connect ec bytes (some .connectionEstablished))

/-- The peer was answered before its stream was stopped: one error reply was written, and whenever
    the stream is stopped, the write of the reply has completed or failed. -/
structure AnsweredFirst (history : History HttpState) : Prop where
  once : (writes .server history).count kHttpError500 = 1
  before_stop : Always (fun past line => line = (.server, .called .stop) → ∃ ec bytes found,
    (.server, .completed (.write kHttpError500.length) ec bytes found) ∈ past) history

/-! ### No failure before the end -/

variable {tls : Bool} {exchange : Exchange} {line : Side × Happening HttpState}

/-- Calls are not failures. -/
theorem not_failure_called {side : Side} {call : StreamCall} :
    ¬ Failure (side, .called call) := by
  intro failure
  cases failure

/-- What succeeds is a failure only if it is the read of a message that is no good. -/
theorem not_failure_success {side : Side} {op : AsyncOp} {bytes : IoBuffer}
    {found : Option HttpState} (read : op ≠ .read) :
    ¬ Failure (side, .completed op .success bytes found) := by
  intro failure
  cases failure with
  | rejected => exact read rfl
  | unresolved host service ec bytes failed => cases failed
  | unconnected ec bytes failed => cases failed

theorem not_failure_requested (member : line ∈ Transcript.requested tls exchange) :
    ¬ Failure line := by
  rw [Transcript.requested, List.mem_append] at member
  rcases member with opening | request
  · cases tls with
    | false =>
        cases List.mem_singleton.mp opening
        exact not_failure_called
    | true =>
        simp only [Transcript.opening, if_true, List.mem_cons, List.not_mem_nil, or_false]
          at opening
        rcases opening with rfl | rfl
        · exact not_failure_called
        · exact not_failure_success (by simp)
  · simp only [List.mem_cons, List.not_mem_nil, or_false] at request
    rcases request with rfl | rfl | rfl | rfl
    · intro failure
      cases failure with
      | rejected _ unusable => cases exchange.decoded.symm.trans unusable
    · exact not_failure_called
    · exact not_failure_called
    · exact not_failure_called

theorem not_failure_connected (member : line ∈ Transcript.connected tls exchange) :
    ¬ Failure line := by
  rw [Transcript.connected, Transcript.resolved, List.mem_append, List.mem_append] at member
  rcases member with (requested | resolved) | connected
  · exact not_failure_requested requested
  · cases List.mem_singleton.mp resolved
    exact not_failure_success (by simp)
  · cases List.mem_singleton.mp connected
    exact not_failure_success (by simp)

/-- Data transfer knows no failures of this kind. -/
theorem not_failure_transfer {side : Side} {op : AsyncOp} {ec : ErrorCode} {bytes : IoBuffer} :
    ¬ Failure (side, .completed op ec bytes (some .dataTransferMode)) := by
  intro failure
  cases failure

theorem not_failure_late (late : IsLate line) : ¬ Failure line := by
  obtain ⟨side, op, ec, bytes, rfl⟩ := late
  intro failure
  cases failure

theorem not_failure_forwarded (member : line ∈ Transcript.forwarded tls exchange) :
    ¬ Failure line := by
  rw [Transcript.forwarded, List.mem_append] at member
  rcases member with connected | forwarded
  · exact not_failure_connected connected
  · simp only [List.mem_cons, List.not_mem_nil, or_false] at forwarded
    rcases forwarded with rfl | rfl | rfl | rfl
    · exact not_failure_called
    · exact not_failure_success (by simp)
    · exact not_failure_called
    · exact not_failure_called

theorem not_failure_crossing {trace : History HttpState} {ops : Multiset (Side × AsyncOp)}
    (crossing : Crossing trace ops) (member : line ∈ trace) : ¬ Failure line := by
  obtain ⟨_, rfl⟩ | ⟨_, _, rfl⟩ | rfl | ⟨_, rfl⟩ := crossing.line_cases member
  · exact not_failure_transfer
  · exact not_failure_transfer
  · exact not_failure_called
  · exact not_failure_called

/-- As long as a session runs, it has not been given up. -/
theorem not_failure_transcript {phase : Phase} (member : line ∈ phase.transcript tls) :
    ¬ Failure line := by
  cases phase with
  | handshake =>
      cases List.mem_singleton.mp member
      exact not_failure_called
  | request =>
      cases tls with
      | false =>
          cases List.mem_singleton.mp member
          exact not_failure_called
      | true =>
          simp only [Phase.transcript, Transcript.opening, if_true, List.mem_cons,
            List.not_mem_nil, or_false] at member
          rcases member with rfl | rfl
          · exact not_failure_called
          · exact not_failure_success (by simp)
  | resolving exchange => exact not_failure_requested member
  | connecting exchange =>
      have early : line ∈ Transcript.connected tls exchange := by
        rw [Transcript.connected]
        exact List.mem_append_left _ member
      exact not_failure_connected early
  | answering exchange tunnels | forwarding exchange forwards =>
      rcases List.mem_append.mp member with connected | called
      · exact not_failure_connected connected
      · cases List.mem_singleton.mp called
        exact not_failure_called
  | tunnel exchange tunnels transfer =>
      rw [Phase.transcript, Transcript.established, List.mem_append, List.mem_append] at member
      rcases member with (connected | established) | transferred
      · exact not_failure_connected connected
      · simp only [List.mem_cons, List.not_mem_nil, or_false] at established
        rcases established with rfl | rfl | rfl | rfl
        · exact not_failure_called
        · exact not_failure_success (by simp)
        · exact not_failure_called
        · exact not_failure_called
      · obtain ⟨_, _, _, rfl⟩ | ⟨_, rfl⟩ | ⟨_, _, rfl⟩ := transfer.line_cases transferred
        · exact not_failure_transfer
        · exact not_failure_called
        · exact not_failure_called

/-! ### After a failure -/

/-- A failure of the remote leaves a conversation in which the peer was written nothing. -/
theorem not_answered_of_silent {history : History HttpState}
    (silent : writes .server history = []) :
    ¬ AnsweredFirst history := by
  intro answered
  have once := answered.once
  rw [silent] at once
  cases once

/-- A rejected request has its reply started, and the stream stopped with the write outstanding. -/
theorem not_answered_of_rejected {late : History HttpState} (message : IoBuffer) :
    ¬ AnsweredFirst (Transcript.rejected tls message late) := by
  intro answered
  obtain ⟨ec, bytes, found, member⟩ := answered.before_stop
    (Transcript.opening tls ++
      [(.server, .completed .read .success message (some .waitRequest)),
        (.server, .called (.write kHttpError500)), (.client, .called .stop)])
    (.server, .called .stop) late (by simp [Transcript.rejected, stopLines]) rfl
  rcases List.mem_append.mp member with opening | stopped
  · cases tls <;> simp [Transcript.opening] at opening
  · simp at stopped

/-- A session that is stopped by an error while its remote is being connected is silent. -/
theorem silent_of_failure {phase : Phase} {side : Side} {task : Task} {completion : Completion}
    {ec : ErrorCode} {side' : Side} {late : History HttpState}
    (isLate : ∀ line ∈ late, IsLate line)
    (raised : side.upshot task.op completion = .report (side'.errorEvent ec))
    (failure : Failure (Snapshot.done side task completion (some phase.state))) :
    writes .server (phase.transcript tls ++
      Snapshot.done side task completion (some phase.state) :: (stopLines ++ late)) = [] := by
  have quiet : ∀ line ∈ Snapshot.done side task completion (some phase.state) ::
      (stopLines ++ late), Quiet line :=
    List.forall_mem_cons.mpr ⟨quiet_done raised, quiet_stopped isLate⟩
  have early : phase.state = .connectionEstablished := by
    generalize done : Snapshot.done side task completion (some phase.state) = line at failure
    cases failure with
    | rejected message unusable => exact absurd done ((quiet_done raised).reads message _)
    | unresolved host service ec bytes failed =>
        simp only [Snapshot.done, Prod.mk.injEq, Happening.completed.injEq, Option.some.injEq]
          at done
        exact done.2.2.2.2
    | unconnected ec bytes failed =>
        simp only [Snapshot.done, Prod.mk.injEq, Happening.completed.injEq, Option.some.injEq]
          at done
        exact done.2.2.2.2
  rw [writes_append, writes_quiet quiet, List.append_nil]
  cases phase with
  | resolving exchange => exact writes_requested .server
  | connecting exchange =>
      rw [Phase.transcript, Transcript.resolved, writes_append, writes_requested]
      rfl
  | _ => cases early

/-- A session that was stopped in a phase, some late completions ago. -/
theorem not_answered_stoppedIn {id : Int32} {phase : Phase} {calls : List Request}
    {last : Snapshot HttpState} {late : History HttpState}
    (stopped : script.StoppedIn tls id phase calls last) (isLate : ∀ line ∈ late, IsLate line)
    (failed : ∃ line ∈ last.history ++ late, Failure line) :
    ¬ AnsweredFirst (last.history ++ late) := by
  obtain ⟨side, task, completion, side', ec, raised, whole⟩ | ⟨message, -, whole⟩ :=
    stoppedIn_cases stopped late
  · rw [whole] at failed ⊢
    obtain ⟨line, among, failure⟩ := failed
    rcases List.mem_append.mp among with before | after
    · exact absurd failure (not_failure_transcript before)
    · rcases List.mem_cons.mp after with rfl | after
      · exact not_answered_of_silent (silent_of_failure isLate raised failure)
      · rcases List.mem_append.mp after with stop | late
        · simp only [stopLines, List.mem_cons, List.not_mem_nil, or_false] at stop
          rcases stop with rfl | rfl <;> exact absurd failure not_failure_called
        · exact absurd failure (not_failure_late (isLate line late))
  · rw [whole]
    exact not_answered_of_rejected message

/-- A session that had sent its request on has not been given up. -/
theorem not_failure_crossedStop {last : Snapshot HttpState} {late : History HttpState}
    (stopped : CrossedStop tls last) (isLate : ∀ line ∈ late, IsLate line) :
    ∀ line ∈ last.history ++ late, ¬ Failure line := by
  obtain ⟨exchange, forwards, trace, ops, crossing, side, op, ec, failed, history⟩ := stopped
  rw [history]
  intro line member
  rcases List.mem_append.mp member with before | after
  · rcases List.mem_append.mp before with before | stop
    · rcases List.mem_append.mp before with forwarded | crossed
      · exact not_failure_forwarded forwarded
      · exact not_failure_crossing crossing crossed
    · simp only [stopLines, List.mem_cons, List.not_mem_nil, or_false] at stop
      rcases stop with rfl | rfl | rfl
      · exact not_failure_transfer
      · exact not_failure_called
      · exact not_failure_called
  · exact not_failure_late (isLate line after)

end Http

/-- In every run of an HTTP server, a session that the proxy gave up, because its request was no
    good or because the remote could not be resolved or connected, was not answered before its
    stream was stopped. -/
theorem http_failure_not_answered {world : HttpStreamManager} (reachable : Reachable world)
    {upstream : ServerStream} (accepted : world.Accepted upstream)
    (failed : ∃ line ∈ world.conversation upstream, Http.Failure line) :
    ¬ Http.AnsweredFirst (world.conversation upstream) := by
  cases Http.conversed reachable accepted with
  | live holds =>
      obtain ⟨line, member, failure⟩ := failed
      refine absurd failure ?_
      rcases holds with ⟨phase, within, -⟩ | crossed
      · rw [show world.conversation upstream = _ from within.history] at member
        exact Http.not_failure_transcript member
      · obtain ⟨exchange, forwards, count, trace, crossing, session, history⟩ := crossed
        rw [show world.conversation upstream = _ from history, List.mem_append] at member
        rcases member with forwarded | crossed
        · exact Http.not_failure_forwarded forwarded
        · exact Http.not_failure_crossing crossing crossed
  | ended gone last stopped late grown isLate =>
      rw [show world.conversation upstream = last.history ++ late from grown] at failed ⊢
      rcases stopped with ⟨phase, calls, stopped⟩ | stopped
      · exact Http.not_answered_stoppedIn stopped isLate failed
      · obtain ⟨line, member, failure⟩ := failed
        exact absurd failure (Http.not_failure_crossedStop stopped isLate line member)

/-! ### The two ways to fail -/

namespace Http.Sample

/-- Not a request. -/
def garbage : IoBuffer := ascii "hello\r\n\r\n"

/-- The peer sends something that is no request. -/
def rejecting : List IoEvent :=
  [.accept peer, .complete (.server peer) .read (.succeeded garbage)]

/-- The host of the request is not found. -/
def unresolving : List IoEvent :=
  [.accept peer,
    .complete (.server peer) .read (.succeeded tunnelRequest),
    .complete (.client peer.downstream) (.resolve (ascii "h") (ascii "80")) ⟨⟨1⟩, ⟨[], fun _ => 0⟩⟩]

end Http.Sample

theorem http_failure_not_answered_sample :
    ¬ Http.AnsweredFirst ((World.play Http.Sample.unresolving : HttpStreamManager).conversation
      Http.Sample.peer) :=
  http_failure_not_answered (World.reachable_play Http.Sample.unresolving) (by decide)
    ⟨_, by decide, .unresolved (ascii "h") (ascii "80") ⟨1⟩ [] rfl⟩

/-- After `Http.Sample.rejecting`, the error reply is being written to a stream that is stopped;
    after `Http.Sample.unresolving`, nothing was written to it. -/
theorem http_stop_overtakes_reply :
    (Http.target Http.Sample.garbage = .ok none ∧
      (World.play Http.Sample.rejecting : HttpStreamManager).conversation Http.Sample.peer =
        [(.server, .called .start),
          (.server, .completed .read .success Http.Sample.garbage (some .waitRequest)),
          (.server, .called (.write Http.kHttpError500)),
          (.client, .called .stop),
          (.server, .called .stop)] ∧
      .write Http.kHttpError500.length ∈
        ((World.play Http.Sample.rejecting : HttpStreamManager).streams
          (.server Http.Sample.peer)).pending ∧
      ¬ Http.AnsweredFirst ((World.play Http.Sample.rejecting : HttpStreamManager).conversation
        Http.Sample.peer)) ∧
    (writes .server ((World.play Http.Sample.unresolving : HttpStreamManager).conversation
        Http.Sample.peer) = [] ∧
      ¬ Http.AnsweredFirst ((World.play Http.Sample.unresolving : HttpStreamManager).conversation
        Http.Sample.peer)) := by
  have history : (World.play Http.Sample.rejecting : HttpStreamManager).conversation
      Http.Sample.peer = Http.Transcript.rejected false Http.Sample.garbage [] := by
    decide
  have silent : writes .server ((World.play Http.Sample.unresolving :
      HttpStreamManager).conversation Http.Sample.peer) = [] := by
    decide
  refine ⟨⟨by decide, history, by decide, ?_⟩, silent, Http.not_answered_of_silent silent⟩
  rw [history]
  exact Http.not_answered_of_rejected Http.Sample.garbage

end AmgiNetTools
