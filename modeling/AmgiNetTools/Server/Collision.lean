/-
Module: AmgiNetTools.Server.Collision
Layer: Server
Purpose: When ids tell the streams of a server apart: in a run in which none is alive 2^32 streams
  later, always, and after the first turn in which one is, no more. A tunnel that stays open that
  long gets the bytes of a stranger.
Main exports: stream_ids_distinct, stream_id_reused
-/
import AmgiNetTools.Server.Ids
import AmgiNetTools.Http.Tunnel

namespace AmgiNetTools

/-- In a run of a server of either kind whose turns meet the condition, ids tell its streams apart;
    and the next turn that does not meet the condition ends that. -/
theorem stream_ids_distinct {μ : Type} [ReactiveState μ] {tls : Bool} {server : Server μ}
    (within : Server.ReachableWhile Server.NoneOutlived tls server) :
    server.Distinct ∧
      ∀ (event : ServerEvent) (server' : Server μ), event.Enabled server →
        event.perform server = .ok server' →
        (server'.Distinct ↔ server.NoneOutlived event) := by
  have sound := Server.sound_of_reachable within
  refine ⟨sound.distinct, fun event server' enabled done => ⟨?_, ?_⟩⟩
  · intro distinct
    exact sound.young_of_distinct enabled done distinct
  · intro young
    exact (sound.perform enabled young done).distinct

/-! ### A tunnel that outlives a lap

On a plain TCP server, the first peer gets a tunnel. All accepts fail from then on, until the
counter has come round, and then a second peer connects. -/

namespace Server

variable {μ : Type} [SessionState μ] {server : Server μ} {tls : Bool}

/-- The server after so many more accepts that failed. -/
def afterFailures (count : Nat) (server : Server μ) : Server μ :=
  { server with
    streamId := server.streamId + Int32.ofNat count
    made := server.made + count
    accepting := some
      { tls := server.tls
        conn := server.made + count
        id := server.streamId + Int32.ofNat count } }

theorem reachable_afterFailures (reachable : Reachable tls server)
    (running : server.stopped = false ∧ server.isOpen = true)
    (accepting : server.accepting = some
      { tls := server.tls, conn := server.made, id := server.streamId }) (count : Nat) :
    Reachable tls (server.afterFailures count) := by
  induction count with
  | zero =>
      have same : server.afterFailures 0 = server := by
        cases server
        simp_all [afterFailures]
      rw [same]
      exact reachable
  | succ count ih =>
      have enabled : (ServerEvent.accepted ⟨1⟩).Enabled (server.afterFailures count) :=
        ⟨running.1, by simp [afterFailures]⟩
      refine ih.step enabled trivial ?_
      simp [ServerEvent.perform, afterFailures, onAccepted, running.2, startAccept,
        ErrorCode.isError, Nat.add_assoc, Int32.add_assoc]

namespace Sample

def peer : ServerStream := { tls := false, conn := 1, id := 1 }

/-- The first peer has its tunnel. -/
def tunnelling : Server HttpState :=
  (create false).play
    [.accepted .success,
      .complete (.server peer) .read (.succeeded Http.Sample.tunnelRequest),
      .complete (.client peer.downstream) (.resolve (ascii "h") (ascii "80")) (.succeeded []),
      .complete (.client peer.downstream) .connect (.succeeded []),
      .complete (.server peer) (.write Http.kHttpDone.length) (.succeeded [])]

/-- The second peer has the id of the first. -/
def stranger : ServerStream := { tls := false, conn := 2 ^ 32 + 1, id := 1 }

/-- The stream that the second peer will get has been made. -/
def reused : Server HttpState := tunnelling.afterFailures (2 ^ 32 - 1)

/-- The second peer connects and sends three bytes. -/
def leaking : Server HttpState :=
  reused.play [.accepted .success, .complete (.server stranger) .read (.succeeded [1, 2, 3])]

theorem reachable_reused : Reachable false reused := by
  refine reachable_afterFailures (Reachable.play .start _) ⟨by decide, by decide⟩ ?_ _
  decide

/-- The first two streams of a server. -/
theorem within_first : ReachableWhile NoneOutlived false
    (((create false : Server HttpState).turn (.accepted .success)).turn (.accepted .success)) := by
  refine .turn (.turn .start (young_of_made ?_)) (young_of_made ?_)
  · decide
  · decide

end Sample

end Server

/-- The server with two streams still tells them apart. -/
theorem stream_ids_distinct_sample :
    (((Server.create false : Server HttpState).turn (.accepted .success)).turn
      (.accepted .success)).Distinct :=
  (stream_ids_distinct Server.Sample.within_first).1

/-- The tunnel of the first peer is there, under the id of the second peer. That peer gets no entry
    of its own, and what it sends goes into the tunnel. -/
theorem stream_id_reused :
    Server.Reachable false Server.Sample.leaking ∧
      Server.Sample.reused.accepting = some Server.Sample.stranger ∧
      (Server.Sample.reused.world.sessions Server.Sample.stranger.id).map SessionPair.server =
        some Server.Sample.peer ∧
      ¬ Server.Sample.reused.Distinct ∧
      (Server.Sample.leaking.world.sessions Server.Sample.stranger.id).map SessionPair.server =
        some Server.Sample.peer ∧
      ⟨.client Server.Sample.peer.downstream, .called (.write [1, 2, 3])⟩ ∈
        Server.Sample.leaking.world.history := by
  refine ⟨Server.Sample.reachable_reused.play _, by decide, by decide, ?_, by decide, by decide⟩
  intro distinct
  have absent := (distinct.inserts Server.Sample.stranger (by decide)).1
  have present : (Server.Sample.reused.world.sessions Server.Sample.stranger.id).map
      SessionPair.server = some Server.Sample.peer := by
    decide
  rw [absent] at present
  cases present

end AmgiNetTools
