/-
Module: AmgiNetTools.Tunnel.Chain
Layer: Tunnel
Purpose: The two programs in a row, as their default ports suggest: the remote socket of a tunnel
  session is connected to a server stream of the proxy. The connection between them is the one
  assumption: each end reads a beginning of what the other may have put on the wire. Then the row is
  transparent as a whole, at any moment of any two runs: the remote host gets a beginning of what
  the local peer sent after its negotiation, and the local peer a beginning of the proxy's replies
  and then what the remote host sent.
Main exports: Tunnel.Session.Offers, Tunnel.Linked, Tunnel.Chained, chain_transparent
-/
import AmgiNetTools.Http.Transparent
import AmgiNetTools.Socks5.Transparent
import AmgiNetTools.Tunnel.Relay

namespace AmgiNetTools

variable {μ : Type}

namespace Tunnel

/-! ### The law of the row -/

/-- Bytes read from `source` that a session may have put on the wire by now: those of the writes
    that are out, and some of the write that is under way or has failed, as its buffer has them. -/
def Session.Offers (source : Sock) (bytes : IoBuffer) (session : Session) : Prop :=
  bytes <+: (chunksDelivered source session.history).flatten ∨
    ∃ size, (.write source size ∈ session.pending ∨ session.FailedWrite source size) ∧
      bytes <+: (chunksDelivered source session.history).flatten ++
        (session.buffer source).take size

/-- A connection between the remote socket of a tunnel session and the server stream of a session of
    the proxy: what one end has read was put on the wire by the other, in this order. -/
structure Linked (session : Session) (snapshot : Snapshot μ) : Prop where
  toProxy : session.Offers .localSock (arrivals .server snapshot.history).flatten
  toTunnel : snapshot.Offers .server (chunksRead .remoteSock session.history).flatten

/-- The row from its two ends. The first `skipped` bytes of the local peer are for the proxy, which
    answers them with `replies`. -/
structure Chained (skipped : Nat) (replies : IoBuffer) (session : Session)
    (snapshot : Snapshot μ) : Prop where
  toRemote (bytes : IoBuffer) : snapshot.Offers .client bytes →
    bytes <+: (chunksRead .localSock session.history).flatten.drop skipped
  toLocal (bytes : IoBuffer) : session.Offers .remoteSock bytes →
    bytes <+: replies ++ (arrivals .client snapshot.history).flatten

/-! ### One hop after the other -/

variable {session : Session} {snapshot : Snapshot μ} {source : Sock} {bytes : IoBuffer}

/-- Whatever a tunnel session has put on the wire it has read before, in this order. -/
theorem prefix_of_offers (intact : Intact source session) (halted : Halted source session)
    (offers : session.Offers source bytes) :
    bytes <+: (chunksRead source session.history).flatten := by
  obtain ⟨inFlight, -, conserved, -, writing⟩ := intact.conserved
  rcases offers with out | ⟨size, begun, part⟩
  · rw [conserved, List.flatten_append]
    exact out.trans (List.prefix_append _ _)
  · have whole : chunksRead source session.history =
        chunksDelivered source session.history ++ [(session.buffer source).take size] := by
      rcases begun with pending | failed
      · exact writing size pending ▸ conserved
      · exact (halted size failed).whole
    rw [whole, List.flatten_append]
    simpa using part

/-- Skipping chunks skips their bytes. -/
theorem flatten_drop (chunks : List IoBuffer) (count : Nat) :
    (chunks.drop count).flatten = chunks.flatten.drop (chunks.take count).flatten.length := by
  have whole := congrArg List.flatten (List.take_append_drop count chunks)
  rw [List.flatten_append] at whole
  rw [← whole, List.drop_left]

/-- A row whose proxy passes on what arrives, after some chunks of its own. -/
theorem chained_of_linked {count : Nat} {replies : List IoBuffer} {answer : IoBuffer}
    (read : ∀ source bytes, session.Offers source bytes →
      bytes <+: (chunksRead source session.history).flatten) (posts : snapshot.Posts)
    (toRemote : writes .client snapshot.history <+: (arrivals .server snapshot.history).drop count)
    (toPeer : writes .server snapshot.history <+: replies ++ arrivals .client snapshot.history)
    (same : replies.flatten = answer) (linked : Linked session snapshot) :
    Chained ((arrivals .server snapshot.history).take count).flatten.length answer session
      snapshot where
  toRemote bytes offers := by
    have passed := (posts.prefix_of_offers offers).trans toRemote.flatten
    rw [flatten_drop] at passed
    exact passed.trans ((read .localSock _ linked.toProxy).drop _)
  toLocal bytes offers := by
    have passed := (read .remoteSock bytes offers).trans
      (posts.prefix_of_offers linked.toTunnel)
    have replied := passed.trans toPeer.flatten
    rwa [List.flatten_append, same] at replied

end Tunnel

/-- A tunnel session in front of a SOCKS5 proxy, or of an HTTP proxy that is asked for a CONNECT, is
    transparent from end to end. -/
theorem chain_transparent [Platform] {server : Tunnel.Server} (running : Tunnel.Reachable server)
    (id : Nat) :
    (∀ (world : Socks5StreamManager) (upstream : ServerStream), Reachable world →
      world.Accepted upstream → Tunnel.Linked (server.sessions id) (world.snapshot upstream) →
      let seen := arrivals .server (world.conversation upstream)
      ∃ mode code, Tunnel.Chained (seen.take 2).flatten.length
        ([Socks5.version, mode] ++ (seen.getD 1 []).set 1 code) (server.sessions id)
        (world.snapshot upstream)) ∧
    ∀ (world : HttpStreamManager) (upstream : ServerStream), Reachable world →
      world.Accepted upstream → Http.Tunnels (world.conversation upstream) →
      Tunnel.Linked (server.sessions id) (world.snapshot upstream) →
      let seen := arrivals .server (world.conversation upstream)
      ∃ answer, (answer = Http.kHttpDone ∨ answer = Http.kHttpError500) ∧
        Tunnel.Chained (seen.take 1).flatten.length answer (server.sessions id)
          (world.snapshot upstream) := by
  have ran := (Tunnel.session_reachable running).2 id
  have read (source : Tunnel.Sock) (bytes : IoBuffer) :
      (server.sessions id).Offers source bytes →
        bytes <+: (Tunnel.chunksRead source (server.sessions id).history).flatten :=
    Tunnel.prefix_of_offers (Tunnel.intact_of_stage (Tunnel.Session.stage_of_reachable ran) source)
      (Tunnel.halted_of_reachable ran source)
  constructor
  · intro world upstream reachable accepted linked
    have posts := Socks5.posts_of_reachable (World.snapshot_reachable reachable accepted)
    obtain ⟨toRemote, mode, code, toPeer⟩ := Socks5.echoes reachable accepted
    have replied : writes .server (world.conversation upstream) <+:
        [[Socks5.version, mode],
          ((arrivals .server (world.conversation upstream)).getD 1 []).set 1 code] ++
            arrivals .client (world.conversation upstream) := toPeer
    exact ⟨mode, code, Tunnel.chained_of_linked read posts toRemote replied (by simp) linked⟩
  · intro world upstream reachable accepted tunnels linked
    have posts := Http.posts_of_reachable (World.snapshot_reachable reachable accepted) tunnels
    obtain ⟨toRemote, toPeer⟩ := Http.echoes reachable accepted tunnels
    rcases toPeer with done | refused
    · have replied : writes .server (world.conversation upstream) <+:
          [Http.kHttpDone] ++ arrivals .client (world.conversation upstream) := done
      exact ⟨_, .inl rfl, Tunnel.chained_of_linked read posts toRemote replied (by simp) linked⟩
    · have replied : writes .server (world.conversation upstream) <+:
          [Http.kHttpError500] ++ arrivals .client (world.conversation upstream) :=
        refused.trans (List.prefix_append _ _)
      exact ⟨_, .inr rfl, Tunnel.chained_of_linked read posts toRemote replied (by simp) linked⟩

/-! ### A row -/

namespace Socks5.Sample

/-- The peer of a proxy that is reached over TLS. -/
def secure : ServerStream := { tls := true, conn := 0, id := 7 }

/-- A chunk of the peer has reached the remote host, and the write of an answer to it has failed. -/
def answered : List IoEvent :=
  [.accept secure,
    .complete (.server secure) .handshake (.succeeded []),
    .complete (.server secure) .read (.succeeded [5, 1, 0]),
    .complete (.server secure) (.write 2) (.succeeded []),
    .complete (.server secure) .read (.succeeded request),
    .complete (.client secure.downstream) (.resolve (ascii "127.0.0.1") (ascii "80"))
      (.succeeded []),
    .complete (.client secure.downstream) .connect (.succeeded []),
    .complete (.server secure) (.write 10) (.succeeded []),
    .complete (.server secure) .read (.succeeded [1, 2, 3]),
    .complete (.client secure.downstream) (.write 3) (.succeeded []),
    .complete (.client secure.downstream) .read (.succeeded [4, 5]),
    .complete (.server secure) (.write 2) { Completion.succeeded [] with ec := ⟨2⟩ }]

end Socks5.Sample

namespace Tunnel.Sample

/-- The local peer has sent its greeting, its request and a chunk, and has got the two replies and
    the first byte of the answer. -/
def answered : List Event :=
  connected ++
    [.complete 1 (.read .localSock) (.succeeded [5, 1, 0]),
      .complete 1 (.write .localSock 3) (.succeeded []),
      .complete 1 (.read .remoteSock) (.succeeded [5, 0]),
      .complete 1 (.write .remoteSock 2) (.succeeded []),
      .complete 1 (.read .localSock) (.succeeded Socks5.Sample.request),
      .complete 1 (.write .localSock 10) (.succeeded []),
      .complete 1 (.read .remoteSock) (.succeeded (Socks5.Sample.request.set 1 0)),
      .complete 1 (.write .remoteSock 10) (.succeeded []),
      .complete 1 (.read .localSock) (.succeeded [1, 2, 3]),
      .complete 1 (.write .localSock 3) (.succeeded []),
      .complete 1 (.read .remoteSock) (.succeeded [4]),
      .complete 1 (.write .remoteSock 1) (.succeeded [])]

end Tunnel.Sample

section

attribute [local instance] Socks5.Sample.platform

/-- The tunnel of `Tunnel.Sample.answered` is in front of the proxy of `Socks5.Sample.answered`. -/
theorem answered_linked :
    Tunnel.Linked
      ((Tunnel.Server.play (ascii "h") (ascii "443") Tunnel.Sample.answered).sessions 1)
      ((World.play Socks5.Sample.answered : Socks5StreamManager).snapshot
        Socks5.Sample.secure) where
  toProxy := .inl (by decide)
  toTunnel := .inr ⟨2, .inr ⟨⟨2⟩, [], some .dataTransferMode, rfl, by decide⟩, by decide⟩

/-- A chunk of the local peer has reached the remote host, and the beginning of an answer the local
    peer, past a write that failed. -/
theorem chain_transparent_sample :
    let session := (Tunnel.Server.play (ascii "h") (ascii "443") Tunnel.Sample.answered).sessions 1
    let world : Socks5StreamManager := World.play Socks5.Sample.answered
    sent .client (world.conversation Socks5.Sample.secure) = [[1, 2, 3]] ∧
      Tunnel.chunksDelivered .remoteSock session.history =
        [[5, 0], Socks5.Sample.request.set 1 0, [4]] ∧
      ∃ mode code, Tunnel.Chained 13
        ([Socks5.version, mode] ++ Socks5.Sample.request.set 1 code) session
        (world.snapshot Socks5.Sample.secure) :=
  ⟨by decide, by decide,
    (chain_transparent (Tunnel.Server.reachable_play _ _ _) 1).1 _ _ (World.reachable_play _)
      (by decide) answered_linked⟩

end

end AmgiNetTools
