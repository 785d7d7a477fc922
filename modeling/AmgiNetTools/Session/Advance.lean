/-
Module: AmgiNetTools.Session.Advance
Layer: Session
Purpose: One turn of the event loop, as one session sees it: it begins the session, it completes an
  operation of one of its two streams, or it is about another session. A turn only adds to the
  history.
Main exports: Snapshot.complete_cases, World.Advance, World.advance_of_accepted,
  World.conversation_grows
-/
import AmgiNetTools.Session.Tasks

namespace AmgiNetTools

variable {μ : Type} [ReactiveState μ]

/-- The two ways a completion can go for a session. -/
theorem Snapshot.complete_cases {snapshot next : Snapshot μ} {tls : Bool} {side : Side}
    {op : AsyncOp}
    {completion : Completion} (finished : snapshot.complete tls side op completion = .ok next) :
    (((side.upshot op completion).event = none ∨ snapshot.session = none) ∧
      next.history = snapshot.history ++ [(side, snapshot.completed side op completion)]) ∨
    ∃ event session outcome, (side.upshot op completion).event = some event ∧
      snapshot.session = some session ∧ ReactiveState.reaction session event = .ok outcome ∧
      next.history = snapshot.history ++ (side, snapshot.completed side op completion) ::
        outcome.calls.map fun call => (call.1, .called call.2) := by
  have alive : (snapshot.retire side op completion).session = snapshot.session := rfl
  rw [complete, apply, alive] at finished
  split at finished
  · next event session raised present =>
      cases computed : ReactiveState.reaction session event with
      | error fault => simp [computed, Except.map] at finished
      | ok outcome =>
          simp only [computed, Except.map, Except.ok.injEq] at finished
          refine .inr ⟨event, session, outcome, raised, present, computed, ?_⟩
          rw [← finished, modifyStream, react, history_invokes, retire, List.append_assoc]
          rfl
  · next idle =>
      cases finished
      refine .inl ⟨?_, rfl⟩
      cases raised : (side.upshot op completion).event with
      | none => exact .inl rfl
      | some event =>
          cases present : snapshot.session with
          | none => exact .inr rfl
          | some session => exact absurd present (idle event session raised)

namespace World

/-- What a turn is for the session that `upstream` began. -/
inductive Advance (upstream : ServerStream) (event : IoEvent) (world next : World μ) : Prop where
  | begins (same : event = .accept upstream)
      (fresh : next.snapshot upstream = .accepted upstream.tls upstream.id)
  | completes (side : Side) (op : AsyncOp) (completion : Completion)
      (same : event = .complete (upstream.endpoint side) op completion)
      (known : world.Accepted upstream)
      (pending : op ∈ ((world.snapshot upstream).streams side).pending)
      (finished : (world.snapshot upstream).complete upstream.tls side op completion =
        .ok (next.snapshot upstream))
  | idles (known : world.Accepted upstream)
      (same : next.snapshot upstream = world.snapshot upstream)
      (elsewhere : ∀ side op completion, event ≠ .complete (upstream.endpoint side) op completion)

variable {upstream : ServerStream} {world next : World μ}

omit [ReactiveState μ] in
theorem accepted_of_restrict_eq (same : next.restrict upstream.id = world.restrict upstream.id)
    (accepted : next.Accepted upstream) : world.Accepted upstream := by
  have filtered := congrArg
    (⟨.server upstream, .called .start⟩ ∈ ·) (history_eq_of_restrict_eq same)
  simp only [List.mem_filter, eq_iff_iff] at filtered
  exact (filtered.mp ⟨accepted, by simp⟩).1

/-- A turn that is about another id. -/
theorem Advance.of_restrict_eq {event : IoEvent} (accepted : next.Accepted upstream)
    (same : next.restrict upstream.id = world.restrict upstream.id)
    (elsewhere : ∀ side op completion, event ≠ .complete (upstream.endpoint side) op completion) :
    Advance upstream event world next :=
  .idles (accepted_of_restrict_eq same accepted) (snapshot_eq_of_restrict_eq same) elsewhere

theorem advance_accept {upstream' : ServerStream} (reachable : Reachable world)
    (enabled : (IoEvent.accept upstream').Enabled world)
    (accepted : (world.accept upstream').Accepted upstream) :
    Advance upstream (.accept upstream') world (world.accept upstream') := by
  by_cases mine : upstream'.id = upstream.id
  · cases located_of_reachable reachable upstream'.id with
    | used earlier sameId known => exact absurd sameId (enabled _ known)
    | unused absent idle silent =>
        have same : upstream' = upstream := by
          rw [accept_eq absent, Accepted, invoke] at accepted
          rcases List.mem_append.mp accepted with old | new
          · exact absurd mine.symm (enabled _ old)
          · cases List.mem_singleton.mp new
            rfl
        subst same
        refine .begins rfl (snapshot_accept absent ?_ ?_)
        · exact fun side => idle _ (upstream'.id_endpoint side)
        · intro record member
          cases found : upstream'.sideOf record.stream with
          | none => rfl
          | some side =>
              refine absurd ?_ (silent record member)
              rw [(upstream'.sideOf_eq_some side).mp found, ServerStream.id_endpoint]
  · exact .of_restrict_eq accepted (restrict_accept_other mine) (by simp)

theorem advance_finish {stream : Stream} {op : AsyncOp} {completion : Completion}
    (reachable : Reachable world) (outstanding : op ∈ (world.streams stream).pending)
    (done : world.finish stream op completion = .ok next) (accepted : next.Accepted upstream) :
    Advance upstream (.complete stream op completion) world next := by
  by_cases mine : stream.id = upstream.id
  · cases located_of_reachable reachable stream.id with
    | unused absent idle silent =>
        rw [idle stream rfl] at outstanding
        exact absurd outstanding (Multiset.notMem_zero op)
    | used upstream' sameId known entry alone idle silent =>
        cases found : upstream'.sideOf stream with
        | none =>
            rw [idle stream rfl found] at outstanding
            exact absurd outstanding (Multiset.notMem_zero op)
        | some side =>
            rw [upstream'.sideOf_eq_some side] at found
            subst found
            have same : upstream' = upstream := by
              obtain ⟨lines, history, about⟩ := history_finish entry done
              rw [Accepted, history, List.mem_append] at accepted
              refine upstream.eq_of_isSome_sideOf (accepted.elim (fun old => ?_) (about _))
              exact silent _ old mine.symm
            subst same
            exact .completes side op completion rfl known outstanding (snapshot_finish entry done)
  · refine .of_restrict_eq accepted
      (restrict_finish_other (coherent_of_reachable reachable) done mine) ?_
    rintro side op' completion' same
    cases same
    exact mine (upstream.id_endpoint side)

/-- Every turn is one of the three for every session there is after it. -/
theorem advance_of_accepted {event : IoEvent} (reachable : Reachable world)
    (enabled : event.Enabled world) (done : event.perform.run world = .ok ((), next))
    (accepted : next.Accepted upstream) : Advance upstream event world next := by
  cases event with
  | accept upstream' =>
      rw [perform_accept] at done
      cases done
      exact advance_accept reachable enabled accepted
  | complete stream op completion =>
      have finished := finish_of_perform (coherent_of_reachable reachable) done
      exact advance_finish reachable enabled.1 finished accepted

/-- A turn adds to the history and takes nothing away. -/
theorem history_grows {event : IoEvent} (reachable : Reachable world)
    (done : event.perform.run world = .ok ((), next)) : world.history <+: next.history := by
  cases event with
  | accept upstream =>
      rw [perform_accept] at done
      cases done
      unfold accept insert
      split <;> exact List.prefix_append ..
  | complete stream op completion =>
      have finished := finish_of_perform (coherent_of_reachable reachable) done
      obtain ⟨-, rfl⟩ | ⟨event, pair, outcome, -, -, -, rfl⟩ := apply_cases finished
      · exact List.prefix_append ..
      · have earlier : world.history <+: (world.retire stream op completion).history :=
          List.prefix_append ..
        refine earlier.trans ?_
        rw [modifyStream, react, history_invokeAll]
        exact List.prefix_append ..

theorem accepted_grows {event : IoEvent} (reachable : Reachable world)
    (done : event.perform.run world = .ok ((), next)) (accepted : world.Accepted upstream) :
    next.Accepted upstream :=
  (history_grows reachable done).subset accepted

theorem conversation_grows {event : IoEvent} (reachable : Reachable world)
    (done : event.perform.run world = .ok ((), next)) :
    world.conversation upstream <+: next.conversation upstream :=
  (history_grows reachable done).filterMap upstream.line

/-- The entry of an id is that of the stream that was accepted with it. -/
theorem server_of_present {pair : SessionPair μ} (reachable : Reachable world)
    (accepted : world.Accepted upstream) (present : world.sessions upstream.id = some pair) :
    pair.server = upstream := by
  cases located_of_reachable reachable upstream.id with
  | unused absent => simp [absent] at present
  | used upstream' sameId known entry alone idle silent =>
      rw [entry pair (sameId ▸ present)]
      exact upstream.eq_of_isSome_sideOf (silent _ accepted rfl)

/-- The operations outstanding under an id are on the streams of its session. -/
theorem endpoint_of_pending {stream : Stream} {op : AsyncOp} {pair : SessionPair μ}
    (reachable : Reachable world) (present : world.sessions stream.id = some pair)
    (pending : op ∈ (world.streams stream).pending) :
    ∃ side, stream = pair.server.endpoint side := by
  cases located_of_reachable reachable stream.id with
  | unused absent => simp [absent] at present
  | used upstream sameId known entry alone idle =>
      cases found : upstream.sideOf stream with
      | none =>
          rw [idle stream rfl found] at pending
          exact absurd pending (Multiset.notMem_zero op)
      | some side =>
          rw [entry pair (sameId ▸ present)]
          exact ⟨side, (upstream.sideOf_eq_some side).mp found⟩

end World

end AmgiNetTools
