/-
Module: AmgiNetTools.Session.Compose
Layer: Session
Purpose: The sessions of a server together. They share the map and nothing else, so what a server
  comes to is any choice of what its sessions come to by themselves, and the ids of the streams are
  all that may stand in the way.
Main exports: World.eq_of_id, World.exists_composed, proxy_sessions_compose
-/
import Mathlib.Data.Finset.Dedup
import AmgiNetTools.Session.Realize

namespace AmgiNetTools

namespace World

variable {μ : Type} [ReactiveState μ] {upstream other : ServerStream} {world next : World μ}

/-- Streams that were accepted have ids of their own. -/
theorem eq_of_id (reachable : Reachable world) (accepted : world.Accepted upstream)
    (accepted' : world.Accepted other) (same : other.id = upstream.id) : other = upstream := by
  cases located_of_reachable reachable upstream.id with
  | unused _ _ silent => exact absurd rfl (silent _ accepted)
  | used first mine _ _ _ _ silent =>
      have here := upstream.eq_of_isSome_sideOf (silent _ accepted rfl)
      have there := other.eq_of_isSome_sideOf (silent _ accepted' same)
      exact there.symm.trans here

omit [ReactiveState μ] in
/-- The lines about an id are in the part of the world that the id has. -/
theorem mem_history_congr {id : Int32} {record : Record μ}
    (same : next.restrict id = world.restrict id) (mine : record.stream.id = id) :
    record ∈ next.history ↔ record ∈ world.history := by
  have filtered := congrArg (record ∈ ·) (history_eq_of_restrict_eq same)
  simpa [List.mem_filter, mine] using filtered

omit [ReactiveState μ] in
theorem accepted_congr (same : next.restrict upstream.id = world.restrict upstream.id) :
    next.Accepted upstream ↔ world.Accepted upstream :=
  mem_history_congr same rfl

/-- Nothing has happened under an id. -/
def Silent (world : World μ) (id : Int32) : Prop := ∀ record ∈ world.history, record.stream.id ≠ id

/-- Sessions come together to what each comes to by itself. -/
theorem exists_composed {upstreams : Finset ServerStream} {snapshots : ServerStream → Snapshot μ}
    (distinct : Set.InjOn ServerStream.id upstreams)
    (alone : ∀ upstream ∈ upstreams,
      Snapshot.Reachable upstream.tls upstream.id (snapshots upstream)) :
    ∃ world : World μ,
      (Reachable world ∧ ∀ upstream, world.Accepted upstream → upstream ∈ upstreams) ∧
      ∀ upstream ∈ upstreams.toList,
        world.Accepted upstream ∧ world.snapshot upstream = snapshots upstream := by
  refine @Runs.assemble (World μ) ServerStream _ (fun upstream world => world.Silent upstream.id)
    _ _ upstreams.nodup_toList ?_ empty ?_ ?_
  · intro upstream member world reach silent
    rw [Finset.mem_toList] at member
    obtain ⟨reachable, known⟩ := reach
    obtain ⟨next, reachable', accepted, same, elsewhere⟩ :=
      extend_of_snapshot reachable silent (alone upstream member)
    refine ⟨next, ⟨reachable', ?_⟩, ⟨accepted, same⟩, ?_⟩
    · intro other accepted'
      by_cases shared : other.id = upstream.id
      · rw [eq_of_id reachable' accepted accepted' shared]
        exact member
      · exact known other ((accepted_congr (elsewhere _ shared)).mp accepted')
    · intro other member' apart
      rw [Finset.mem_toList] at member'
      have apart' : other.id ≠ upstream.id := fun shared => apart (distinct member' member shared)
      have kept := elsewhere other.id apart'
      constructor
      · intro silent' record recorded mine
        exact silent' record ((mem_history_congr kept mine).mp recorded) mine
      · rw [accepted_congr kept, snapshot_eq_of_restrict_eq kept]
        exact fun done => done
  · exact ⟨.start, fun upstream accepted => absurd accepted List.not_mem_nil⟩
  · intro upstream _ record member
    cases member

end World

/-- The sessions of a proxy of either kind are independent. A server that has accepted some streams
    can have its sessions in some states, with some histories, exactly if the streams have distinct
    ids and each session can come to its state and its history by itself. -/
theorem proxy_sessions_compose {μ : Type} [ReactiveState μ] (upstreams : Finset ServerStream)
    (snapshots : ServerStream → Snapshot μ) :
    (∃ world : World μ, Reachable world ∧
      (∀ upstream, world.Accepted upstream ↔ upstream ∈ upstreams) ∧
      ∀ upstream ∈ upstreams, world.snapshot upstream = snapshots upstream) ↔
    Set.InjOn ServerStream.id upstreams ∧
      ∀ upstream ∈ upstreams,
        Snapshot.Reachable upstream.tls upstream.id (snapshots upstream) := by
  constructor
  · rintro ⟨world, reachable, known, same⟩
    constructor
    · intro upstream member other member' shared
      exact World.eq_of_id reachable ((known other).mpr member') ((known upstream).mpr member)
        shared
    · intro upstream member
      rw [← same upstream member]
      exact World.snapshot_reachable reachable ((known upstream).mpr member)
  · rintro ⟨distinct, alone⟩
    obtain ⟨world, ⟨reachable, known⟩, done⟩ := World.exists_composed distinct alone
    refine ⟨world, reachable, fun upstream => ⟨known upstream, fun member => ?_⟩,
      fun upstream member => ?_⟩
    · exact (done upstream (Finset.mem_toList.mpr member)).1
    · exact (done upstream (Finset.mem_toList.mpr member)).2

end AmgiNetTools
