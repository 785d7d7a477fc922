/-
Module: AmgiNetTools.Socks5.Greetings
Layer: Socks5
Purpose: Which greetings are accepted, and which bytes of them are looked at. `greetingQueries` is
  `is_socks5_auth_request` once more, with every access to memory as a question of its own.
Main exports: Socks5.OffersNoAuth, Socks5.greetingQueries, Socks5.run_greetingQueries,
  Socks5.asked_greetingQueries, Socks5.ExactVerdict, socks5_greeting_exact
-/
import AmgiNetTools.Library.Queries
import AmgiNetTools.Socks5.Message

namespace AmgiNetTools

namespace Socks5

/-- A greeting of version 5 with a whole list of methods, among which is the one without
    authentication. -/
def OffersNoAuth (greeting : IoBuffer) : Prop :=
  2 ≤ greeting.length ∧ greeting[0]? = some 5 ∧ ∃ count, greeting[1]? = some count ∧
    2 + count.toNat ≤ greeting.length ∧
    ∃ i, 2 ≤ i ∧ i < 2 + count.toNat ∧ greeting[i]? = some 0

/-- The loop of `is_socks5_auth_request` from method `i` on, with `left` methods to go. -/
def methodQueries : Nat → Nat → Queries Nat UInt8 (Option String)
  | 0, _ => .done (some "authentication support is not implemented")
  | left + 1, i =>
      .ask (2 + i) fun method =>
        if method = Auth.noAuth then .done none else methodQueries left (i + 1)

/-- `is_socks5_auth_request`, access by access. -/
def greetingQueries (length : Nat) : Queries Nat UInt8 (Option String) :=
  if length < Auth.headerMinLength then
    .done (some "socks5 proto: bad initial request packet")
  else
    .ask 0 fun first =>
      if first ≠ version then
        .done (some "socks5 proto: only protocol version 5 is supported")
      else
        .ask 1 fun count =>
          if count.toNat + Auth.headerMinLength > length then
            .done (some "socks5 proto: invalid authentication request length")
          else
            methodQueries count.toNat 0

/-! ### The accesses -/

variable {memory : Nat → UInt8} {length left i : Nat}

/-- The loop finds the method if it is there. -/
theorem run_methodQueries : (methodQueries left i).run memory =
    if (List.range left).any fun j => memory (2 + (i + j)) == Auth.noAuth then
      none
    else
      some "authentication support is not implemented" := by
  induction left generalizing i with
  | zero => rfl
  | succ left ih =>
      rw [methodQueries, Queries.run_ask, List.range_succ_eq_map, List.any_cons, List.any_map]
      by_cases found : memory (2 + i) = Auth.noAuth
      · simp [found]
      · rw [if_neg found, ih]
        simp [found, Function.comp_def, Nat.add_assoc, Nat.add_comm 1]

/-- The loop looks at its methods. -/
theorem asked_methodQueries :
    ∀ index ∈ (methodQueries left i).asked memory, 2 + i ≤ index ∧ index < 2 + (i + left) := by
  induction left generalizing i with
  | zero => simp [methodQueries]
  | succ left ih =>
      rw [methodQueries, Queries.asked_ask, List.forall_mem_cons]
      constructor
      · omega
      · split
        · simp
        · intro index member
          have inside := ih index member
          omega

theorem run_greetingQueries :
    (greetingQueries length).run memory = isSocks5AuthRequest memory length := by
  unfold greetingQueries isSocks5AuthRequest
  by_cases short : length < Auth.headerMinLength
  · rw [if_pos short, if_pos short, Queries.run_done]
  · rw [if_neg short, if_neg short, Queries.run_ask]
    by_cases other : memory 0 ≠ version
    · rw [if_pos other, if_pos other, Queries.run_done]
    · rw [if_neg other, if_neg other, Queries.run_ask]
      by_cases cut : (memory 1).toNat + Auth.headerMinLength > length
      · rw [if_pos cut, if_pos cut, Queries.run_done]
      · rw [if_neg cut, if_neg cut, run_methodQueries]
        simp only [Nat.zero_add]

/-- Nothing is looked at behind the list of methods, or behind the end. -/
theorem asked_greetingQueries : ∀ index ∈ (greetingQueries length).asked memory,
    index < length ∧ index < 2 + (memory 1).toNat := by
  unfold greetingQueries Auth.headerMinLength
  split
  · simp
  · next long =>
      rw [Queries.asked_ask, List.forall_mem_cons]
      refine ⟨by omega, ?_⟩
      split
      · simp
      · rw [Queries.asked_ask, List.forall_mem_cons]
        refine ⟨by omega, ?_⟩
        split
        · simp
        · intro index member
          have inside := asked_methodQueries index member
          omega

/-- The verdict does not depend on what is behind the list of methods. -/
theorem isSocks5AuthRequest_behind {memory' : Nat → UInt8}
    (same : ∀ i < length, i < 2 + (memory 1).toNat → memory' i = memory i) :
    isSocks5AuthRequest memory' length = isSocks5AuthRequest memory length := by
  rw [← run_greetingQueries, ← run_greetingQueries]
  refine (Queries.run_congr fun index member => ?_).1
  obtain ⟨inside, before⟩ := asked_greetingQueries index member
  exact same index inside before

/-! ### The verdict -/

/-- One of the methods is the one without authentication. -/
theorem any_iff {greeting : IoBuffer} {count : Nat} (enough : 2 + count ≤ greeting.length) :
    ((List.range count).any fun i => greeting.getD (2 + i) 0 == Auth.noAuth) = true ↔
      ∃ i, 2 ≤ i ∧ i < 2 + count ∧ greeting[i]? = some 0 := by
  rw [List.any_eq_true]
  constructor
  · rintro ⟨i, inside, found⟩
    rw [List.mem_range] at inside
    have there : 2 + i < greeting.length := by omega
    refine ⟨2 + i, by omega, by omega, ?_⟩
    simpa [List.getD_eq_getElem?_getD, there, Auth.noAuth] using found
  · rintro ⟨i, after, inside, found⟩
    refine ⟨i - 2, List.mem_range.mpr (by omega), ?_⟩
    rw [Nat.add_sub_cancel' after, List.getD_eq_getElem?_getD, found]
    rfl

/-- A greeting is refused unless it offers to go without authentication. -/
theorem not_refused_iff {greeting : IoBuffer} : ¬ Refused greeting ↔ OffersNoAuth greeting := by
  match greeting with
  | [] => simp [Refused, isSocks5AuthRequest, OffersNoAuth, Auth.headerMinLength]
  | [first] => simp [Refused, isSocks5AuthRequest, OffersNoAuth, Auth.headerMinLength]
  | first :: count :: methods =>
      have whole : ¬ (first :: count :: methods).length < Auth.headerMinLength := by
        simp [Auth.headerMinLength]
      have zero : (first :: count :: methods).getD 0 0 = first := rfl
      have one : (first :: count :: methods).getD 1 0 = count := rfl
      rw [Refused, isSocks5AuthRequest, if_neg whole, zero, one]
      by_cases five : first = version
      · rw [if_neg (not_not.mpr five)]
        by_cases cut : count.toNat + Auth.headerMinLength > (first :: count :: methods).length
        · have short : ¬ 2 + count.toNat ≤ (first :: count :: methods).length := by
            rw [Nat.add_comm]
            exact Nat.not_le.mpr cut
          rw [if_pos cut]
          apply iff_of_false (by simp)
          rintro ⟨-, -, count', here, enough, -⟩
          cases here
          exact short enough
        · have enough : 2 + count.toNat ≤ (first :: count :: methods).length := by
            rw [Nat.add_comm]
            exact Nat.le_of_not_lt cut
          rw [if_neg cut]
          by_cases offered : ∃ i, 2 ≤ i ∧ i < 2 + count.toNat ∧
              (first :: count :: methods)[i]? = some 0
          · rw [if_pos ((any_iff enough).mpr offered)]
            apply iff_of_true (by simp)
            exact ⟨by simp, congrArg some five, count, rfl, enough, offered⟩
          · rw [if_neg fun any => offered ((any_iff enough).mp any)]
            apply iff_of_false (by simp)
            rintro ⟨-, -, count', here, -, offered'⟩
            cases here
            exact offered offered'
      · rw [if_pos five]
        apply iff_of_false (by simp)
        rintro ⟨-, here, -⟩
        cases here
        exact five rfl

/-- Whatever comes behind the list of methods, the verdict is the same. -/
theorem offersNoAuth_append {greeting : IoBuffer} (trailing : IoBuffer)
    (whole : ∃ count, greeting[1]? = some count ∧ 2 + count.toNat ≤ greeting.length) :
    OffersNoAuth (greeting ++ trailing) ↔ OffersNoAuth greeting := by
  obtain ⟨count, here, enough⟩ := whole
  have below {i : Nat} (inside : i < 2 + count.toNat) :
      (greeting ++ trailing)[i]? = greeting[i]? :=
    List.getElem?_append_left (by omega)
  have long : 2 ≤ greeting.length := by omega
  have longer : 2 ≤ (greeting ++ trailing).length := by
    rw [List.length_append]
    omega
  rw [OffersNoAuth, OffersNoAuth, below (i := 0) (by omega), below (i := 1) (by omega), here]
  constructor
  · rintro ⟨-, five, count', same, -, i, after, inside, found⟩
    cases same
    exact ⟨long, five, count, rfl, enough, i, after, inside, by rwa [below inside] at found⟩
  · rintro ⟨-, five, count', same, -, i, after, inside, found⟩
    cases same
    refine ⟨longer, five, count, rfl, ?_, i, after, inside, by rwa [below inside]⟩
    rw [List.length_append]
    omega

theorem answers_greeting [Platform] (greeting : Received) (reply : IoBuffer) :
    ReactiveState.Answers Socks5State.authRequest (.serverRead greeting) [.writeServer reply]
        (some .connectionRequest) ↔ reply = [version, authMode greeting] := by
  constructor
  · intro answers
    obtain ⟨outcome, reacts, made, -⟩ := answers { id := 0 }
    cases reacts
    cases made
    rfl
  · rintro rfl context
    exact ⟨_, rfl, rfl, rfl⟩

/-- What a greeting is answered, and what that depends on. -/
structure ExactVerdict [Platform] (greeting : Received) : Prop where
  accepted : ReactiveState.Answers Socks5State.authRequest (.serverRead greeting)
    [.writeServer [5, 0x00]] (some .connectionRequest) ↔ OffersNoAuth greeting.bytes
  refused : ¬ OffersNoAuth greeting.bytes → ReactiveState.Answers Socks5State.authRequest
    (.serverRead greeting) [.writeServer [5, 0xff]] (some .connectionRequest)
  /-- The accesses are those of `is_socks5_auth_request`. -/
  queries : (greetingQueries greeting.size).run greeting.data =
    isSocks5AuthRequest greeting.data greeting.size
  inside : ∀ index ∈ (greetingQueries greeting.size).asked greeting.data,
    index < greeting.size ∧ index < 2 + 255
  confined : ∀ memory,
    (∀ i < greeting.size, i < 2 + (greeting.data 1).toNat → memory i = greeting.data i) →
      isSocks5AuthRequest memory greeting.size = isSocks5AuthRequest greeting.data greeting.size
  trailing : ∀ more : IoBuffer,
    (∃ count, greeting.bytes[1]? = some count ∧ 2 + count.toNat ≤ greeting.bytes.length) →
      (OffersNoAuth (greeting.bytes ++ more) ↔ OffersNoAuth greeting.bytes)

end Socks5

/-- A greeting is answered `{5, 0}` when it offers to go without authentication, and `{5, 0xff}`
    otherwise. To find that out, nothing is read at or behind the length, nor behind the list of
    methods, and what stands there does not matter. -/
theorem socks5_greeting_exact [Platform] (greeting : Received) : Socks5.ExactVerdict greeting := by
  have mode := Socks5.authMode_eq greeting
  constructor
  · rw [Socks5.answers_greeting, ← Socks5.not_refused_iff]
    by_cases refused : Socks5.Refused greeting.bytes
    · rw [mode, if_pos refused]
      apply iff_of_false (by decide)
      exact not_not_intro refused
    · rw [mode, if_neg refused]
      exact iff_of_true rfl refused
  · rw [Socks5.answers_greeting, ← Socks5.not_refused_iff]
    intro refused
    rw [mode, if_pos (not_not.mp refused)]
    rfl
  · exact Socks5.run_greetingQueries
  · intro index member
    obtain ⟨inside, before⟩ := Socks5.asked_greetingQueries index member
    have small := (greeting.data 1).toNat_lt
    omega
  · intro memory same
    exact Socks5.isSocks5AuthRequest_behind same
  · intro more whole
    exact Socks5.offersNoAuth_append more whole

end AmgiNetTools
