/-
Module: AmgiNetTools.Socks5.Requests
Layer: Socks5
Purpose: Which requests of a client are taken up. One minimum length, that of a request for an IPv4
  address, is asked of every form, and a request for a name of one or two bytes is shorter.
Main exports: Socks5.ConnectsTo, Socks5.connectsTo_iff, Socks5.Accepted, Socks5.length_bytes,
  socks5_short_name_refused
-/
import AmgiNetTools.Socks5.Addresses

namespace AmgiNetTools

namespace Socks5

/-- `socks5_connection_request` answers a buffer by connecting to a host and a service. -/
def ConnectsTo [Platform] (bytes : IoBuffer) (host service : Text) : Prop :=
  ∀ behind, ReactiveState.Answers Socks5State.connectionRequest (.serverRead ⟨bytes, behind⟩)
    [.connect host service] (some .connectionEstablished)

/-- `socks5_connection_request` answers a buffer by stopping the session. -/
def Stops [Platform] (bytes : IoBuffer) : Prop :=
  ∀ behind, ReactiveState.Answers Socks5State.connectionRequest (.serverRead ⟨bytes, behind⟩)
    [] none

/-- A name has a byte at least. -/
def Address.Nonempty : Address → Prop
  | .dom name _ => name ≠ []
  | .ipv4 _ _ | .ipv6 _ _ => True

/-- A name of one or two bytes. -/
def Address.ShortName : Address → Prop
  | .dom name _ => name.length < 3
  | .ipv4 _ _ | .ipv6 _ _ => False

/-- A request is answered by connecting to its address and its port. -/
def Accepted [Platform] (request : ConnectRequest) : Prop :=
  ∃ host, request.address.host = some host ∧
    ConnectsTo request.bytes host (portToString request.port)

/-! ### The answer to a request -/

section

variable [Platform] {bytes : IoBuffer} {host service : Text}

theorem reaction_accepted {message : Received} (context : SessionContext)
    (accepted : target message = some (host, service)) :
    reaction ⟨context, .connectionRequest⟩ (.serverRead message) =
      { requests := [.connect host service]
        next := some
          ⟨{ context with host := host, service := service, response := message.bytes },
            .connectionEstablished⟩ } := by
  simp only [reaction, accepted]

theorem reaction_refused {message : Received} (context : SessionContext)
    (refused : target message = none) :
    reaction ⟨context, .connectionRequest⟩ (.serverRead message) = .stop := by
  simp only [reaction, refused]

theorem connectsTo_iff :
    ConnectsTo bytes host service ↔ ∀ behind, target ⟨bytes, behind⟩ = some (host, service) := by
  constructor
  · intro connects behind
    obtain ⟨outcome, reacts, made, -⟩ := connects behind { id := 0 }
    cases reacts
    cases found : target ⟨bytes, behind⟩ with
    | none =>
        rw [reaction_refused _ found] at made
        cases made
    | some address =>
        rw [reaction_accepted _ found] at made
        cases made
        rfl
  · intro accepted behind context
    refine ⟨_, congrArg Except.ok (reaction_accepted context (accepted behind)), rfl, rfl⟩

/-- What is shorter than the minimum length is refused. -/
theorem target_short {message : Received} (short : message.size < requestHeaderMinLength) :
    target message = none := by
  rw [target, isValidRequestPacket, if_neg (Nat.not_le.mpr short)]
  rfl

theorem stops_of_short (short : bytes.length < requestHeaderMinLength) : Stops bytes := by
  intro behind context
  refine ⟨_, congrArg Except.ok (reaction_refused context ?_), rfl, rfl⟩
  exact target_short short

theorem not_connectsTo_of_short (short : bytes.length < requestHeaderMinLength) :
    ¬ ConnectsTo bytes host service := by
  intro connects
  have accepted := connectsTo_iff.mp connects fun _ => 0
  have refused : target ⟨bytes, fun _ => 0⟩ = none := target_short short
  rw [refused] at accepted
  cases accepted

end

/-! ### The length of a request -/

/-- Four bytes of header and two of port go with an address. -/
theorem length_bytes (request : ConnectRequest) :
    request.bytes.length = request.address.bytes.length + 6 := by
  simp [ConnectRequest.bytes, portBytes]

/-- Only short names make requests that are too short. -/
theorem short_iff (request : ConnectRequest) :
    request.bytes.length < requestHeaderMinLength ↔ request.address.ShortName := by
  rw [length_bytes]
  unfold requestHeaderMinLength
  cases request.address with
  | ipv4 bytes sized => simp [Address.bytes, Address.ShortName, sized, ipv4Length]
  | dom name short =>
      rw [Address.bytes, Address.ShortName, List.length_cons]
      omega
  | ipv6 bytes sized => simp [Address.bytes, Address.ShortName, sized, ipv6Length]

/-- Every address has a text. -/
theorem host_of_resolves [Platform] (resolves : Resolves) {address : Address}
    (nonempty : address.Nonempty) : ∃ host, address.host = some host ∧ host ≠ [] := by
  cases address with
  | ipv4 bytes sized =>
      obtain ⟨host, text, nonempty⟩ := resolves .inet bytes sized
      exact ⟨host, by rw [Address.host, text]; rfl, nonempty⟩
  | dom name short => exact ⟨name, rfl, nonempty⟩
  | ipv6 bytes sized =>
      obtain ⟨host, text, nonempty⟩ := resolves .inet6 bytes sized
      exact ⟨host, by rw [Address.host, text]; rfl, nonempty⟩

namespace Sample

/-- A request for port 80 of the host `a`. -/
def letterName : ConnectRequest :=
  { reserved := 0, address := .dom (ascii "a") (by decide), port := 80 }

/-- A request for port 80 of the host `a.b`. -/
def longerName : ConnectRequest :=
  { reserved := 0, address := .dom (ascii "a.b") (by decide), port := 80 }

end Sample

end Socks5

/-- A request is taken up unless it is for a name of one or two bytes. -/
theorem socks5_short_name_refused [Platform] (request : Socks5.ConnectRequest)
    (resolves : Socks5.Resolves) (nonempty : request.address.Nonempty) :
    Socks5.Accepted request ↔ ¬ request.address.ShortName := by
  rw [← Socks5.short_iff]
  constructor
  · rintro ⟨host, -, connects⟩ short
    exact Socks5.not_connectsTo_of_short short connects
  · intro long
    obtain ⟨host, named, text⟩ := Socks5.host_of_resolves resolves nonempty
    refine ⟨host, named, Socks5.connectsTo_iff.mpr fun behind => ?_⟩
    exact Socks5.target_bytes rfl (Nat.le_of_not_lt long) named text

section

attribute [local instance] Socks5.Sample.everyGroup

theorem socks5_short_name_refused_sample : Socks5.Accepted Socks5.Sample.longerName :=
  (socks5_short_name_refused Socks5.Sample.longerName Socks5.Sample.resolves_everyGroup
    (by simp [Socks5.Sample.longerName, Socks5.Address.Nonempty, ascii])).mpr
      (by simp [Socks5.Sample.longerName, Socks5.Address.ShortName, ascii])

/-- The session stops at a request of eight bytes. -/
theorem socks5_request_refused :
    Socks5.Sample.letterName.bytes = [5, 1, 0, 3, 1, 97, 0, 80] ∧
      Socks5.Stops Socks5.Sample.letterName.bytes ∧ ¬ Socks5.Accepted Socks5.Sample.letterName := by
  refine ⟨by decide, Socks5.stops_of_short (by decide), ?_⟩
  rintro ⟨host, -, connects⟩
  exact Socks5.not_connectsTo_of_short (by decide) connects

end

end AmgiNetTools
