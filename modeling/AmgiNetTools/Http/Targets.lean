/-
Module: AmgiNetTools.Http.Targets
Layer: Http
Purpose: Where a request leads: `http_wait_request` connects to a host and a service when
  `get_host` and `get_service` return them. The target of a CONNECT is that of its request line,
  whatever follows.
Main exports: Http.Connects, Http.connects_iff, Http.connects_iff_of_ne_nil, http_connect_target
-/
import AmgiNetTools.Http.Message

namespace AmgiNetTools

namespace Http

open Tokens

/-- `http_wait_request` answers a buffer by connecting to a host and a service. -/
def Connects (bytes : IoBuffer) (host service : Text) : Prop :=
  ∀ behind, ReactiveState.Answers HttpState.waitRequest (.serverRead ⟨bytes, behind⟩)
    [.connect host service] (some .connectionEstablished)

theorem connects_iff {bytes : IoBuffer} {host service : Text} :
    Connects bytes host service ↔ target bytes = .ok (some ⟨host, service⟩) := by
  constructor
  · intro connects
    obtain ⟨outcome, reacts, made, -⟩ := connects (fun _ => 0) { id := 0 }
    cases parsed : target bytes with
    | error fault => simp [ReactiveState.reaction, reaction, parsed, Except.map] at reacts
    | ok found =>
        simp only [ReactiveState.reaction, reaction, parsed, Except.map, Except.ok.injEq] at reacts
        rw [← reacts] at made
        cases found with
        | none => cases made
        | some found =>
            cases made
            rfl
  · intro parsed behind context
    refine ⟨_, by simp only [ReactiveState.reaction, reaction, parsed, Except.map]; rfl, rfl, rfl⟩

/-- Host and service decide, when they are something. -/
theorem connects_iff_of_ne_nil {bytes : IoBuffer} {host service : Text} (host_ : host ≠ [])
    (service_ : service ≠ []) : Connects bytes host service ↔
      (getHeaders bytes).getHost bytes = .ok host ∧
        (getHeaders bytes).getService bytes = .ok service := by
  rw [connects_iff, target_eq_ok]
  constructor
  · rintro ⟨host', gotHost, service', gotService, found⟩
    split at found
    · cases found
    · cases found
      exact ⟨gotHost, gotService⟩
  · rintro ⟨gotHost, gotService⟩
    exact ⟨host, gotHost, service, gotService, by simp [host_, service_]⟩

end Http

/-- Whatever follows its request line, a CONNECT leads to the host and the service that stand in
    it. -/
theorem http_connect_target (host service version rest : Text)
    (host_ : Http.IsToken host ∧ ∀ c ∈ host, c ∉ ascii ":")
    (service_ : Http.IsToken service ∧ ∀ c ∈ service, c ∉ ascii ":")
    (version_ : Http.IsToken version) (more : ∃ c ∈ rest, c ∉ Http.crlf) (buffer : IoBuffer)
    (shape : buffer = ascii "CONNECT " ++ host ++ ascii ":" ++ service ++ ascii " " ++ version ++
      Http.crlf ++ rest)
    (small : buffer.length ≤ StringView.maxStringSize) :
    (Http.getHeaders buffer).method = .kConnect ∧
      (Http.getHeaders buffer).getHost buffer = .ok host ∧
      (Http.getHeaders buffer).getService buffer = .ok service ∧
      Http.Connects buffer host service := by
  have line : buffer = Http.requestLine (ascii "CONNECT") (host ++ ascii ":" ++ service) version ++
      Http.crlf ++ rest := by
    rw [shape, Http.requestLine]
    simp [ascii]
  obtain ⟨front, back, ⟨⟨insideFront, rfl⟩, insideBack, rfl⟩, method, hostPart, servicePart⟩ :=
    Http.getHost_connect host_ service_ version_ more line
  have gotHost := hostPart.trans (insideFront.toString_eq small)
  have gotService := servicePart.trans (insideBack.toString_eq small)
  have connects := (Http.connects_iff_of_ne_nil host_.1.1 service_.1.1).mpr ⟨gotHost, gotService⟩
  exact ⟨method, gotHost, gotService, connects⟩

namespace Http.Sample

/-- A CONNECT with a header line that names another host. -/
def misleadingConnect : IoBuffer := ascii "CONNECT h:443 HTTP/1.1\r\nHost: other\r\n\r\n"

end Http.Sample

theorem http_connect_target_sample :
    (Http.getHeaders Http.Sample.misleadingConnect).method = .kConnect ∧
      (Http.getHeaders Http.Sample.misleadingConnect).getHost Http.Sample.misleadingConnect =
        .ok (ascii "h") ∧
      (Http.getHeaders Http.Sample.misleadingConnect).getService Http.Sample.misleadingConnect =
        .ok (ascii "443") ∧
      Http.Connects Http.Sample.misleadingConnect (ascii "h") (ascii "443") :=
  http_connect_target (ascii "h") (ascii "443") (ascii "HTTP/1.1") (ascii "Host: other\r\n\r\n")
    ⟨⟨by decide, Http.free_of_all (by decide)⟩, Http.free_of_all (by decide)⟩
    ⟨⟨by decide, Http.free_of_all (by decide)⟩, Http.free_of_all (by decide)⟩
    ⟨by decide, Http.free_of_all (by decide)⟩ ⟨72, by decide, by decide⟩
    Http.Sample.misleadingConnect (by decide) (by decide)

end AmgiNetTools
