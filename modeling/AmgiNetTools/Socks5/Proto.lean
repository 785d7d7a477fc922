/-
Module: AmgiNetTools.Socks5.Proto
Layer: Socks5
Purpose: `socks5.h` and `socks5.cpp`: the parsers of the two client messages. They work on a pointer
  and a length, so they are written over the memory the pointer leads to; nothing keeps them from
  reading at or past the length.
Main exports: Platform, Socks5.isSocks5AuthRequest, Socks5.isValidRequestPacket,
  Socks5.getRemoteAddressInfo, Socks5.getPortFromBinary
-/
import AmgiNetTools.Transport.Stream

namespace AmgiNetTools

/-- `AF_INET` and `AF_INET6`. -/
inductive AddressFamily where
  | inet
  | inet6
deriving DecidableEq, Repr

/-- What asio and the operating system provide: `inet_ntop`, from the bytes of an address to its
    text or to an error code. -/
class Platform where
  inetNtop : AddressFamily → List UInt8 → Except ErrorCode Text

namespace Socks5

/-! ### Constants of `proto::auth` and of `socks5` -/

namespace Auth

def noAuth : UInt8 := 0x00
def notSupported : UInt8 := 0xff
def headerMinLength : Nat := 0x02

end Auth

def version : UInt8 := 0x05
def ipv4 : UInt8 := 0x01
def dom : UInt8 := 0x03
def ipv6 : UInt8 := 0x04

def domLengthFieldOffset : Nat := 0
def domFieldOffset : Nat := 1
def maxDomLength : Nat := 255

def ipv4Length : Nat := 4
def ipv6Length : Nat := 16

def requestHeaderMinLength : Nat := 10

/-- `socks5::request::tcp_connection`. -/
def tcpConnection : UInt8 := 0x01

namespace Responses

def succeeded : UInt8 := 0x00
def generalSocksServerFailure : UInt8 := 0x01
def networkUnreachable : UInt8 := 0x03
def hostUnreachable : UInt8 := 0x04
def connectionRefused : UInt8 := 0x05
def ttlExpired : UInt8 := 0x06

end Responses

/-! ### Parsers -/

/-- The bytes of memory from `start` to before `start + count`. -/
def bytesAt (memory : Nat → UInt8) (start count : Nat) : List UInt8 :=
  (List.range count).map fun i => memory (start + i)

/-- `is_socks5_auth_request`: the reason to refuse the message, if there is one. In `auth::request`
    the version is at offset 0, the number of methods at 1 and the methods start at 2. -/
def isSocks5AuthRequest (buffer : Nat → UInt8) (length : Nat) : Option String :=
  if length < Auth.headerMinLength then
    some "socks5 proto: bad initial request packet"
  else if buffer 0 ≠ version then
    some "socks5 proto: only protocol version 5 is supported"
  else if (buffer 1).toNat + Auth.headerMinLength > length then
    some "socks5 proto: invalid authentication request length"
  else if (List.range (buffer 1).toNat).any fun i => buffer (2 + i) == Auth.noAuth then
    none
  else
    some "authentication support is not implemented"

/-- `is_valid_request_packet`. In `request_header` the version is at offset 0, the command at 1, the
    address type at 3 and the data start at 4. -/
def isValidRequestPacket (buffer : Nat → UInt8) (length : Nat) : Bool :=
  if length ≥ requestHeaderMinLength then
    if buffer 0 ≠ version then
      false
    else if buffer 1 ≠ tcpConnection then
      false
    else if !(buffer 3 == ipv4 || buffer 3 == ipv6 || buffer 3 == dom) then
      false
    else
      true
  else
    false

/-- `get_port_from_binary`. -/
def getPortFromBinary (buffer : Nat → UInt8) : UInt16 :=
  (buffer 0).toUInt16 <<< 8 ||| (buffer 1).toUInt16

/-- `std::to_string` of a port. -/
def portToString (port : UInt16) : Text :=
  (Nat.toDigits 10 port.toNat).map fun c => UInt8.ofNat c.toNat

/-- `get_remote_address_info`: host and port when it returns true. A failing `inet_ntop` leaves the
    host empty. -/
def getRemoteAddressInfo [Platform] (buffer : Nat → UInt8) (length : Nat) : Option (Text × Text) :=
  if length ≥ requestHeaderMinLength then
    let data := fun i => buffer (4 + i)
    let address : Option (Text × Text) :=
      if buffer 3 = ipv4 then
        match Platform.inetNtop .inet (bytesAt data 0 ipv4Length) with
        | .ok host => some (host, portToString (getPortFromBinary fun i => data (ipv4Length + i)))
        | .error _ => none
      else if buffer 3 = ipv6 then
        match Platform.inetNtop .inet6 (bytesAt data 0 ipv6Length) with
        | .ok host => some (host, portToString (getPortFromBinary fun i => data (ipv6Length + i)))
        | .error _ => none
      else if buffer 3 = dom then
        let domainLength := (data domLengthFieldOffset).toNat
        if domainLength ≤ maxDomLength then
          some (bytesAt data domFieldOffset domainLength,
            portToString (getPortFromBinary fun i => data (domainLength + 1 + i)))
        else
          some ([], [])
      else
        none
    match address with
    | some (host, port) => if !host.isEmpty && !port.isEmpty then some (host, port) else none
    | none => none
  else
    none

end Socks5

end AmgiNetTools
