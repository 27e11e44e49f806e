/-!
# Settings of the engines

The signaling engine has a firewall policy and the local ports it listens on. The tunnel overrides
both while it is ready. The media engine asks for one stream per kind of media.
-/

namespace SipOverRelay

/-- How the signaling engine copes with firewalls. -/
inductive Policy where
  /-- There is no firewall to cope with. -/
  | noFirewall
  /-- A fixed public address is announced. -/
  | natAddress
  /-- The public address is asked for. -/
  | stun
  /-- Candidates are negotiated. -/
  | ice
  /-- The router is asked to forward ports. -/
  | upnp
  deriving DecidableEq

/-- The local ports of the signaling engine; zero turns a transport off. -/
structure Ports where
  /-- Port for datagrams. -/
  udp : UInt16
  /-- Port for streams. -/
  tcp : UInt16 := 0
  /-- Port for encrypted streams. -/
  tls : UInt16 := 0
  /-- Port for encrypted datagrams. -/
  dtls : UInt16 := 0
  deriving DecidableEq

/-- Ports with nothing but datagrams turned on. -/
def Ports.udpOnly (port : UInt16) : Ports := { udp := port }

/-- The port above 1023 that is made from 16 random bits. One bit is left out, so that the sum fits
into 16 bits. -/
def ephemeralPort (bits : UInt16) : UInt16 := 1024 + (bits &&& 0xDFFF)

/-- The sum does not wrap around, so the port is none of the reserved ones. -/
theorem le_ephemeralPort (bits : UInt16) : 1024 ≤ ephemeralPort bits := by
  have hb : (bits &&& 0xDFFF).toNat ≤ 0xDFFF := by
    rw [UInt16.toNat_and]
    exact Nat.and_le_right
  rw [UInt16.le_iff_toNat_le, ephemeralPort, UInt16.toNat_add, Nat.mod_eq_of_lt]
  · exact Nat.le_add_right _ _
  · exact Nat.lt_of_le_of_lt (Nat.add_le_add_left hb _) (by decide)

/-- The engine settings that the tunnel overrides. -/
structure EngineSettings where
  /-- Where the engine listens. -/
  ports : Ports
  /-- How it copes with firewalls. -/
  policy : Policy
  deriving DecidableEq

/-- The kinds of media for which the media engine asks for a stream. -/
inductive MediaKind where
  /-- Sound. -/
  | audio
  /-- Reports about the sound. -/
  | audioControl
  /-- Pictures. -/
  | video
  /-- Reports about the pictures. -/
  | videoControl
  deriving DecidableEq

/-- The name of a kind of media, as log messages write it. -/
def MediaKind.name : MediaKind → String
  | .audio => "AudioRtp"
  | .audioControl => "AudioRtcp"
  | .video => "VideoRtp"
  | .videoControl => "VideoRtcp"

end SipOverRelay
