import SipOverRelay.Engine
import SipOverRelay.Mailbox
import SipOverRelay.Server.List
import SipOverRelay.Settings.Basic

/-!
# Notices

What the tunnel tells whoever keeps its log. Every notice has a level and one wording.
-/

namespace SipOverRelay

/-- How much a notice matters. -/
inductive Level where
  /-- Something does not work. -/
  | error
  /-- Something is odd. -/
  | warn
  /-- Something changed. -/
  | info
  /-- Something was done. -/
  | debug
  deriving DecidableEq

/-- The name of a level in the log. -/
def Level.name : Level → String
  | .error => "ERROR"
  | .warn => "WARN"
  | .info => "INFO"
  | .debug => "DEBUG"

/-- Something worth a line in the log. -/
inductive Notice where
  /-- A token of a server list was skipped. -/
  | tokenSkipped (rejected : RejectedToken)
  /-- The stored mode could not be read. -/
  | modeUnreadable (why : Error)
  /-- A server without a host was added. -/
  | hostlessServer
  /-- The tunnel is being turned on. -/
  | turningOn
  /-- The tunnel is being turned off. -/
  | turningOff
  /-- The tunnel already is as wanted. -/
  | alreadyThere (on : Bool)
  /-- Detection was asked for, but no server has a reflector. -/
  | nothingToProbe
  /-- Detection starts over while it is running. -/
  | detectionRestarted
  /-- Detection was stopped while it was running. -/
  | detectionStopped
  /-- A posted event is being handled. -/
  | handling (posted : Posted)
  /-- The registration was not taken back in time. -/
  | deregistrationTimeout
  /-- The relay refused the signaling stream. -/
  | signalingRefused (port : UInt16)
  /-- No relay could be made. -/
  | relayUnavailable (why : Failure)
  /-- A relay reported that is not the current one. -/
  | staleRelay (generation : Nat)
  /-- The current relay reported while the tunnel is off. -/
  | relayWhileOff
  /-- The tunnel is ready. -/
  | linkUp
  /-- The relay lost its connection. -/
  | linkLost
  /-- A probe reported that is not the current one. -/
  | staleProbe (run index : Nat)
  /-- Datagrams get through without the tunnel. -/
  | tunnelNotRequired
  /-- The tunnel is needed; the next reflector is being tried. -/
  | tunnelRequired (backup : Bool)
  /-- The signaling stream failed on sending. -/
  | sendFailed (dest : String) (why : Failure)
  /-- The signaling stream failed on receiving. -/
  | receiveFailed (why : Failure)
  /-- The wait for control descriptors failed. -/
  | controlWaitFailed (why : Failure)
  /-- A media stream goes through the tunnel. -/
  | mediaTunneled (kind : MediaKind) (port : UInt16)
  /-- The relay refused a media stream. -/
  | mediaRefused (kind : MediaKind) (port : UInt16)
  /-- A media stream failed on sending. -/
  | mediaSendFailed (dest : String) (why : Failure)
  /-- A media stream failed on receiving. -/
  | mediaReceiveFailed (why : Failure)
  /-- Stored settings were taken over. -/
  | settingsLoaded (servers : Nat) (mode : Mode)
  /-- The mode was changed. -/
  | modeChanged (before after : Mode)
  deriving DecidableEq

namespace Notice

/-- How much a notice matters. -/
def level : Notice → Level
  | .relayUnavailable _ | .nothingToProbe => .error
  | .tokenSkipped _ | .modeUnreadable _ | .hostlessServer | .detectionRestarted
  | .deregistrationTimeout | .signalingRefused _ | .mediaRefused _ _ => .warn
  | .turningOn | .turningOff | .detectionStopped | .linkUp | .linkLost | .tunnelNotRequired
  | .tunnelRequired _ | .modeChanged _ _ => .info
  | .alreadyThere _ | .handling _ | .staleRelay _ | .relayWhileOff | .staleProbe _ _
  | .sendFailed _ _ | .receiveFailed _ | .controlWaitFailed _ | .mediaTunneled _ _
  | .mediaSendFailed _ _ | .mediaReceiveFailed _ | .settingsLoaded _ _ => .debug

/-- The wording of a notice. -/
def message : Notice → String
  | .tokenSkipped rejected =>
    "skipping tunnel server token " ++ Text.quoted rejected.token ++ ": " ++ rejected.why.message
  | .modeUnreadable why => why.message ++ ", tunnel stays off"
  | .hostlessServer => "tunnel server with empty host added, it will not work"
  | .turningOn => "turning tunnel on"
  | .turningOff => "turning tunnel off"
  | .alreadyThere on => "tunnel already " ++ (if on then "on" else "off")
  | .nothingToProbe => "no udp mirror configured, tunnel auto detection aborted"
  | .detectionRestarted => "tunnel auto detection already running, restarting it"
  | .detectionStopped => "tunnel auto detection stopped"
  | .handling posted =>
    "tunnel event #" ++ toString posted.seq ++ " " ++ posted.event.describe
  | .deregistrationTimeout => "timeout waiting for unregistration, giving up"
  | .signalingRefused port => "relay refused signaling stream on port " ++ toString port
  | .relayUnavailable why => "cannot create tunnel relay: " ++ why.describe
  | .staleRelay generation =>
    "dropping connectivity event of stale relay " ++ toString generation
  | .relayWhileOff => "dropping connectivity event, tunnel is off"
  | .linkUp => "tunnel is up, registering now"
  | .linkLost => "tunnel connection lost"
  | .staleProbe run index =>
    "dropping stale probe result run=" ++ toString run ++ " index=" ++ toString index
  | .tunnelNotRequired => "direct udp works, tunnel not required"
  | .tunnelRequired backup =>
    "tunnel required, enabling; " ++
      (if backup then "trying backup udp mirror" else "no backup udp mirror available")
  | .sendFailed dest why => "tunnel send_to " ++ dest ++ " " ++ why.describe
  | .receiveFailed why => "tunnel recv_from " ++ why.describe
  | .controlWaitFailed why => "control wait " ++ why.describe
  | .mediaTunneled kind port => kind.name ++ " tunneled on port " ++ toString port
  | .mediaRefused kind port => "relay refused " ++ kind.name ++ " stream on port " ++ toString port
  | .mediaSendFailed dest why => "rtp send_to " ++ dest ++ " " ++ why.describe
  | .mediaReceiveFailed why => "rtp recv_from " ++ why.describe
  | .settingsLoaded servers mode =>
    "tunnel loaded with " ++ toString servers ++ " server(s), mode " ++ mode.name
  | .modeChanged before after => "tunnel mode " ++ before.name ++ " -> " ++ after.name

/-- A notice as a line of the log. -/
def line (notice : Notice) : String := notice.level.name ++ " " ++ notice.message

end Notice

end SipOverRelay
