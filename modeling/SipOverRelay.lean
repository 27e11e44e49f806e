import SipOverRelay.Managed
import SipOverRelay.Probe.Client
import SipOverRelay.Probe.Exchange
import SipOverRelay.Rehearsal.Probing
import SipOverRelay.Rehearsal.Session
import SipOverRelay.Rehearsal.Trace
import SipOverRelay.Settings.Layout
import SipOverRelay.Proofs.Override
import SipOverRelay.Proofs.Superseded
import SipOverRelay.Proofs.Pursuit
import SipOverRelay.Proofs.Phases
import SipOverRelay.Proofs.Lockstep
import SipOverRelay.Proofs.Registration
import SipOverRelay.Proofs.Signaling
import SipOverRelay.Proofs.Restart
import SipOverRelay.Proofs.Interleaving
import SipOverRelay.Proofs.Traffic
import SipOverRelay.Proofs.Managing
import SipOverRelay.Proofs.Pinning
import SipOverRelay.Proofs.Copies
import SipOverRelay.Proofs.Departure
import SipOverRelay.Proofs.Driving
import SipOverRelay.Proofs.Punctuality
import SipOverRelay.Proofs.Grammar
import SipOverRelay.Proofs.Resaving
import SipOverRelay.Probe.Course
import SipOverRelay.Proofs.ProbeRuns
import SipOverRelay.Proofs.Neighbours
import SipOverRelay.Proofs.Layout
import SipOverRelay.Proofs.Reflection
import SipOverRelay.Tunnel.MediaRun
import SipOverRelay.Proofs.MediaStreams
import SipOverRelay.Proofs.JoiningOrder
