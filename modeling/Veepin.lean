import Veepin.Dataplane.GroBatch
import Veepin.Dataplane.AdmissionSlots
import Veepin.Dataplane.RateBound
import Veepin.IKEv2.Aggfrag.Loss
import Veepin.IKEv2.Ike.PostQuantum
import Veepin.IKEv2.Ike.Leases
import Veepin.IKEv2.Ike.AuthGate
import Veepin.IKEv2.Ike.HalfOpen
import Veepin.IKEv2.Ike.Fragments
import Veepin.IKEv2.Ike.TCPStream
import Veepin.IKEv2.Esp.SA
import Veepin.Dataplane.PumpStats
import Veepin.GP.Expiry
import Veepin.Fortinet.SecondFactor
import Veepin.Dataplane.PeerRemoval
import Veepin.IKEv2.Client.MessageIds
import Veepin.IKEv2.Client.ChildAgreement
import Veepin.Dtls.Recovery
import Veepin.WireGuard.Transport
import Veepin.WireGuard.Rekey
import Veepin.OpenVPN.PeerIds
import Veepin.PPP.Link
import Veepin.L2TP.Reliable
import Veepin.OpenVPN.Delivery
import Veepin.Masque.CapsuleStream
import Veepin.Masque.ConnectUDP
import Veepin.Ssh.Binding
import Veepin.Connect.Redial
import Veepin.WireGuard.Load
import Veepin.Connect.Monitor
import Veepin.Pulse.DataPath
