import Gnirehtet.Lib.Run
import Gnirehtet.Lib.Loop
import Gnirehtet.Lib.Packets
import Gnirehtet.Relay.StreamQueue
import Gnirehtet.Relay.DatagramBuffer
import Gnirehtet.Relay.SpuriousSend
import Gnirehtet.Relay.Resync
import Gnirehtet.Relay.Locality
import Gnirehtet.Relay.IcmpAnswers
import Gnirehtet.Relay.Setters
import Gnirehtet.Relay.Quarantine
import Gnirehtet.Relay.ClosedFlows
import Gnirehtet.Relay.Expiry
import Gnirehtet.Relay.MainLoop
import Gnirehtet.Relay.SerialRegistry
import Gnirehtet.Relay.Resets
import Gnirehtet.Tcp.Acknowledgement
import Gnirehtet.Tcp.Upstream
import Gnirehtet.Tcp.Deferral
import Gnirehtet.Tcp.DeviceFin
import Gnirehtet.Tcp.Window
import Gnirehtet.Tcp.ControlPacket
import Gnirehtet.Tcp.Downstream
import Gnirehtet.Relay.UdpChecksum
import Gnirehtet.Tcp.Close
import Gnirehtet.Tcp.NumberSpace
import Gnirehtet.Tcp.Mtu
import Gnirehtet.Tcp.Socks5
import Gnirehtet.App.Framers
import Gnirehtet.App.BufferRoom
import Gnirehtet.App.RelayTunnelProvider
import Gnirehtet.App.Linearization
import Gnirehtet.App.Downlink
import Gnirehtet.App.Uplink
import Gnirehtet.Adb.Liveness
import Gnirehtet.Wifi
import Gnirehtet.App.FallbackMemory
import Gnirehtet.App.FallbackSigns
import Gnirehtet.Host.Names
