import SingBox.Adapter.OutboundManager
import SingBox.Dns.Checker
import SingBox.Dns.ClientSubnet
import SingBox.Dns.Loopback
import SingBox.Dns.PersistentCache
import SingBox.Dns.RaceBarrier
import SingBox.Dns.RoundRobin
import SingBox.Dns.RuleSetReload
import SingBox.Dns.Transparency
import SingBox.Dns.TransportManager
import SingBox.Dns.WakeUp
import SingBox.Ebpf.BypassRefresh
import SingBox.Ebpf.RedirectTable
import SingBox.Ebpf.SharedNetwork
import SingBox.ExpiringMap.Cleaner
import SingBox.FakeIP.Agreement
import SingBox.FakeIP.Store
import SingBox.Group.LoadBalance
import SingBox.Group.UrlTest
import SingBox.Hysteria2.RealmSession
import SingBox.Naive.PaddingConn
import SingBox.Ninja.Conn
import SingBox.Ninja.OneShotPacketConn
import SingBox.Provider.Remote
import SingBox.Route.Flags
import SingBox.Route.Formula
import SingBox.Routing.ConnectionManager
import SingBox.Routing.PreMatchAgreement
import SingBox.Sniff.Retransmission
import SingBox.Srs.Compile
import SingBox.Ssmapi.UserManager
import SingBox.TlsFragment.Records
import SingBox.Transport.MuxDelivery
import SingBox.Transport.PoolLeaks
import SingBox.Transport.PoolReader
import SingBox.V2Ray.GunConn
