import Aeraki.Proof.Xds.Missed
import Aeraki.Proof.Istio.Filter
import Aeraki.Proof.Xds.FailedRead
import Aeraki.Proof.Xds.Streams
import Aeraki.Framework.GoMap
import Aeraki.Proof.Dubbo.Build
import Aeraki.Proof.EnvoyFilter.Hostless
import Aeraki.Proof.Kube.Vip
import Aeraki.Impl.EnvoyFilter.Controller
import Aeraki.Proof.EnvoyFilter.Orders
import Aeraki.Proof.Xds.Routing
import Aeraki.Proof.MetaProtocol.RateLimit
import Aeraki.Proof.EnvoyFilter.NetworkFilter
import Aeraki.Proof.MetaProtocol.Served
import Aeraki.Proof.MetaProtocol.PortNames
import Aeraki.Proof.EnvoyFilter.Listeners
import Aeraki.Proof.EnvoyFilter.Destinations
import Aeraki.Proof.EnvoyFilter.Ports
import Aeraki.Proof.EnvoyFilter.Selector
import Aeraki.Proof.EnvoyFilter.FailedRead
import Aeraki.Proof.MetaProtocol.Gateway
import Aeraki.Framework.Matcher
import Aeraki.Proof.Redis.Credentials
import Aeraki.Proof.Redis.Mirrors
import Aeraki.Proof.Redis.Ports
import Aeraki.Proof.Redis.Cluster
import Aeraki.Proof.EventLoop
import Aeraki.Proof.EnvoyFilter.Export
import Aeraki.Proof.Kube.Codecs
import Aeraki.Proof.Dubbo.Outbound
import Aeraki.Proof.Dubbo.Routes
import Aeraki.Proof.Dubbo.Policy
import Aeraki.Proof.Dubbo.Authorization
import Aeraki.Proof.Kube.Restart
import Aeraki.Proof.Kube.Stability
import Aeraki.Proof.Kube.Swallowed
import Aeraki.Proof.LeaderElection.Leader
import Aeraki.Framework.Dns
import Aeraki.Proof.Webhook.Warnings
import Aeraki.Proof.Kube.Addresses
import Aeraki.Proof.Webhook.Fqdn
import Aeraki.Proof.EnvoyFilter.Names
import Aeraki.Framework.Watch
import Aeraki.Proof.EnvoyFilter.Replicas
import Aeraki.Proof.Dubbo.Verdict
import Aeraki.Proof.Bootstrap.NoPanic
import Aeraki.Proof.Kube.Convergence
import Aeraki.Proof.Webhook.Gate
import Aeraki.Proof.MetaProtocol.Limits
