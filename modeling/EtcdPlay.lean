import EtcdPlay.Lifecycle
import EtcdPlay.Mutex
import EtcdPlay.Sequential
import EtcdPlay.Alternation
import EtcdPlay.RemoteClient
import EtcdPlay.Refusal
import EtcdPlay.ChildExit
import EtcdPlay.Shutdown
import EtcdPlay.Bootstrap
import EtcdPlay.Cluster
import EtcdPlay.Status
import EtcdPlay.Load
import EtcdPlay.LogStream
import EtcdPlay.Recover
import EtcdPlay.RateLimit
import EtcdPlay.NewCluster
import EtcdPlay.Backend
import EtcdPlay.Routing
