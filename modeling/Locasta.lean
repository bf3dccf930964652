import Locasta.Copyrpc.Rc.FlowControl
import Locasta.Copyrpc.Rc.Matching
import Locasta.Copyrpc.Rc.Context
import Locasta.Copyrpc.Dc.EmissionFailure
import Locasta.Copyrpc.Dc.FlowControl
import Locasta.Copyrpc.Dc.Matching
import Locasta.Mlx5.CompletionQueue
import Locasta.Mlx5.TmSrq
import Locasta.Copyrpc.Dc.Receive
import Locasta.Mempc.UserData
import Locasta.Ipc.Matching
import Locasta.Copyrpc.Dc.Signaling
import Locasta.Mempc.FetchAdd
import Locasta.Mempc.Lamport
import Locasta.Aggfs.Isolation
import Locasta.Aggfs.Unlink
import Locasta.Aggfs.ReadYourWrites
import Locasta.Scalerpc.Warmup
import Locasta.Scalerpc.CreditStatus
import Locasta.Scalerpc.FetchErrors
import Locasta.Scalerpc.RoundRobin
import Locasta.Scalerpc.ResponseSlots
import Locasta.Scalerpc.DirectCalls
import Locasta.Scalerpc.MessageBlock
import Locasta.Mempc.BbqSequential
import Locasta.Mempc.BbqReply
import Locasta.Mempc.JiffyOrder
import Locasta.Copyrpc.Dc.FlushEndpoints
import Locasta.Copyrpc.Rc.Cycles
import Locasta.Copyrpc.Rc.RawRdma
import Locasta.Copyrpc.Rc.Reservation
import Locasta.Aggfs.EventLoop
import Locasta.Benchkv.Forwarding
import Locasta.Aggfs.PathIdentity
import Locasta.Benchkv.Slots
import Locasta.Mempc.Scq
import Locasta.Fastmap
