import Ngpool.Go
import Ngpool.Hex
import Ngpool.Sha256d
import Ngpool.Job
import Ngpool.AlgoVersion
import Ngpool.MerkleLoop
import Ngpool.NewJob
import Ngpool.Solve
import Ngpool.SolveOrder
import Ngpool.Stratum
import Ngpool.Flush
import Ngpool.TemplateOrder
import Ngpool.Service.Watcher
import Ngpool.Service.KeepAlive
import Ngpool.Service.Discovery
import Ngpool.Service.ShareChain
