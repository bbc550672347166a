import Jool.Basic
import Jool.Pool4.Defs
import Jool.Pool4.Nodes
import Jool.Pool4.Agreement
import Jool.Pool4.Classes
import Jool.Pool4.Ledger
import Jool.Pool4.Accounting
import Jool.Pool4.Outstanding
import Jool.Pool4.Draw
import Jool.Db.Defs
import Jool.Db.Filing
import Jool.Db.Queries
import Jool.Db.Map
import Jool.Filtering.Store
import Jool.Filtering.Ops
import Jool.Filtering.Reaper
import Jool.Filtering.Run
import Jool.Filtering.Steps
import Jool.Filtering.Invariant
import Jool.Filtering.Keys
import Jool.Filtering.Pool
import Jool.Filtering.Expiry
import Jool.Filtering.Failure
import Jool.Filtering.Deadline
import Jool.Filtering.Extract
import Jool.Filtering.LocalPort
import Jool.Filtering.Tcp
import Jool.Filtering.Lookup
import Jool.Filtering.Survival
import Jool.Filtering.Buffer
import Jool.Packet.Checksum
