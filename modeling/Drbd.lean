import Drbd.ReqState
import Drbd.ReqMod
import Drbd.ReqRouter
import Drbd.ReqLifecycle
import Drbd.ReqCompletion
import Drbd.ReqDestroy
import Drbd.ReqQueues
import Drbd.ReqAccounting
import Drbd.ReqFrame
import Drbd.ReqSystem
import Drbd.Send
import Drbd.TransferLog
import Drbd.Bitmap
import Drbd.ReqTimer
import Drbd.ReqReadPath
import Drbd.ReqStatus
import Drbd.ReqPairing
import Drbd.ReqChecks
import Drbd.Handshake
import Drbd.ReqEpochSize
import Drbd.DataPath
import Drbd.MetaData
import Drbd.BlockDev
import Drbd.SendTimer
