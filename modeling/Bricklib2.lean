import Bricklib2.Bootloader.ReceiveIrq
import Bricklib2.Bootloader.TransmitIrq
import Bricklib2.Hal.Ccu4Timer
import Bricklib2.Hal.I2cFifo
import Bricklib2.Hal.SpiFifo
import Bricklib2.Library.BinaryOnes
import Bricklib2.Library.BoundedQueue
import Bricklib2.Library.Brent
import Bricklib2.Library.CInt
import Bricklib2.Library.CString
import Bricklib2.Library.Cells
import Bricklib2.Library.CyclicScan
import Bricklib2.Library.DigitRoot
import Bricklib2.Library.Fallible
import Bricklib2.Library.FlagLock
import Bricklib2.Library.LastInputs
import Bricklib2.Library.LossyPipe
import Bricklib2.Library.Program
import Bricklib2.Library.Rounding
import Bricklib2.Library.SkipList
import Bricklib2.Protocols.Base58
import Bricklib2.Tng.Communication
import Bricklib2.Tng.Delivery
import Bricklib2.Tng.EnergyMonitor
import Bricklib2.Tng.Firmware
import Bricklib2.Tng.RequestBuffer
import Bricklib2.Tng.Responses
import Bricklib2.Tng.UsbTransmit
import Bricklib2.Tng.WriteFirmware
import Bricklib2.Utility.CallbackRuns
import Bricklib2.Utility.CallbackTrigger
import Bricklib2.Utility.CommunicationCallback
import Bricklib2.Utility.Crc32
import Bricklib2.Utility.MovingAverage
import Bricklib2.Utility.MovingAverageRuns
import Bricklib2.Utility.RingbufferQueue
import Bricklib2.Utility.RingbufferRemove
import Bricklib2.Utility.Sqrt
import Bricklib2.Warp.ContactorCheck
import Bricklib2.Warp.DetectionRestart
import Bricklib2.Warp.EltakoDerived
import Bricklib2.Warp.FrameErrors
import Bricklib2.Warp.Freshness
import Bricklib2.Warp.MeterDecode
import Bricklib2.Warp.MeterHandOver
import Bricklib2.Warp.MeterResponse
import Bricklib2.Warp.MeterSource
import Bricklib2.Warp.MeterSourceDrivers
import Bricklib2.Warp.MeterSourceRuns
import Bricklib2.Warp.MeterValues
import Bricklib2.Warp.MeterWatchdog
import Bricklib2.Warp.RegisterScan
import Bricklib2.Warp.RequestOutcome
import Bricklib2.Warp.StateClock
import Bricklib2.Warp.SystemTypeChange
import Bricklib2.Warp.Wem.CardCapacity
import Bricklib2.Warp.Wem.DataFile
import Bricklib2.Warp.Wem.DataStorage
import Bricklib2.Warp.Wem.GetterStream
import Bricklib2.Warp.Wem.LastWrite
import Bricklib2.Warp.Wem.LfsAlloc
import Bricklib2.Warp.Wem.LfsAllocRuns
import Bricklib2.Warp.Wem.LfsBd
import Bricklib2.Warp.Wem.LfsBdProg
import Bricklib2.Warp.Wem.LfsBdRead
import Bricklib2.Warp.Wem.LfsBdRuns
import Bricklib2.Warp.Wem.LfsCtz
import Bricklib2.Warp.Wem.LfsCtzList
import Bricklib2.Warp.Wem.LfsExtend
import Bricklib2.Warp.Wem.LfsFile
import Bricklib2.Warp.Wem.LfsFs
import Bricklib2.Warp.Wem.LfsState
import Bricklib2.Warp.Wem.LfsTraverse
import Bricklib2.Warp.Wem.MissingFile
import Bricklib2.Warp.Wem.NoExistCache
import Bricklib2.Warp.Wem.PageInvariant
import Bricklib2.Warp.Wem.PathBuffer
import Bricklib2.Warp.Wem.ReadBack
import Bricklib2.Warp.Wem.SdContent
import Bricklib2.Warp.Wem.SdFiles
import Bricklib2.Warp.Wem.SdFormat
import Bricklib2.Warp.Wem.SdHandles
import Bricklib2.Warp.Wem.SdInit
import Bricklib2.Warp.Wem.SdQueues
import Bricklib2.Warp.Wem.SdRead
import Bricklib2.Warp.Wem.SdStatus
import Bricklib2.Warp.Wem.SdTask
import Bricklib2.Warp.Wem.SdWrite
import Bricklib2.Warp.Wem.Sdmmc
import Bricklib2.Warp.Wem.SdmmcSpi
import Bricklib2.Warp.Wem.SdmmcSpiChannel
import Bricklib2.Warp.Wem.SdmmcSpiInPlace
import Bricklib2.Warp.Wem.SdmmcSpiOnce
import Bricklib2.Warp.Wem.SdmmcTermination
import Bricklib2.Warp.Wem.LfsFileFlush
import Bricklib2.Warp.Wem.LfsFileRuns
