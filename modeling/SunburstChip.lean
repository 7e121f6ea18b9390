import SunburstChip.Dif.AonTimerLock
import SunburstChip.Dif.SpiHostFraming
import SunburstChip.Lib.Interleaving
import SunburstChip.Dif.SpiHostFifos
import SunburstChip.Dif.Usbdev
import SunburstChip.Lib.Custody
import SunburstChip.Dif.UsbdevBuffers
import SunburstChip.Base.Status
import SunburstChip.Dif.UsbdevEndpoints
import SunburstChip.Lib.Code
import SunburstChip.Testing.Base
import SunburstChip.Testing.UsbTestutils
import SunburstChip.Testing.UsbEndpointSetup
import SunburstChip.Dif.UsbdevPackets
import SunburstChip.Dif.UsbdevRegisters
import SunburstChip.Testing.UsbStreams
import SunburstChip.Testing.UsbStreamsPackets
import SunburstChip.Lib.ArrayQueue
import SunburstChip.Testing.UsbStreamsQueue
import SunburstChip.Testing.UsbStreamsRuns
import SunburstChip.Testing.UsbStreamsInit
import SunburstChip.Testing.UsbStreamsResume
import SunburstChip.Dif.SpiHostProgress
import SunburstChip.Dif.Uart
import SunburstChip.Dif.UartPolled
import SunburstChip.Testing.OttfConsole
import SunburstChip.Testing.OttfConsoleHandler
import SunburstChip.Testing.OttfConsoleRuns
import SunburstChip.Testing.OttfConsoleIrq
import SunburstChip.Testing.OttfConsoleWire
import SunburstChip.Lib.Segments
import SunburstChip.Testing.UsbTransfersRuns
import SunburstChip.Base.Crc32
import SunburstChip.Lib.Routine
import SunburstChip.Base.Math
import SunburstChip.Ujson.Basic
import SunburstChip.Runtime.Print
import SunburstChip.Ujson.Derive
import SunburstChip.Ujson.RunningCrc
import SunburstChip.Ujson.Reads
import SunburstChip.Ujson.NumberText
import SunburstChip.Ujson.StringText
import SunburstChip.Ujson.StatusText
import SunburstChip.Ujson.StatusSurvival
import SunburstChip.Testing.UjsonOttf
import SunburstChip.Dif.TimerCounts
import SunburstChip.Dif.UsbdevConfigure
import SunburstChip.Dif.SpiHostBadArg
import SunburstChip.Dif.UsbdevChunks
import SunburstChip.Testing.UsbSimpleserial
import SunburstChip.Testing.UsbSimpleserialPort
import SunburstChip.Testing.UsbSimpleserialRuns
import SunburstChip.Testing.UsbControlEp
import SunburstChip.Testing.UsbControlEvents
import SunburstChip.Testing.UsbControlRuns
import SunburstChip.Testing.UsbControlHalt
import SunburstChip.Testing.UsbControlHaltRuns
import SunburstChip.Runtime.Format
import SunburstChip.Runtime.Vfprintf
import SunburstChip.Runtime.Log
import SunburstChip.Runtime.Hexdump
import SunburstChip.Runtime.HexdumpTexts
import SunburstChip.Runtime.HexdumpLayout
import SunburstChip.Runtime.HexdumpSinks
import SunburstChip.Dif.I2c
import SunburstChip.Lib.Transcript
import SunburstChip.Testing.I2cTargetSmbusArp
import SunburstChip.Testing.I2cTargetSmbusArpKeeps
import SunburstChip.Testing.I2cTargetSmbusArpRuns
import SunburstChip.Testing.I2cTargetSmbusArpCommands
import SunburstChip.Dif.UsbdevFill
import SunburstChip.Scratch.PlatformUsbdev
import SunburstChip.Scratch.UsbdevUtils
import SunburstChip.Dif.UsbdevBus
import SunburstChip.Lib.Bitmap
import SunburstChip.Lib.Noted
import SunburstChip.Scratch.UsbdevUtilsBuffers
import SunburstChip.Scratch.UsbdevUtilsRuns
import SunburstChip.Scratch.UsbdevUtilsControl
import SunburstChip.Ujson.PrimitiveRoundTrip
import SunburstChip.Runtime.Widths
import SunburstChip.Base.Memory
import SunburstChip.Base.MemoryBytewise
import SunburstChip.Base.MemorySearch
import SunburstChip.Lib.TwoRuns
import SunburstChip.Runtime.Snprintf
import SunburstChip.Ujson.Accepts
import SunburstChip.Ujson.StatusStack
import SunburstChip.Ujson.SinkErrors
import SunburstChip.Ujson.SameInput
import SunburstChip.Ujson.ArrayText
import SunburstChip.Ujson.Stores
import SunburstChip.Testing.MemCommands
import SunburstChip.Testing.MemResponses
import SunburstChip.Base.MemcpyRegion
import SunburstChip.Dif.UsbdevRaw
import SunburstChip.Dif.I2cTiming
import SunburstChip.Dif.I2cFmtFifo
import SunburstChip.Testing.I2cTestutils
import SunburstChip.Testing.I2cTestutilsWrite
import SunburstChip.Dif.SpiHostUnpack
import SunburstChip.Dif.SpiHostPack
import SunburstChip.Dif.I2cBus
import SunburstChip.Dif.I2cBusStates
import SunburstChip.Testing.I2cTestutilsRead
import SunburstChip.Dif.SpiHostConfigure
import SunburstChip.Dif.AonTimerThresholds
import SunburstChip.Dif.RvTimerTicks
import SunburstChip.Dif.UartConfigure
import SunburstChip.Dif.Gpio
import SunburstChip.Dif.GpioTriggers
import SunburstChip.Dif.RvCoreIbex
import SunburstChip.Dif.UsbdevStatus
import SunburstChip.Testing.UsbStreamsDrops
import SunburstChip.Testing.UsbStreamsTotals
import SunburstChip.Lib.Crc
import SunburstChip.Testing.SmbusPec
import SunburstChip.Lib.Generator
import SunburstChip.Runtime.Digits
import SunburstChip.Testing.AonTimerTestutils
import SunburstChip.Testing.RandTestutils
import SunburstChip.Testing.RandTestutilsShuffle
import SunburstChip.Dif.Pwm
import SunburstChip.Dif.Pattgen
import SunburstChip.Lib.Strip
import SunburstChip.Lib.Utf8
import SunburstChip.Scratch.UsbdevTransfer
import SunburstChip.Util.ExtractSwLogs
import SunburstChip.Util.ExtractSwLogsLookup
import SunburstChip.Testing.I2cTargetSmbusArpReset
import SunburstChip.Dif.RvPlicServed
import SunburstChip.Hw.XbarMain
import SunburstChip.Hw.UartLinkBytes
import SunburstChip.Hw.Sram
