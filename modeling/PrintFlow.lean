import PrintFlow.Library.DataStream
import PrintFlow.Library.FileStore
import PrintFlow.Core.PrintOutput
import PrintFlow.Core.RasterSpool.Header
import PrintFlow.Core.RasterSpool.Reader
import PrintFlow.Core.RasterSpool.Writer
import PrintFlow.Core.RasterSpool.RoundTrip
import PrintFlow.Core.RasterSpool.Tamper
import PrintFlow.PrinterService.Protocol
import PrintFlow.Library.Runs
import PrintFlow.PrinterService.Server
import PrintFlow.PrinterService.Serialization
import PrintFlow.PrinterService.Ledger
import PrintFlow.PrinterService.Uploads
import PrintFlow.Library.Interaction
import PrintFlow.Vendor.Nocai.DirectPrintClient
import PrintFlow.Vendor.Nocai.PrintSession
import PrintFlow.Library.Plane
import PrintFlow.Library.RowScan
import PrintFlow.Rip.Screening
import PrintFlow.Rip.BoundedRasterPipeline
import PrintFlow.Rip.MultiInkScreenEngine
import PrintFlow.Rip.Screen
import PrintFlow.Rip.StripScreening
import PrintFlow.Vendor.Nocai.JobOrigin
import PrintFlow.Library.World
import PrintFlow.Vendor.Nocai.SdkLibrary
import PrintFlow.Vendor.Nocai.SdkLifecycle
import PrintFlow.Vendor.Nocai.Submission
import PrintFlow.Vendor.Nocai.CancelExit
import PrintFlow.Vendor.Nocai.Cancellation
import PrintFlow.Vendor.Nocai.SpooledCancellation
import PrintFlow.Vendor.Nocai.PrnAgreement
import PrintFlow.Library.Framing
import PrintFlow.PrinterService.Frames
import PrintFlow.Library.LineStore
import PrintFlow.PrinterService.Codecs
import PrintFlow.Vendor.Nocai.WorkerJob
import PrintFlow.PrinterService.Accounting
import PrintFlow.Library.Json
import PrintFlow.Core.PrintJobModel
import PrintFlow.Core.PrintJobRoundTrip
import PrintFlow.Core.RasterSpool.Opened
import PrintFlow.Vendor.Nocai.PrnFromSpool
import PrintFlow.Vendor.Nocai.PrnFailure
import PrintFlow.Core.RasterSpool.Lifecycle
import PrintFlow.Vendor.Nocai.Maintenance
import PrintFlow.Vendor.Nocai.SubmittedJobs
import PrintFlow.PrinterService.BackendCommands
import PrintFlow.PrinterService.ClientUpload
import PrintFlow.PrinterService.Release
import PrintFlow.Rip.InkPresence
import PrintFlow.Rip.ToneMonotonicity
import PrintFlow.Rip.MultiInkLinearization
import PrintFlow.Rip.MultiInkToneBuilder
import PrintFlow.Rip.InkSplit
import PrintFlow.Rip.NeutralFade
import PrintFlow.Rip.CanonicalCmykFile
import PrintFlow.Rip.PrintJobMultiInk
import PrintFlow.Rip.ToneStrips
import PrintFlow.Rip.CurveLoading
import PrintFlow.Rip.NeutralTransfer
import PrintFlow.Rip.WhiteUnderbase
import PrintFlow.Library.History
import PrintFlow.Rip.ImageEditor
import PrintFlow.Rip.EditorHistory
import PrintFlow.Vendor.Nocai.ArmCommandTag
import PrintFlow.Vendor.Nocai.Calibration
import PrintFlow.Library.Decimal
import PrintFlow.Vendor.Nocai.StaleLocks
import PrintFlow.Library.Paths
import PrintFlow.Core.JobFiles
import PrintFlow.Rip.ImagePhysicalSize
import PrintFlow.Rip.RepeatedOutput
import PrintFlow.Rip.PlaneInks
import PrintFlow.Rip.InkIdentity
import PrintFlow.Rip.X33WhiteToneBuilder
import PrintFlow.Rip.PrintJobCMYK
import PrintFlow.Rip.X33Strips
import PrintFlow.Library.Schema
import PrintFlow.Core.ColorManagementManager
import PrintFlow.Core.NormalizedSettings
import PrintFlow.Core.SettingsRestart
import PrintFlow.Rip.PackedRows
import PrintFlow.Library.Interpolation
import PrintFlow.Rip.TransferTable
import PrintFlow.Library.CheckedArithmetic
import PrintFlow.Rip.StoragePreflight
import PrintFlow.Library.RecordWalk
import PrintFlow.Vendor.Nocai.ElfBuildId
import PrintFlow.PrinterService.Connections
import PrintFlow.PrinterService.Replies
import PrintFlow.PrinterService.SpooledUpload
import PrintFlow.Rip.RasterStrategy
import PrintFlow.Rip.StrategyIndependence
import PrintFlow.Library.Threads
import PrintFlow.Vendor.Nocai.DirectPrintCompatibility
import PrintFlow.Vendor.Nocai.ArmInstructionPatches
import PrintFlow.Vendor.Nocai.PromiscuousReceive
import PrintFlow.PrinterService.Instances
import PrintFlow.PrinterService.Restart
import PrintFlow.Core.AssetManager
import PrintFlow.Rip.RuntimeAssets
