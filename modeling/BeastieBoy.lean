import BeastieBoy.Interact.Prog
import BeastieBoy.Interact.Interrupts
import BeastieBoy.Interact.Local
import BeastieBoy.Interact.Trace
import BeastieBoy.Interact.Store
import BeastieBoy.Interact.Pool
import BeastieBoy.Interact.Handles
import BeastieBoy.CLib.Numeral
import BeastieBoy.CLib.Text
import BeastieBoy.CLib.Getopt
import BeastieBoy.Layout
import BeastieBoy.Common
import BeastieBoy.Arguments
import BeastieBoy.ArgumentRange
import BeastieBoy.Drain
import BeastieBoy.Table
import BeastieBoy.Shrink
import BeastieBoy.TableText
import BeastieBoy.ShrinkWider
import BeastieBoy.ShrinkShares
import BeastieBoy.TableDecode
import BeastieBoy.PcapWriter
import BeastieBoy.PcapSessions
import BeastieBoy.Capture
import BeastieBoy.CaptureTrace
import BeastieBoy.CaptureUndisturbed
import BeastieBoy.CaptureStop
import BeastieBoy.CaptureAccounts
import BeastieBoy.CaptureStream
import BeastieBoy.CaptureFile
import BeastieBoy.Frames
import BeastieBoy.CaptureExit
import BeastieBoy.Vapi
import BeastieBoy.Collectors
import BeastieBoy.CollectorStream
import BeastieBoy.Vpp
import BeastieBoy.AnsweringVpp
import BeastieBoy.TableRows
import BeastieBoy.SpanCmd
import BeastieBoy.MemifCmd
import BeastieBoy.PhyCmd
import BeastieBoy.VersionCmd
import BeastieBoy.SpanTrace
import BeastieBoy.SpanUnset
import BeastieBoy.SpanSet
import BeastieBoy.SpanOrder
import BeastieBoy.SpanUndisturbed
import BeastieBoy.SpanRace
import BeastieBoy.SpanShow
import BeastieBoy.SpanListing
import BeastieBoy.TableMemory
import BeastieBoy.TableGrowth
import BeastieBoy.SpanMirror
import BeastieBoy.TableCaps
import BeastieBoy.PhyShow
import BeastieBoy.CardFamily
import BeastieBoy.CardSections
import BeastieBoy.IndexCell
import BeastieBoy.CliOptions
import BeastieBoy.CliReads
import BeastieBoy.CliActions
import BeastieBoy.CliAccepts
import BeastieBoy.MemifRequest
import BeastieBoy.Interact.Blocks
import BeastieBoy.TableBlocks
import BeastieBoy.TableLife
import BeastieBoy.BeastieCli
import BeastieBoy.BeastieOptions
import BeastieBoy.Interact.Phases
import BeastieBoy.VapiSession
import BeastieBoy.SpanSessions
import BeastieBoy.CaptureSession
import BeastieBoy.CaptureReports
import BeastieBoy.CaptureErrors
import BeastieBoy.BeastieProcess
import BeastieBoy.BoyCommandLine
import BeastieBoy.CommandBlocks
import BeastieBoy.CommandLife
import BeastieBoy.BoyProcess
import BeastieBoy.BoyLog
import BeastieBoy.BeastieOutput
import BeastieBoy.BoyReports
import BeastieBoy.BoyOutput
import BeastieBoy.SpanOutput
