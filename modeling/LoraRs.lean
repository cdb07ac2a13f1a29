import LoraRs.Lib.Checked
import LoraRs.Lib.Transition
import LoraRs.Lib.Sampling
import LoraRs.Lib.Bytes
import LoraRs.Encoding.Types
import LoraRs.Encoding.Keys
import LoraRs.Encoding.SecurityHelpers
import LoraRs.Encoding.Parser
import LoraRs.Encoding.Creator
import LoraRs.Encoding.MacCommands
import LoraRs.Encoding.Certification
import LoraRs.Region.Regions
import LoraRs.Region.Dynamic
import LoraRs.Region.JoinChannels
import LoraRs.Region.Fixed
import LoraRs.Region.Configuration
import LoraRs.Region.Masks
import LoraRs.Region.Channels
import LoraRs.Encoding.Multicast
import LoraRs.Encoding.Streams
import LoraRs.Encoding.DataFrames
import LoraRs.Mac.Configuration
import LoraRs.Mac.Uplink
import LoraRs.Mac.Certification
import LoraRs.Mac.Multicast
import LoraRs.Mac.Commands
import LoraRs.Mac.Session
import LoraRs.Mac.Otaa
import LoraRs.Mac.Mac
import LoraRs.Lib.CounterLog
import LoraRs.Mac.Received
import LoraRs.Mac.FrameCounter
import LoraRs.Mac.Authentication
import LoraRs.Mac.Blocks
import LoraRs.Mac.Answers
import LoraRs.Region.Walk
import LoraRs.Mac.Settings
import LoraRs.Mac.DynamicChannels
import LoraRs.Mac.FixedChannels
import LoraRs.Mac.Runs
import LoraRs.Mac.Safety
import LoraRs.Mac.Parameters
import LoraRs.Mac.JoinAccept
import LoraRs.Mac.Frequencies
import LoraRs.Mac.Power
import LoraRs.Mac.SendSafety
import LoraRs.Mac.MulticastFrames
import LoraRs.Mac.Responses
import LoraRs.Mac.Sending
import LoraRs.Mac.Timing
import LoraRs.Lib.Procedure
import LoraRs.AsyncDevice.Radio
import LoraRs.AsyncDevice.Device
import LoraRs.AsyncDevice.Steps
import LoraRs.AsyncDevice.Runs
import LoraRs.AsyncDevice.Conversions
import LoraRs.AsyncDevice.Windows
import LoraRs.AsyncDevice.Stray
import LoraRs.Encoding.JoinFrames
import LoraRs.LoraPhy.ColdStart
import LoraRs.LoraPhy.LoRa
import LoraRs.LoraPhy.Radio
import LoraRs.LoraPhy.SleepTracking
import LoraRs.Mac.Acknowledgments
import LoraRs.Mac.AnswerQueue
import LoraRs.Mac.AnswerRuns
import LoraRs.Mac.BackOff
import LoraRs.Mac.UplinkFrames
import LoraRs.Region.JoinRuns
import LoraRs.Region.JoinWalk
import LoraRs.Region.MaskControl
import LoraRs.AsyncDevice.Intervals
import LoraRs.AsyncDevice.Rearming
import LoraRs.Encoding.GroupStatus
import LoraRs.Encoding.InPlace
import LoraRs.Mac.MulticastSetup
import LoraRs.Lib.Buffers
import LoraRs.Lib.Fields
import LoraRs.Encoding.CreatorAnswers
import LoraRs.Lib.Integers
import LoraRs.Lib.Rounding
import LoraRs.Lib.Text
import LoraRs.Lib.Format
import LoraRs.LoraModulation.Params
import LoraRs.LoraModulation.TimeOnAir
import LoraRs.LoraPhy.Sx126x
import LoraRs.LoraPhy.PllSteps
import LoraRs.LoraPhy.RetentionList
import LoraRs.LoraPhy.LorawanRadio
import LoraRs.AsyncDevice.Modes
import LoraRs.Encoding.TextFormat
import LoraRs.Encoding.CipherLimits
import LoraRs.Mac.AppCounter
import LoraRs.Mac.UplinkSerde
import LoraRs.NbDevice.Device
import LoraRs.NbDevice.Runs
import LoraRs.NbDevice.Timing
import LoraRs.Lib.StackLedger
import LoraRs.NbDevice.Law
import LoraRs.Mac.Network
import LoraRs.Mac.NetworkRuns
import LoraRs.Mac.Delivery
import LoraRs.Lib.Numbering
import LoraRs.AsyncDevice.Kept
import LoraRs.AsyncDevice.InSession
import LoraRs.AsyncDevice.UplinkCounters
import LoraRs.AsyncDevice.NetworkRuns
import LoraRs.Mac.Groups
import LoraRs.Lib.Machines
import LoraRs.FrontEnds.Exchange
import LoraRs.FrontEnds.Nb
import LoraRs.FrontEnds.Async
import LoraRs.FrontEnds.Agreement
