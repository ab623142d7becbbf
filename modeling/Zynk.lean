import Zynk.Agent.Observation
import Zynk.Agent.ReadBack
import Zynk.Api.CallerSound
import Zynk.Api.CodexWalk
import Zynk.Api.Prompt
import Zynk.Api.StatusRuns
import Zynk.Client.InputOrder
import Zynk.Config.KeybindSound
import Zynk.Copy.Resized
import Zynk.Detect.RegionSound
import Zynk.Embed.Retries
import Zynk.Input.Lease
import Zynk.Input.Legacy
import Zynk.Input.Malformed
import Zynk.Input.Mouse
import Zynk.Input.RoundTrip
import Zynk.Input.SplitReport
import Zynk.Layout.Borders
import Zynk.Layout.Directional
import Zynk.Message.Header
import Zynk.Message.Timestamp
import Zynk.Pane.Clipped
import Zynk.Pane.DetectionAnnounced
import Zynk.Pane.DetectionExit
import Zynk.Pane.DetectionSkip
import Zynk.Pane.GraphicsSound
import Zynk.Pane.OscAgreement
import Zynk.Pane.XtgettcapSound
import Zynk.Persist.Aliases
import Zynk.Persist.LaunchIdentity
import Zynk.Platform.ShellCommandSound
import Zynk.Protocol.RenderAnsiSound
import Zynk.Pty.Delivery
import Zynk.Retrieval.FusionSound
import Zynk.Server.AltScreenViewport
import Zynk.Server.AttachSound
import Zynk.Server.PasteDisconnect
import Zynk.Server.RenderFaithful
import Zynk.Server.WriterQueue
import Zynk.Store.Conversation
import Zynk.Store.ReceiptWorker
import Zynk.Store.RelocateRuns
import Zynk.Terminal.Evidence
import Zynk.Terminal.ExitFence
import Zynk.Terminal.HistoryStitch
import Zynk.Terminal.Presentation
import Zynk.Terminal.Reclaim
import Zynk.Workspace.History
import Zynk.Workspace.PublicIds
import Zynk.Workspace.Undo
