import Lgnome.Media.CaptureBarrier
import Lgnome.Rdpecam.StartStop
import Lgnome.Rdpecam.Conservation
import Lgnome.Rdpecam.Stale
import Lgnome.Credssp.Release
import Lgnome.Credssp.Framing
import Lgnome.Native.ReplayOrder
import Lgnome.Capture.Exclusive
import Lgnome.Audio.Rdpsnd
import Lgnome.Graphics.Order
import Lgnome.Graphics.Placement
import Lgnome.Native.Ownership
import Lgnome.Native.CanvasOwner
import Lgnome.Native.DirtyRect
import Lgnome.Audio.Playout
import Lgnome.Json.Acceptance
import Lgnome.Settings.Reachable
import Lgnome.Json.Decimal
import Lgnome.Json.Fields
import Lgnome.Settings.Apply
import Lgnome.Input.EventOrder
import Lgnome.Native.SnapshotChain
import Lgnome.Volume.Protocol
import Lgnome.Rdpeai.Incarnation
import Lgnome.Rdpeai.Formats
import Lgnome.Worker.Refresh
import Lgnome.Worker.Backpressure
import Lgnome.Input.HeldRelease
import Lgnome.Capture.H264Chain
import Lgnome.Settings.Durability
import Lgnome.Audio.Resampler
import Lgnome.Audio.JitterRun
import Lgnome.Credssp.Reader
import Lgnome.Credssp.Rejection
import Lgnome.Credssp.Sealing
import Lgnome.Credssp.AuthenticateLayout
import Lgnome.Native.AvcConvert
import Lgnome.Input.MixerRuns
import Lgnome.Camera.Waiting
import Lgnome.Native.CameraModes
import Lgnome.Input.PointerMap
import Lgnome.Logging.Levels
import Lgnome.Logging.RateLimit
import Lgnome.Cursor.Shown
import Lgnome.Audio.PlayoutEnvelope
import Lgnome.Mixing.Persisted
import Lgnome.Settings.Layering
import Lgnome.Input.Wheel
import Lgnome.Foreground.Runs
import Lgnome.Lifecycle.Contract
import Lgnome.Lifecycle.Desk
import Lgnome.Lifecycle.Runs
import Lgnome.Credssp.Handshake
import Lgnome.Transition.Fallible
import Lgnome.Transport.Framer
import Lgnome.Transport.Runs
import Lgnome.Evdev.Contract
import Lgnome.Evdev.Kept
import Lgnome.Evdev.Runs
import Lgnome.Audio.Routing
import Lgnome.Ndl.Adapter
import Lgnome.Ndl.Pipeline
import Lgnome.Ndl.Runs
import Lgnome.Preconnect.Keypad
import Lgnome.Sessions.Thread
import Lgnome.Sessions.Slot
import Lgnome.Sessions.Input
