import HwcSession.Basic
import HwcSession.PowerHint.Service
import HwcSession.PowerHint.Binary32
import HwcSession.PowerHint.Worker
import HwcSession.PowerHint.Frame
import HwcSession.PowerHint.Tracking
import HwcSession.PowerHint.Handover
import HwcSession.PowerHint.Thread
import HwcSession.Session.State
import HwcSession.Session.Concurrency
import HwcSession.Session.Hotplug
import HwcSession.Session.Ops
import HwcSession.Session.SlotTable
import HwcSession.Session.Effects
import HwcSession.Session.Layout
import HwcSession.Session.Exclusion
import HwcSession.Session.RateHint
import HwcSession.Session.Bounds
import HwcSession.Session.QService
import HwcSession.Session.Query
import HwcSession.Session.Teardown
import HwcSession.Session.Checked
import HwcSession.UEvent.CString
import HwcSession.UEvent.Parse
import HwcSession.UEvent.Format
import HwcSession.UEvent.Handler
import HwcSession.Pipeline.Frame
import HwcSession.Pipeline.Sequence
import HwcSession.Pipeline.PanelReset
