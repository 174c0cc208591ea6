import GoXLR.Usb.Frame
import GoXLR.Usb.Device
import GoXLR.Usb.Wire
import GoXLR.Usb.Errors
import GoXLR.Usb.Recovery
import GoXLR.Usb.Transport
import GoXLR.Usb.Discovery
import GoXLR.Usb.Timing
import GoXLR.Profile.CFloat
import GoXLR.Profile.Hardtune
import GoXLR.Profile.Settings
import GoXLR.Profile.Dispatch
import GoXLR.Profile.Panics
import GoXLR.Profile.LoadPreset
import GoXLR.Profile.Samples
import GoXLR.Profile.Tags
import GoXLR.Profile.Accessors
import GoXLR.Profile.SelectedPreset
import GoXLR.Profile.Simple
