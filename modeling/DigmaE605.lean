import DigmaE605.Interaction.Program
import DigmaE605.Interaction.Footprint
import DigmaE605.Interaction.Session
import DigmaE605.Interaction.Machine
import DigmaE605.Interaction.Monitor
import DigmaE605.Interaction.Extension
import DigmaE605.Interaction.World
import DigmaE605.Arithmetic.Int32
import DigmaE605.Arithmetic.Binary64
import DigmaE605.Text.Decimal
import DigmaE605.Text.TextFile
import DigmaE605.Hardware.Platform
import DigmaE605.Hardware.FileAccess
import DigmaE605.Hardware.Refresh
import DigmaE605.Hardware.Detection
import DigmaE605.Hardware.Capabilities
import DigmaE605.Hardware.Calls
import DigmaE605.Hardware.Effects
import DigmaE605.Hardware.Device
import DigmaE605.Hardware.Handles
import DigmaE605.Hardware.FirstDetection
import DigmaE605.Hardware.EinkModeControl
import DigmaE605.Hardware.BacklightControl
import DigmaE605.Hardware.RefreshProbe
import DigmaE605.Hardware.BacklightRestore
import DigmaE605.Hardware.Knowledge
import DigmaE605.Hardware.Refinement
import DigmaE605.Hardware.Probing
import DigmaE605.Hardware.Settling
import DigmaE605.Hardware.KoboSleep
import DigmaE605.Clock.Digits
import DigmaE605.Clock.Animation
import DigmaE605.Clock.Painting
import DigmaE605.Clock.Bounds
import DigmaE605.Clock.Painter
import DigmaE605.Clock.Canvas
import DigmaE605.Clock.Motion
import DigmaE605.Clock.Lettering
import DigmaE605.Clock.DigiFlip
import DigmaE605.Clock.Layout
import DigmaE605.Clock.Drawing
import DigmaE605.Clock.Readings
import DigmaE605.Clock.Frames
import DigmaE605.KeyPress.Label
