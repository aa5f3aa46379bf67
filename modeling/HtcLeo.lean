import HtcLeo.Pcom.FailClosed
import HtcLeo.Clock.Lookup
import HtcLeo.Charging.Evidence
import HtcLeo.Interrupt.Lines
import HtcLeo.Keypad.Delivery
import HtcLeo.Keypad.Repeat
import HtcLeo.Acpu.Switch
import HtcLeo.Console.Bounds
import HtcLeo.I2c.History
import HtcLeo.I2c.Words
import HtcLeo.Pstore.Log
import HtcLeo.Sd.Leftovers
import HtcLeo.Sd.Boot
import HtcLeo.Sd.Range
import HtcLeo.Smem.Versions
import HtcLeo.Keypad.Bitmaps
import HtcLeo.Keypad.Press
import HtcLeo.Keypad.Atomic
import HtcLeo.Keypad.Reading
import HtcLeo.Keypad.KeyQueue
import HtcLeo.Keypad.Led
import HtcLeo.Interrupt.Unregister
import HtcLeo.Gpio.Banks
import HtcLeo.Gpio.Pins
import HtcLeo.Timer.Delay
import HtcLeo.Timer.Period
import HtcLeo.Timer.VirtualClock
import HtcLeo.Smem.Readers
import HtcLeo.Smem.FlashTable
import HtcLeo.Smem.PartitionMap
import HtcLeo.Platform.Carved
import HtcLeo.Console.Interrupts
import HtcLeo.Sd.Adm
import HtcLeo.Charging.Gauge
import HtcLeo.Tetris.Core
import HtcLeo.GraphicsConsole.Cursor
import HtcLeo.GraphicsConsole.Display
import HtcLeo.GraphicsConsole.Edges
import HtcLeo.ConSplitter.Calls
import HtcLeo.ConSplitter.Numbers
import HtcLeo.ConSplitter.System
