import Chip8.Instruction.Listing
import Chip8.Instruction.Template
import Chip8.Machine.Build
import Chip8.Machine.Cycle
import Chip8.Main
import Chip8.Settings.Reader
import Chip8.Startup
import Chip8.Window
import Chip8.Yaml.Document
import Chip8.Proofs.Action
import Chip8.Proofs.Registers
import Chip8.Proofs.CallStack
import Chip8.Proofs.Machine.Effect
import Chip8.Proofs.Machine.Cycle
import Chip8.Proofs.Machine.History
import Chip8.Proofs.Machine.Bounds
import Chip8.Proofs.Instruction.Listed
import Chip8.Proofs.Machine.Failure
import Chip8.Proofs.Ideal
import Chip8.Proofs.Screen
import Chip8.Proofs.View
import Chip8.Proofs.Machine.Abstraction
import Chip8.Proofs.Keypad
import Chip8.Proofs.HostKey
import Chip8.Proofs.Machine.Refinement
import Chip8.Proofs.Machine.Aftermath
import Chip8.Proofs.Machine.Course
import Chip8.Proofs.Machine.Subroutine
import Chip8.Proofs.Machine.Store
import Chip8.Proofs.Machine.Draws
import Chip8.Proofs.Machine.Timer
import Chip8.Proofs.Machine.Halting
import Chip8.Proofs.Window.Pace
import Chip8.Proofs.Machine.Part
import Chip8.Proofs.Window.Trace
import Chip8.Proofs.Window.TickRate
import Chip8.Proofs.Window.Keys
import Chip8.Proofs.Window.Stop
import Chip8.Proofs.Window.Picture
import Chip8.Proofs.CommandLine
import Chip8.Proofs.Settings
import Chip8.Proofs.Startup
import Chip8.Proofs.Startup.Precedence
import Chip8.Proofs.Instruction.Template
import Chip8.Proofs.Numeral.Padded
import Chip8.Proofs.Instruction.Listing
import Chip8.Proofs.Settings.Acceptance
import Chip8.Proofs.Screen.Hits
import Chip8.Proofs.Screen.Sequence
import Chip8.Proofs.Machine.Redraw
import Chip8.Proofs.Machine.SaveRestore
import Chip8.Proofs.Machine.KeyWait
import Chip8.Proofs.Machine.Access
import Chip8.Proofs.Registers.Flag
import Chip8.Proofs.Machine.Remarks
import Chip8.Proofs.Window.Share
import Chip8.Proofs.Registers.Whole
import Chip8.Proofs.HostKey.Translation
import Chip8.Proofs.Window.Report
import Chip8.Proofs.Settings.Order
import Chip8.Proofs.Window.Reach
import Chip8.Proofs.CallStack.Sequence
import Chip8.Proofs.Startup.Loading
import Chip8.Proofs.Settings.Notation
