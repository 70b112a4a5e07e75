import Chip8.CommandLine.Arguments
import Chip8.CommandLine.Failure
import Chip8.CommandLine.Run
import Chip8.CommandLine.Session
import Chip8.CommandLine.Settings
import Chip8.CommandLine.Usage
import Chip8.Config
import Chip8.Config.Json
import Chip8.Decimal
import Chip8.Directory
import Chip8.Emulator
import Chip8.Fault
import Chip8.Frame
import Chip8.Frame.Json
import Chip8.Host
import Chip8.Instruction
import Chip8.Instruction.Decode
import Chip8.Instruction.Mnemonic
import Chip8.Json.Number
import Chip8.Json.Problem
import Chip8.Json.Quoted
import Chip8.Json.Reader
import Chip8.Json.Record
import Chip8.Json.Skip
import Chip8.Json.Writer
import Chip8.Keypad
import Chip8.Keypad.Text
import Chip8.Log.Event
import Chip8.Log.Journal
import Chip8.Log.Level
import Chip8.Log.Logger
import Chip8.Log.Window
import Chip8.Machine
import Chip8.Machine.Execute
import Chip8.Machine.Step
import Chip8.Main
import Chip8.Memory
import Chip8.Proofs.CommandLine.Playing
import Chip8.Proofs.CommandLine.Printing
import Chip8.Proofs.CommandLine.Settings
import Chip8.Proofs.Config.PartialTexts
import Chip8.Proofs.Config.RoundTrip
import Chip8.Proofs.Emulator.Frames
import Chip8.Proofs.Emulator.KeyWait
import Chip8.Proofs.Emulator.Mounting
import Chip8.Proofs.Emulator.RandomDraws
import Chip8.Proofs.Emulator.Restart
import Chip8.Proofs.Emulator.SameKeys
import Chip8.Proofs.Emulator.StandingFaults
import Chip8.Proofs.Emulator.Uses
import Chip8.Proofs.Frame.RoundTrip
import Chip8.Proofs.Instruction.Disassembly
import Chip8.Proofs.Instruction.Encoding
import Chip8.Proofs.Json.Agreement
import Chip8.Proofs.Json.Grammar
import Chip8.Proofs.Json.Members
import Chip8.Proofs.Json.Repetition
import Chip8.Proofs.Json.Skipping
import Chip8.Proofs.Keypad.KeyTexts
import Chip8.Proofs.Log.Accounts
import Chip8.Proofs.Log.Decisions
import Chip8.Proofs.Log.History
import Chip8.Proofs.Log.Lines
import Chip8.Proofs.Log.Live
import Chip8.Proofs.Log.Noninterference
import Chip8.Proofs.Log.RateLimit
import Chip8.Proofs.Log.Recorder
import Chip8.Proofs.Log.Sharing
import Chip8.Proofs.Log.Silence
import Chip8.Proofs.Log.Texts
import Chip8.Proofs.Log.Trace
import Chip8.Proofs.Machine.Actions
import Chip8.Proofs.Machine.Arithmetic
import Chip8.Proofs.Machine.Calls
import Chip8.Proofs.Machine.Control
import Chip8.Proofs.Machine.Drawing
import Chip8.Proofs.Machine.Effects
import Chip8.Proofs.Machine.Footprint
import Chip8.Proofs.Machine.Inputs
import Chip8.Proofs.Machine.Loops
import Chip8.Proofs.Machine.Outcome
import Chip8.Proofs.Machine.RandomDraws
import Chip8.Proofs.Machine.Ranges
import Chip8.Proofs.Machine.Readings
import Chip8.Proofs.Machine.Reads
import Chip8.Proofs.Machine.Safety
import Chip8.Proofs.Machine.Stops
import Chip8.Proofs.Machine.StoredRegisters
import Chip8.Proofs.Memory.Blocks
import Chip8.Proofs.Memory.Bytewise
import Chip8.Proofs.Screen.Redrawing
import Chip8.Proofs.Screen.Rendering
import Chip8.Proofs.Screen.Sprite
import Chip8.Proofs.Text.Hexadecimal
import Chip8.Proofs.Text.Positional
import Chip8.Random
import Chip8.Reply
import Chip8.Screen
import Chip8.Terminal
import Chip8.Text
import Chip8.Text.Hidden
