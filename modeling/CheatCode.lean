import CheatCode.Json.Record
import CheatCode.Machine
import CheatCode.Main
import CheatCode.Patch.Spelling
import CheatCode.Program
import CheatCode.Session
import CheatCode.Proofs.CodeText.Grammar
import CheatCode.Proofs.CodeText.Joined
import CheatCode.Proofs.CodeText.RoundTrip
import CheatCode.Proofs.CodeText.Skipped
import CheatCode.Proofs.CodeText.Written
import CheatCode.Proofs.CommandLine.ReadBack
import CheatCode.Proofs.Engine.Calls
import CheatCode.Proofs.Engine.Events
import CheatCode.Proofs.Engine.Interference
import CheatCode.Proofs.Engine.Lifecycle
import CheatCode.Proofs.Engine.Overlay
import CheatCode.Proofs.Engine.Patching
import CheatCode.Proofs.Engine.Preview
import CheatCode.Proofs.Json.Record
import CheatCode.Proofs.Log.Reading
import CheatCode.Proofs.Machine.Alike
import CheatCode.Proofs.Machine.Disk
import CheatCode.Proofs.Machine.Logged
import CheatCode.Proofs.Memory.ByteMap
import CheatCode.Proofs.Numeral
import CheatCode.Proofs.Numeral.Faults
import CheatCode.Proofs.Numeral.Spelled
import CheatCode.Proofs.Patch.Bytes
import CheatCode.Proofs.Patch.Spelling
import CheatCode.Proofs.Poke
import CheatCode.Proofs.Program.Atomicity
import CheatCode.Proofs.Program.Logging
import CheatCode.Proofs.Program.OnMachine
import CheatCode.Proofs.Program.Output
import CheatCode.Proofs.Program.Reports
import CheatCode.Proofs.Program.Twins
import CheatCode.Proofs.Session.Bare
import CheatCode.Proofs.Session.Driving
import CheatCode.Proofs.Session.Lifetimes
import CheatCode.Proofs.Settings.Load
import CheatCode.Proofs.Text.Quoted
import CheatCode.Proofs.Text.Reader
import CheatCode.Proofs.Toml.Document
import CheatCode.Proofs.Toml.Sound
import CheatCode.Proofs.Toml.Written
