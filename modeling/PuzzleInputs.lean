import PuzzleInputs.Calendar
import PuzzleInputs.Clock
import PuzzleInputs.CommandLine.Key
import PuzzleInputs.CommandLine.Reader
import PuzzleInputs.CommandLine.Spelling
import PuzzleInputs.CommandLine.Usage
import PuzzleInputs.Config
import PuzzleInputs.Credential
import PuzzleInputs.Disk
import PuzzleInputs.Download
import PuzzleInputs.Environment
import PuzzleInputs.Failure
import PuzzleInputs.Host
import PuzzleInputs.Http.Client
import PuzzleInputs.Http.Format
import PuzzleInputs.Http.Message
import PuzzleInputs.Http.Uri
import PuzzleInputs.IoFault
import PuzzleInputs.Log
import PuzzleInputs.Machine
import PuzzleInputs.Main
import PuzzleInputs.Path
import PuzzleInputs.Pause
import PuzzleInputs.Program
import PuzzleInputs.Puzzle
import PuzzleInputs.Settings
import PuzzleInputs.Text.Decimal
import PuzzleInputs.Text.Trim
import PuzzleInputs.Toml.Reader
import PuzzleInputs.Toml.Scalar
import PuzzleInputs.Toml.Tree
import PuzzleInputs.Toml.Value
import PuzzleInputs.Word
import PuzzleInputs.Zone
import PuzzleInputs.Zone.Table
import PuzzleInputs.Proofs.Course
import PuzzleInputs.Proofs.Disk
import PuzzleInputs.Proofs.EventOrder
import PuzzleInputs.Proofs.Outcome
import PuzzleInputs.Proofs.Path
import PuzzleInputs.Proofs.Program
import PuzzleInputs.Proofs.Puzzle
import PuzzleInputs.Proofs.Retries
import PuzzleInputs.Proofs.Visits
import PuzzleInputs.Proofs.Extension
import PuzzleInputs.Proofs.Disk.Overwriting
import PuzzleInputs.Proofs.Repetition
import PuzzleInputs.Proofs.Checks
import PuzzleInputs.Proofs.Redirects
import PuzzleInputs.Proofs.Traffic
import PuzzleInputs.Proofs.Provenance
import PuzzleInputs.Proofs.Parallel
import PuzzleInputs.Proofs.Bodies
import PuzzleInputs.Proofs.Execution
import PuzzleInputs.Proofs.Telling
import PuzzleInputs.Proofs.Cookies
import PuzzleInputs.Proofs.Secrecy
import PuzzleInputs.Proofs.Calendar
import PuzzleInputs.Proofs.Midnight
import PuzzleInputs.Proofs.Schedule
import PuzzleInputs.Proofs.Names
import PuzzleInputs.Proofs.Attempts
import PuzzleInputs.Proofs.Credential
import PuzzleInputs.Proofs.Settings
import PuzzleInputs.Proofs.ConfigFiles
import PuzzleInputs.Proofs.Decimal
import PuzzleInputs.Proofs.CommandLine
import PuzzleInputs.Proofs.Spelling
import PuzzleInputs.Proofs.Refusals
import PuzzleInputs.Proofs.Warnings
import PuzzleInputs.Proofs.Backoff
import PuzzleInputs.Proofs.ZoneNames
import PuzzleInputs.Proofs.Toml.Keys
import PuzzleInputs.Proofs.ConfigTypes
