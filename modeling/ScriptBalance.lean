import ScriptBalance.Characters
import ScriptBalance.Check
import ScriptBalance.Config
import ScriptBalance.Finding
import ScriptBalance.Log
import ScriptBalance.Log.Filter
import ScriptBalance.Main
import ScriptBalance.Program
import ScriptBalance.Proofs.Actions
import ScriptBalance.Proofs.Blanking
import ScriptBalance.Proofs.Caret
import ScriptBalance.Proofs.Charging
import ScriptBalance.Proofs.Counting
import ScriptBalance.Proofs.Decoding
import ScriptBalance.Proofs.Exchange
import ScriptBalance.Proofs.Extension
import ScriptBalance.Proofs.Factorisation
import ScriptBalance.Proofs.Insertion
import ScriptBalance.Proofs.Joining
import ScriptBalance.Proofs.Layout
import ScriptBalance.Proofs.Lockstep
import ScriptBalance.Proofs.Order
import ScriptBalance.Proofs.Outcomes
import ScriptBalance.Proofs.Outside
import ScriptBalance.Proofs.Overflow
import ScriptBalance.Proofs.Patterns
import ScriptBalance.Proofs.Places
import ScriptBalance.Proofs.Refusal
import ScriptBalance.Proofs.Repair
import ScriptBalance.Proofs.Runs
import ScriptBalance.Proofs.Segments
import ScriptBalance.Proofs.Settings
import ScriptBalance.Proofs.Streaming
import ScriptBalance.Proofs.Strings
import ScriptBalance.Proofs.Trace
import ScriptBalance.Proofs.Unmatched
import ScriptBalance.Proofs.Words
import ScriptBalance.Proofs.Writing
import ScriptBalance.Recorder
import ScriptBalance.Regex
import ScriptBalance.Regex.Basic
import ScriptBalance.Regex.CharSet
import ScriptBalance.Regex.ClassReader
import ScriptBalance.Regex.Cursor
import ScriptBalance.Regex.Escape
import ScriptBalance.Regex.Fault
import ScriptBalance.Regex.GroupReader
import ScriptBalance.Regex.Tree
import ScriptBalance.Regex.TreeReader
import ScriptBalance.Run
import ScriptBalance.Scan
import ScriptBalance.Text
import ScriptBalance.Text.Letter
