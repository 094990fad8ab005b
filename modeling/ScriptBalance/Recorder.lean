-- Sinks of a check. A recorder keeps the entries as they are, and a report writes
-- their texts to a channel, each of them at once. A channel may have room for only
-- so many bytes, and a sink may be told to refuse an entry or a flush.
import ScriptBalance.Check

namespace ScriptBalance

/-! ## Recorders -/

/-- Which sort of entry was refused. -/
inductive Refusal where
  | finding
  | patternSection
  deriving Repr, DecidableEq

def Refusal.message : Refusal → String
  | .finding => "report refused"
  | .patternSection => "begin refused"

/-- A sink that keeps what it takes. -/
structure Recorder where
  /-- The number of the finding to refuse, from 1. -/
  refusedFinding : Option Nat := none
  /-- Refuse the start of the section for patterns. -/
  refusesSection : Bool := false
  /-- The findings offered so far, the refused one included. -/
  offered : Nat := 0
  /-- The entries taken so far, oldest first. -/
  entries : Array Entry := #[]
  deriving Repr, DecidableEq

namespace Recorder

/-- Keeps an entry, or refuses it and keeps nothing. -/
def take : Sink Recorder Refusal
  | .finding f, r =>
    let r := { r with offered := r.offered + 1 }
    if r.refusedFinding = some r.offered then .error .finding r
    else .ok () { r with entries := r.entries.push (.finding f) }
  | .patternSection, r =>
    if r.refusesSection then .error .patternSection r
    else .ok () { r with entries := r.entries.push .patternSection }

/-- The findings taken so far. -/
def findings (r : Recorder) : List Finding := r.entries.toList.filterMap Entry.finding?

end Recorder

/-! ## Channels -/

/-- Why a channel fails. -/
inductive WriteError where
  /-- The channel is full and says so. -/
  | limitReached
  /-- The channel is full and takes none of the bytes. -/
  | nothingTaken
  | flushRefused
  deriving Repr, DecidableEq

def WriteError.message : WriteError → String
  | .limitReached => "write limit reached"
  | .nothingTaken => "failed to write whole buffer"
  | .flushRefused => "flush refused"

/-- How much room a channel has. -/
structure Limit where
  /-- The bytes that it takes in all. -/
  bytes : Nat
  /-- A full channel takes nothing and raises no error of its own. -/
  silent : Bool := false
  deriving Repr, DecidableEq

/-- The error of a write that finds the channel full. -/
def Limit.error (l : Limit) : WriteError := if l.silent then .nothingTaken else .limitReached

/-- Where a report is written to. -/
structure Channel where
  limit : Option Limit := none
  /-- The number of the flush to refuse, from 1. -/
  refusedFlush : Option Nat := none
  written : ByteArray := .empty
  /-- The flushes so far, the refused one included. -/
  flushes : Nat := 0

namespace Channel

/-- Writes bytes. A channel with too little room takes the bytes that fit and
then fails. -/
def put (bytes : ByteArray) : EStateM WriteError Channel Unit
  | ⟨none, refused, written, flushes⟩ => .ok () ⟨none, refused, written ++ bytes, flushes⟩
  | ⟨some l, refused, written, flushes⟩ =>
    let room := l.bytes - written.size
    if bytes.size ≤ room then .ok () ⟨some l, refused, written ++ bytes, flushes⟩
    else .error l.error ⟨some l, refused, written ++ bytes.extract 0 room, flushes⟩

/-- Flushes the channel. What is written stays written, even if it refuses. -/
def flush : EStateM WriteError Channel Unit := fun c =>
  let c := { c with flushes := c.flushes + 1 }
  if c.refusedFlush = some c.flushes then .error .flushRefused c else .ok () c

end Channel

/-! ## Reports -/

/-- A report in the making. -/
structure Report where
  channel : Channel := {}
  /-- The findings that are written and flushed. -/
  reported : Nat := 0

namespace Report

/-- Does something to the channel of a report. -/
def onChannel (act : EStateM WriteError Channel Unit) : EStateM WriteError Report Unit :=
  fun ⟨channel, reported⟩ =>
    match act channel with
    | .ok _ channel => .ok () ⟨channel, reported⟩
    | .error err channel => .error err ⟨channel, reported⟩

/-- Counts an entry that is written and flushed. Only findings count. -/
def countBy (add : Addition Report WriteError) : Entry → EStateM WriteError Report Unit
  | .finding _ => do
    let reported ← add (← get).reported 1
    modify fun r => { r with reported }
  | .patternSection => pure ()

/-- Writes the lines of an entry, each ended by a line feed, then flushes the
channel and counts the entry. -/
def takeBy (add : Addition Report WriteError) : Sink Report WriteError := fun e => do
  e.lines.forM fun line => onChannel (Channel.put (line ++ "\n").toUTF8)
  onChannel Channel.flush
  countBy add e

@[inherit_doc countBy]
def count : Entry → EStateM WriteError Report Unit := countBy unbounded

@[inherit_doc takeBy]
def take : Sink Report WriteError := takeBy unbounded

end Report

end ScriptBalance
