import LuaBytecode.Proofs.ReaderSteps

/-!
# What readers note

A sequence of readers notes what the first notes and then what the others note, so what is known of
the notes of a run can be put together from its parts.
-/

set_option autoImplicit false

namespace LuaBytecode

namespace Reader

variable {α β : Type} {buffer : Buffer} {start stop : Nat}

/-- The reader succeeds and has noted the given events. -/
def Logs (reader : Reader α) (buffer : Buffer) (start : Nat) (value : α) (stop : Nat)
    (events : List Log.Event) : Prop :=
  reader.Takes buffer start value stop ∧ (reader buffer start).events = events

theorem Logs.split {first : Reader α} {next : α → Reader β} {result : β}
    {events : List Log.Event} (logged : (first >>= next).Logs buffer start result stop events) :
    ∃ value middle before after, first.Logs buffer start value middle before ∧
      (next value).Logs buffer middle result stop after ∧ events = before ++ after := by
  obtain ⟨taken, noted⟩ := logged
  obtain ⟨value, middle, firstTaken, nextTaken⟩ := takes_bind.mp taken
  rw [bind_of_ok firstTaken.1] at noted
  dsimp only at noted
  rw [firstTaken.2] at noted
  exact ⟨value, middle, _, _, ⟨firstTaken, rfl⟩, ⟨nextTaken, rfl⟩, noted.symm⟩

/-- A reader that notes nothing can be left out. -/
theorem Logs.pass {first : Reader α} {next : α → Reader β} {result : β}
    {events : List Log.Event} (silent : (first buffer start).events = [])
    (logged : (first >>= next).Logs buffer start result stop events) :
    ∃ value middle, first.Takes buffer start value middle ∧
      (next value).Logs buffer middle result stop events := by
  obtain ⟨value, middle, before, after, ⟨taken, noted⟩, rest, rfl⟩ := logged.split
  obtain rfl : before = [] := noted.symm.trans silent
  exact ⟨value, middle, taken, rest⟩

theorem events_byte (buffer : Buffer) (start : Nat) : (byte buffer start).events = [] := by
  unfold byte
  split <;> rfl

theorem events_bytes (count : Nat) (buffer : Buffer) (start : Nat) :
    (bytes count buffer start).events = [] := by
  unfold bytes
  split <;> rfl

theorem events_require (condition : Bool) (fault : Fault) (buffer : Buffer) (start : Nat) :
    (require condition fault buffer start).events = [] := by
  cases condition with
  | false => rfl
  | true => rfl

theorem logs_note {event : Log.Event} {value : Unit} {events : List Log.Event} :
    (note event).Logs buffer start value stop events ↔ start = stop ∧ [event] = events := by
  rw [Logs, takes_note]
  rfl

theorem logs_noteIf {condition : Bool} {event : Log.Event} {value : Unit}
    {events : List Log.Event} :
    (noteIf condition event).Logs buffer start value stop events ↔
      start = stop ∧ (if condition then [event] else []) = events := by
  rw [Logs, takes_noteIf]
  cases condition with
  | false => rfl
  | true => rfl

theorem logs_pure {value result : α} {events : List Log.Event} :
    (Pure.pure value : Reader α).Logs buffer start result stop events ↔
      (value = result ∧ start = stop) ∧ [] = events := by
  rw [Logs, takes_pure]
  rfl

end Reader

/-- Nothing is asked but whether what is noted is allowed. -/
def Circumstances.noting (buffer : Buffer) (allowed : Log.Event → Prop) : Circumstances where
  buffer := buffer
  entry := 0
  distance := 0
  narrow := False
  allowed := allowed

/-- What is worth a warning in a header. -/
def Header.warnings (header : Header) : List Log.Event :=
  if header.version != supportedVersion then [.unexpectedVersion header] else []

/-- A header that was read has been noted after its warnings, and nothing else has. -/
theorem Header.events_of_takes {buffer : Buffer} {start stop : Nat} {header : Header}
    (taken : Header.read.Takes buffer start header stop) :
    (Header.read buffer start).events = header.warnings ++ [.headerRead header] := by
  have logged : Header.read.Logs buffer start header stop _ := ⟨taken, rfl⟩
  obtain ⟨_, _, -, logged⟩ := logged.pass rfl
  obtain ⟨found, _, -, logged⟩ := logged.pass (Reader.events_bytes _ _ _)
  obtain ⟨_, _, -, logged⟩ := logged.pass (Reader.events_require _ _ _ _)
  obtain ⟨version, _, -, logged⟩ := logged.pass (Reader.events_byte _ _)
  obtain ⟨format, _, -, logged⟩ := logged.pass (Reader.events_byte _ _)
  obtain ⟨endianness, _, -, logged⟩ := logged.pass (Reader.events_byte _ _)
  obtain ⟨_, _, -, logged⟩ := logged.pass (Reader.events_require _ _ _ _)
  obtain ⟨int, _, -, logged⟩ := logged.pass (Reader.events_byte _ _)
  obtain ⟨sizeT, _, -, logged⟩ := logged.pass (Reader.events_byte _ _)
  obtain ⟨instruction, _, -, logged⟩ := logged.pass (Reader.events_byte _ _)
  obtain ⟨number, _, -, logged⟩ := logged.pass (Reader.events_byte _ _)
  dsimp only at logged
  split at logged
  next => exact absurd logged.1 Reader.takes_fail
  next =>
    obtain ⟨integral, _, -, logged⟩ := logged.pass (Reader.events_byte _ _)
    obtain ⟨_, _, _, _, warned, logged, joined⟩ := logged.split
    obtain ⟨_, _, _, _, told, ended, laterJoined⟩ := logged.split
    obtain ⟨-, rfl⟩ := Reader.logs_noteIf.mp warned
    obtain ⟨-, rfl⟩ := Reader.logs_note.mp told
    obtain ⟨⟨rfl, -⟩, rfl⟩ := Reader.logs_pure.mp ended
    rw [joined, laterJoined]
    rfl

end LuaBytecode
