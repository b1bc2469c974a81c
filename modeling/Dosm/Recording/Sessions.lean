import Dosm.Base.Transition
import Dosm.Recording.Journal
import Dosm.Web

namespace Dosm.Recording

open Models Python Transition Web

/-! Starting, stopping and feeding a recording.

A recording is a row, an entry of a map in memory and a temporary file. A request
runs without an await between its first and its last access to them, so requests
follow one another; opening, writing and finalising the file may fail.
-/

inductive RecordingStatus where
  | active
  | finalized
  | aborted
  deriving DecidableEq

structure RecordingSession where
  id : Int
  tenantId : Int
  userId : Option Nat
  slug : String
  options : RecordingOptions
  journalPath : Option String
  status : RecordingStatus
  deriving DecidableEq

instance : Keyed RecordingSession := ⟨RecordingSession.id⟩

structure ActiveRecording where
  recordingId : Int
  userId : Nat
  slug : String
  options : RecordingOptions
  deriving DecidableEq

/-- The rows, the map, the temporary files by slug and the finalised ones by path. -/
structure Recorder where
  sessions : Table RecordingSession
  active : Nat → Option ActiveRecording
  journals : String → Option String
  finished : String → Option String

structure RecordingConfig where
  enabled : Bool
  sessionsDir : String
  isAlnum : Char → Bool
  upper : String → String

/-- The signed-in user, with the tenant the request acts within. -/
structure Visitor where
  id : Nat
  username : String
  tid : Option Int

inductive Answer where
  | done
  | http (status : Nat) (detail : String)
  | exception
  deriving DecidableEq

/-- How finalising a journal ends: the footer, the close and the move to its final
place may each fail. -/
inductive Finalising where
  | done
  | failed (footerWritten moved : Bool)
  deriving DecidableEq

inductive Request where
  | start (user : Visitor) (options : Args) (minute started : String) (opens : Bool)
  | stop (user : Visitor) (ended : String) (ends : Finalising)
  | event (user : Visitor) (kind direction content host clock : String) (writes : Bool)
  | updateOptions (user : Visitor) (options : Args)

def slugOf (config : RecordingConfig) (minute username : String) : String :=
  let kept := username.toList.filter fun char => config.isAlnum char || char = '-' || char = '_'
  minute ++ "-" ++ String.ofList (kept.take 16)

def newSession (user : Visitor) (tid : Int) (slug : String) (options : RecordingOptions) (id : Int) :
    RecordingSession where
  id
  tenantId := tid
  userId := some user.id
  slug
  options
  journalPath := none
  status := .active

def RecordingSession.finalizedAt (path : String) (row : RecordingSession) : RecordingSession :=
  { row with status := .finalized, journalPath := some path }

namespace Recorder

variable (config : RecordingConfig) (state : Recorder)

def addRow (user : Visitor) (tid : Int) (slug : String) (options : RecordingOptions) : Recorder :=
  { state with sessions := state.sessions.insert (newSession user tid slug options) }

def recordingStart (user : Visitor) (body : Args) (minute started : String) (opens : Bool) : Recorder × Answer :=
  match user.tid with
  | none => (state, .http 403 "select an active tenant before making changes")
  | some tid =>
      if !config.enabled then (state, .http 403 "session recording is disabled")
      else if (state.active user.id).isSome then
        (state, .http 409 "a recording is already active for this user")
      else
        match RecordingOptions.fromDict {} body with
        | none => (state, .exception)
        | some options =>
            let slug := slugOf config minute user.username
            if slug ∈ state.sessions.rows.map RecordingSession.slug then (state, .exception)
            else if opens then
              ({ state.addRow user tid slug options with
                active := Function.update state.active user.id (some {
                  recordingId := state.sessions.fresh, userId := user.id, slug, options })
                journals := Function.update state.journals slug (some (opening slug user.username started)) }, .done)
            else (state.addRow user tid slug options, .exception)

/-- The journal with its footer moves to its final place. -/
def finalize (rec : ActiveRecording) (ended : String) (path : String) : Finalising → Recorder
  | .done => { state with
      journals := Function.update state.journals rec.slug none
      finished := Function.update state.finished path
        ((state.journals rec.slug).map (· ++ footer "finalized" ended)) }
  | .failed footerWritten moved =>
      let closed := (state.journals rec.slug).map (· ++ if footerWritten then footer "finalized" ended else "")
      if moved then { state with
        journals := Function.update state.journals rec.slug none
        finished := Function.update state.finished path closed }
      else { state with journals := Function.update state.journals rec.slug closed }

def journalPath (rec : ActiveRecording) : String := config.sessionsDir ++ "/" ++ rec.slug ++ ".md"

def recordingStop (user : Visitor) (ended : String) (ends : Finalising) : Recorder × Answer :=
  match state.active user.id with
  | none => (state, .http 404 "no active recording for this user")
  | some rec =>
      let cleared := { state with active := Function.update state.active user.id none }
      let path := journalPath config rec
      let after := cleared.finalize rec ended path ends
      if ends ≠ .done then (after, .exception)
      else
        match after.sessions.get rec.recordingId with
        | none => (after, .done)
        | some row =>
            if row.userId ≠ some user.id ∨ (user.tid.isSome ∧ user.tid ≠ some row.tenantId) then
              (after, .http 404 "no active recording for this user")
            else
              ({ after with
                sessions := after.sessions.modify rec.recordingId (RecordingSession.finalizedAt path) }, .done)

/-- A write that fails leaves the journal as it was. -/
def write (rec : ActiveRecording) (text : String) (writes : Bool) : Recorder × Answer :=
  if text = "" then (state, .done)
  else if writes then
    ({ state with journals := Function.update state.journals rec.slug ((state.journals rec.slug).map (· ++ text)) },
      .done)
  else (state, .exception)

def recordingEvent (user : Visitor) (kind direction content host clock : String) (writes : Bool) :
    Recorder × Answer :=
  match state.active user.id with
  | none => (state, .done)
  | some rec =>
      if kind ∈ ["copy", "paste", "clipboard"] ∧ content ≠ "" then
        state.write rec (clipboardText rec.options clock (if direction = "" then kind else direction) content) writes
      else if kind = "guac_keystroke" ∧ content ≠ "" then
        state.write rec (guacText config.upper rec.options clock direction host content) writes
      else (state, .done)

def recordingUpdateOptions (user : Visitor) (body : Args) : Recorder × Answer :=
  match state.active user.id with
  | none => (state, .http 404 "no active recording")
  | some rec =>
      let foreign (row : RecordingSession) : Bool :=
        row.userId ≠ some user.id || (user.tid.isSome && user.tid ≠ some row.tenantId)
      if ((state.sessions.get rec.recordingId).map foreign).getD false then (state, .http 404 "no active recording")
      else
        match RecordingOptions.fromDict rec.options body with
        | none => (state, .exception)
        | some options =>
            ({ state with
              active := Function.update state.active user.id (some { rec with options })
              sessions := state.sessions.modify rec.recordingId fun row => { row with options } }, .done)

def serve : Request → Recorder × Answer
  | .start user options minute started opens => state.recordingStart config user options minute started opens
  | .stop user ended ends => state.recordingStop config user ended ends
  | .event user kind direction content host clock writes =>
      state.recordingEvent config user kind direction content host clock writes
  | .updateOptions user options => state.recordingUpdateOptions user options

/-- Nothing is being recorded, whatever was recorded before. -/
def Starts : Prop :=
  state.active = (fun _ => none) ∧ (∀ row ∈ state.sessions.rows, row.status ≠ .active) ∧
    state.sessions.Distinct RecordingSession.slug

def machine : Machine Recorder Request where
  initial := Starts
  step state request := some (state.serve config request).1

end Recorder

end Dosm.Recording
