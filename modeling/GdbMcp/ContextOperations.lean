import GdbMcp.InspectionAttended

/-! The thread and the frame that the client selects to stay, and the requests about the context of a session. -/

namespace GdbMcp

/-- Structured thread-selection response. -/
structure ThreadSelectionInfo where
  threadId : Int
  newThreadId : Option String := none
  frame : Option Value := none

/-- Structured frame-selection response. -/
structure FrameSelectionInfo where
  frameNumber : Int
  frame : Option Value := none
  message : Option String := none

namespace Session

variable {W : Type} [Gdb W]

/-- The frame of a thread selection is taken over where the answer has one. -/
def markSelectedFrame (frame : Value) : SessionM W Unit := do
  if frame.isDict then
    let level ← narrow (asInt (frame.get "level"))
    update (·.markFrameSelected level)

/-- Select a specific thread to make it the current thread. -/
def selectThread (threadId : Int) : SessionM W (OperationResult ThreadSelectionInfo) := do
  orReturn (← query (threadSelectCommand threadId)) fun info => do
    let payload := extractMiResultPayload info
    markSelectedFrame (payload.get "frame")
    update (·.markThreadSelected (some threadId))
    return .success
      { threadId
        newThreadId := asText (payload.get "new-thread-id")
        frame := asOptionalMapping (payload.get "frame") }

/-- Select a specific stack frame to make it the current frame. -/
def selectFrame (frameNumber : Int) : SessionM W (OperationResult FrameSelectionInfo) := do
  orReturn (← query (frameSelectCommand frameNumber)) fun _ => do
    update (·.markFrameSelected (some frameNumber))
    match ← query "-stack-info-frame" with
    | .error _ _ _ _ => return .success { frameNumber, message := some s!"Frame {frameNumber} selected" }
    | .success info _ =>
      return .success { frameNumber, frame := asOptionalMapping ((extractMiResultPayload info).get "frame") }

end Session
end GdbMcp
