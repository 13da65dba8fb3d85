import BedroomLights.Firmware.Rdm.Request

/-!
# A line with devices

`deviceLine` is a `Line` on which nothing gets lost and nobody is late: each device that runs this
driver receives what the controller sends, calls `rdm_send_response` on it, and what the devices
send comes back to the controller.  A response that is the only one comes back as it is.  What comes
back when several devices respond at once is the parameter `noise`: the line is shared, and what
they send collides.

A device does not see what the others send.  Each has parameters of its own, given by its UID.
-/

set_option autoImplicit false

namespace BedroomLights

/-- The devices on a line, and what has come back from them. -/
structure Devices where
  devices : List Responder
  reception : Reception

/-- The UIDs of the devices. -/
def Devices.uids (s : Devices) : List RdmUid := s.devices.map Responder.uid

/-- A device receives some slots and responds to them. -/
def Responder.respond (definitions : RdmUid → BitVec 16 → Option RdmDefinition) (slots : List Byte)
    (r : Responder) : Option (Responder × Option (List Byte)) :=
  rdmSendResponse (definitions r.uid) { r with data := overwrite r.data slots } true

/-- What comes back of some responses. -/
def hear (noise : List (List Byte) → Reception) : List (List Byte) → Reception
  | [] => ⟨.dmxOk, 0, []⟩
  | [slots] => ⟨.dmxOk, slots.length, slots⟩
  | responses => noise responses

/-- A line with devices. -/
def deviceLine (definitions : RdmUid → BitVec 16 → Option RdmDefinition)
    (noise : List (List Byte) → Reception) : Line Devices where
  waitSent s := (s, true)
  send s slots := (s.devices.mapM (Responder.respond definitions slots)).map fun responses ↦
    (⟨responses.map Prod.fst, hear noise (responses.filterMap Prod.snd)⟩, true)
  receive s := (s, s.reception)
  sending _ := false

/-- What comes of a collision is not nothing, and has no checksum of a packet. -/
def Garbles (noise : List (List Byte) → Reception) : Prop :=
  ∀ responses data, 2 ≤ responses.length → (noise responses).size ≠ 0 ∧
    rdmReadHeader? (overwrite data (noise responses).slots).bytes = none

end BedroomLights
