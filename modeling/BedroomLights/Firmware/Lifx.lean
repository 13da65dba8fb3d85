import BedroomLights.Firmware.Client
import BedroomLights.Firmware.Wifi

/-!
# Looking for bulbs

`main/lifx.c`: a state machine that waits for wifi, broadcasts a request, polls for an answer, and
after one answer or a second without any starts over.  `none` is the error branch: a null pointer
has been followed, or the address of an object that is gone.  What counts as gone is the `Lifetime`
argument.
-/

set_option autoImplicit false

namespace BedroomLights

/-- `udp_state_t`. -/
inductive UdpState where
  | waitWifi
  | tx
  | rx
  | delayStart
  | delay
deriving DecidableEq

/-- The globals of the file and the statics of `lifx_loop`. -/
structure Lifx where
  /-- `lx_client`; `none` is a null pointer. -/
  lxClient : Option LxClient
  /-- `state`. -/
  state : UdpState
  /-- `last_send`. -/
  lastSend : TickType
  /-- `wait_start`. -/
  waitStart : TickType
deriving DecidableEq

/-- `lifx_init`, given what `my_udp_create_socket` returns. -/
def lifxInit (sock : ℤ) (rxBuf : Buffer Byte rxBufSz) : Lifx where
  lxClient := if sock < 0 then none else some (lxClientCreate sock rxBuf)
  state := .waitWifi
  lastSend := 0
  waitStart := 0

/-- `event_cb`: the value of `state` it leaves.  The header and the payload are only printed, but
they are read for that. -/
def eventCb (lt : Lifetime) (event : LxEvent) (state : UdpState) : Option UdpState :=
  match event with
  | .lxEventMsgRx data => do
    let message ← data.deref lt
    let payload ← message.payload
    let header ← payload.back? sizeofLxProtocolHeader
    let _ ← header.read? sizeofLxProtocolHeader
    if message.type = lxPacketStateService then
      let _ ← payload.read? sizeofLxStateServicePayload
    some .delayStart
  | _ => some state

/-- `LIFX_RESEND_PERIOD`. -/
def lifxResendPeriod (cfg : SdkConfig) : TickType := pdMsToTicks cfg 1000#32

/-- `WAIT_TIME`. -/
def waitTime (cfg : SdkConfig) : TickType := pdMsToTicks cfg 2500#32

/-- `lifx_loop`: the globals afterwards, and the call of `udp_tx` it has made, if any, with what
that returned. -/
def lifxLoop (cfg : SdkConfig) (lt : Lifetime) (now : TickType) (wifiConnection : WifiState)
    (sendto : ℤ) (recv : RecvFrom) (l : Lifx) : Option (Lifx × List (UdpTx × LxErr)) :=
  match l.state with
  | .waitWifi => some (if wifiConnection = .wifiConnected then { l with state := .tx } else l, [])
  | .tx => do
    let client ← l.lxClient
    let message : LxMessage := ⟨lxPacketGetService, none⟩
    let tx := lxClientSendMessage client lxBroadcastDevice message
    some ({ l with lastSend := now, state := .rx }, [(tx, lxUdpTx sendto)])
  | .rx =>
    if now - l.lastSend > lifxResendPeriod cfg then some ({ l with state := .tx }, [])
    else do
      let client ← l.lxClient
      let (client, event) := lxClientPoll client recv
      let state ← match event with
        | none => some l.state
        | some event => eventCb lt event l.state
      some ({ l with lxClient := some client, state := state }, [])
  | .delayStart => some ({ l with waitStart := now, state := .delay }, [])
  | .delay => some (if now - l.waitStart > waitTime cfg then { l with state := .tx } else l, [])

end BedroomLights
