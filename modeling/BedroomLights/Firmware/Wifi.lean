import BedroomLights.Firmware.FreeRtos

/-!
# Connecting to the access point

`main/wifi.c` lives in two tasks.  `event_handler` runs in the event task, one event at a time, and
leaves what happened as bits in an event group; `wifi_loop` polls the group from the superloop and
keeps `wifi_connection` for the rest of the program.
-/

set_option autoImplicit false

namespace BedroomLights

/-- `wifi_state_t`. -/
inductive WifiState where
  | wifiDisconnected
  | wifiConnected
deriving DecidableEq

/-- The events that `event_handler` tells apart. -/
inductive WifiEvent where
  /-- `WIFI_EVENT_STA_START`. -/
  | wifiEventStaStart
  /-- `WIFI_EVENT_STA_DISCONNECTED`. -/
  | wifiEventStaDisconnected
  /-- `IP_EVENT_STA_GOT_IP`. -/
  | ipEventStaGotIp
  /-- Any other event. -/
  | other
deriving DecidableEq

/-- `WIFI_CONNECTED_BIT`. -/
def wifiConnectedBit : EventBits := 1#32

/-- `WIFI_FAIL_BIT`. -/
def wifiFailBit : EventBits := 2#32

/-- The globals of the file. -/
structure Wifi where
  /-- `wifi_connection`. -/
  wifiConnection : WifiState
  /-- The bits of `s_wifi_event_group`. -/
  sWifiEventGroup : EventBits
  /-- `s_retry_num`. -/
  sRetryNum : ℤ
deriving DecidableEq

/-- What a call of `event_handler` does outside its own file. -/
structure HandlerEffect where
  /-- It calls `esp_wifi_connect`. -/
  espWifiConnect : Bool
  /-- The bits it sets. -/
  setBits : EventBits
deriving DecidableEq

/-- The globals after `wifi_init`. -/
def wifiInit : Wifi := ⟨.wifiDisconnected, 0, 0⟩

/-- `event_handler`. -/
def eventHandler (cfg : SdkConfig) (event : WifiEvent) (w : Wifi) : Wifi × HandlerEffect :=
  match event with
  | .wifiEventStaStart => (w, ⟨true, 0⟩)
  | .wifiEventStaDisconnected =>
    if w.sRetryNum < cfg.configEspMaximumRetry then
      ({ w with sRetryNum := w.sRetryNum + 1 }, ⟨true, 0⟩)
    else
      ({ w with sWifiEventGroup := xEventGroupSetBits w.sWifiEventGroup wifiFailBit },
        ⟨false, wifiFailBit⟩)
  | .ipEventStaGotIp =>
    ({ w with
        sRetryNum := 0
        sWifiEventGroup := xEventGroupSetBits w.sWifiEventGroup wifiConnectedBit },
      ⟨false, wifiConnectedBit⟩)
  | .other => (w, ⟨false, 0⟩)

/-- The value that `wifi_loop` assigns to `wifi_connection` for the bits it has read, if any. -/
def wifiVerdict (bits : EventBits) : Option WifiState :=
  if bits &&& wifiConnectedBit ≠ 0#32 then some .wifiConnected
  else if bits &&& wifiFailBit ≠ 0#32 then some .wifiDisconnected
  else none

/-- The body of `wifi_loop`: read and clear the bits, and note what they say. -/
def wifiCheck (w : Wifi) : Wifi :=
  let (bits, group) := xEventGroupWaitBits w.sWifiEventGroup (wifiConnectedBit ||| wifiFailBit)
  { w with
    sWifiEventGroup := group
    wifiConnection := (wifiVerdict bits).getD w.wifiConnection }

/-- `WIFI_CHECK_PERIOD`. -/
def wifiCheckPeriod (cfg : SdkConfig) : TickType := pdMsToTicks cfg 50#32

/-- `wifi_loop`. -/
def wifiLoop (cfg : SdkConfig) (now nextUpdate : TickType) (w : Wifi) : TickType × Wifi :=
  periodic (wifiCheckPeriod cfg) wifiCheck now nextUpdate w

end BedroomLights
