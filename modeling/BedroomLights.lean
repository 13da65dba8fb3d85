import BedroomLights.Transition.Run
import BedroomLights.Transition.Newest
import BedroomLights.Transition.Fifo
import BedroomLights.Transition.Transmitter
import BedroomLights.Transition.Explore
import BedroomLights.Clock
import BedroomLights.Buffer
import BedroomLights.Ring
import BedroomLights.LittleEndian
import BedroomLights.Memory
import BedroomLights.Firmware.Lights
import BedroomLights.Firmware.Wifi
import BedroomLights.Firmware.Packets
import BedroomLights.Firmware.Client
import BedroomLights.Firmware.Lifx
import BedroomLights.Firmware.Superloop
import BedroomLights.Firmware.Step
import BedroomLights.Firmware.Socket
import BedroomLights.Firmware.Rdm.Uid
import BedroomLights.Firmware.Rdm.Format
import BedroomLights.Firmware.Rdm.Packet
import BedroomLights.Firmware.Rdm.Responder
import BedroomLights.Firmware.Rdm.Request
import BedroomLights.Firmware.Rdm.Discovery
import BedroomLights.Firmware.Rdm.Devices
import BedroomLights.Firmware.Rdm.Queue
import BedroomLights.Lights.Frames
import BedroomLights.Lights.Wire
import BedroomLights.Lights.Follow
import BedroomLights.Lights.Edge
import BedroomLights.Lights.Snapshot
import BedroomLights.Lights.Progress
import BedroomLights.Lights.Latency
import BedroomLights.Tasks
import BedroomLights.Independence
import BedroomLights.Client.Datagram
import BedroomLights.Client.Accept
import BedroomLights.Client.Stale
import BedroomLights.Client.Encode
import BedroomLights.Client.Request
import BedroomLights.Wifi.Pending
import BedroomLights.Wifi.Verdict
import BedroomLights.Wifi.Retry
import BedroomLights.Lifx.Step
import BedroomLights.Lifx.Gate
import BedroomLights.Lifx.Cadence
import BedroomLights.Lifx.Lifetime
import BedroomLights.Lifx.Matching
import BedroomLights.Lifx.Requests
import BedroomLights.Lifx.Order
import BedroomLights.Rdm.Format
import BedroomLights.Rdm.Packet
import BedroomLights.Rdm.Responder
import BedroomLights.Rdm.Request
import BedroomLights.Rdm.Devices
import BedroomLights.Rdm.Discovery
import BedroomLights.Rdm.Answered
import BedroomLights.Rdm.Queue
