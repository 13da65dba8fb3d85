import BedroomLights.Buffer
import BedroomLights.Firmware.FreeRtos

/-!
# The sending half of the esp_dmx driver

The driver holds the packet in one buffer of 513 slots.  `dmx_write` replaces slots of it,
`dmx_send_num` starts a packet by putting a break on the line, and from then on two interrupt
handlers do the work, at times the program does not control:

* `dmx_timer_isr` first ends the break and then, after the mark, copies the first chunk of the
  buffer to the FIFO of the UART;
* `dmx_uart_isr` copies a further chunk whenever the FIFO has run low, and when nothing is left to
  send it marks the driver idle.

How many slots a chunk has depends on how much room the FIFO has at that moment, so the room is an
input.  For the first chunk the FIFO is empty, and `EmptyFifo` is the little that is needed of it:
it takes at least nine slots.

`wire` and `packets` are not driver fields: they record the slots given to the UART since the last
break, and the packets of which all slots have gone out.  The receiving half of the driver, and the
way `dmx_send_num` treats a buffer that holds an RDM packet, are left out: the program never
receives, and its buffer never holds one.
-/

set_option autoImplicit false

namespace BedroomLights

/-- `DMX_PACKET_SIZE` and `DMX_PACKET_SIZE_MAX`. -/
abbrev dmxPacketSize : ℕ := 513

/-- The values of `dmx.status`. -/
inductive DmxStatus where
  | idle
  | receiving
  | sending
deriving DecidableEq

/-- The values of `dmx.progress`. -/
inductive DmxProgress where
  | stale
  | inBreak
  | inMab
  | inData
  | complete
deriving DecidableEq

/-- The room that an empty FIFO has: it takes the start code and eight more slots at least. -/
abbrev EmptyFifo := { room : ℕ // 9 ≤ room }

/-- The fields of `dmx_driver_t` that sending uses, the timer and interrupt enables of its two
handlers, and what has gone out. -/
structure DmxDriver where
  /-- `dmx.data`, the packet. -/
  data : Buffer Byte dmxPacketSize
  /-- `dmx.head`, the number of slots given to the UART. -/
  head : ℕ
  /-- `dmx.size`, the number of slots of the packet being sent. -/
  size : ℕ
  /-- `dmx.status`. -/
  status : DmxStatus
  /-- `dmx.progress`. -/
  progress : DmxProgress
  /-- `is_running` of the hardware timer. -/
  timerRunning : Bool
  /-- `DMX_INTR_TX_DATA` is enabled. -/
  intrTxData : Bool
  /-- `DMX_INTR_TX_DONE` is enabled. -/
  intrTxDone : Bool
  /-- The slots given to the UART since the last break. -/
  wire : List Byte
  /-- The packets that are complete, oldest first. -/
  packets : List (List Byte)
deriving DecidableEq

/-- The driver as `dmx_driver_install` leaves it. -/
def dmxDriverInstall : DmxDriver where
  data := Buffer.fill dmxPacketSize 0
  head := 0
  size := dmxPacketSize
  status := .idle
  progress := .stale
  timerRunning := false
  intrTxData := false
  intrTxDone := false
  wire := []
  packets := []

/-! ## Is there an RDM packet in the buffer? -/

/-- The slot at an index. -/
def slot (data : List Byte) (i : ℕ) : Byte := data.getD i 0

/-- The 16-bit sum of slots. -/
def rdmChecksum (slots : List Byte) : BitVec 16 :=
  slots.foldl (fun checksum b ↦ checksum + b.setWidth 16) 0

/-- The big-endian 16-bit number made of two slots. -/
def bigEndian16 (hi lo : Byte) : BitVec 16 := hi ++ lo

/-- `rdm_read_header`: a standard RDM packet starts with `RDM_SC`, `RDM_SUB_SC`, a discovery
response with up to seven times `RDM_PREAMBLE` and `RDM_DELIMITER`, and in either case the checksum
must be right. -/
def rdmReadHeader (data : List Byte) : Bool :=
  if slot data 0 = 0xcc#8 ∧ slot data 1 = 0x01#8 then
    let messageLen := (slot data 2).toNat
    decide (rdmChecksum (data.take messageLen) =
      bigEndian16 (slot data messageLen) (slot data (messageLen + 1)))
  else if slot data 0 = 0xfe#8 ∨ slot data 0 = 0xaa#8 then
    match (List.range 8).find? fun i ↦ decide (slot data i = 0xaa#8) with
    | none => false
    | some preambleLen =>
      let euid := data.drop (preambleLen + 1)
      decide (rdmChecksum (euid.take 12) =
        bigEndian16 (slot euid 12 &&& slot euid 13) (slot euid 14 &&& slot euid 15))
  else false

/-- A packet whose start code is zero is not an RDM packet. -/
theorem rdmReadHeader_of_start_code {data : List Byte} (h : slot data 0 = 0) :
    rdmReadHeader data = false := by
  simp [rdmReadHeader, h]

/-! ## Writing and sending -/

/-- `dmx_write_offset`: the number of slots written, which is zero when an RDM packet is being
sent. -/
def dmxWriteOffset (d : DmxDriver) (offset : ℕ) (source : List Byte) (size : ℕ) : DmxDriver × ℕ :=
  if h : offset < dmxPacketSize then
    let size := if size + offset > dmxPacketSize then dmxPacketSize - offset else size
    if size = 0 then (d, 0)
    else if d.status = .sending ∧ rdmReadHeader d.data.bytes then (d, 0)
    else
      ({ d with data := d.data.write offset (source.take size) (by
          rw [List.length_take]; simp only [size]; split <;> omega) }, size)
  else (d, 0)

/-- `dmx_write`. -/
def dmxWrite (d : DmxDriver) (source : List Byte) (size : ℕ) : DmxDriver × ℕ :=
  dmxWriteOffset d 0 source size

/-- `dmx_send_num`: the number of slots of the packet it has started, which is zero when the packet
before is still being sent after the time `dmx_wait_sent` waits for it.  A wait that ends well is
not a step of its own: the handlers' steps that end it come before this one. -/
def dmxSendNum (d : DmxDriver) (size : ℕ) : DmxDriver × ℕ :=
  if d.status = .sending then (d, 0)
  -- an RDM packet, which the buffer never holds: how one is sent is left out
  else if rdmReadHeader d.data.bytes then (d, 0)
  else
    let size := if size = 0 ∨ size > dmxPacketSize then dmxPacketSize else size
    ({ d with size := size, head := 0, progress := .inBreak, status := .sending,
              timerRunning := true, wire := [] }, size)

/-! ## The interrupt handlers -/

/-- `dmx_timer_isr`: the end of the break, or the end of the mark and the first chunk. -/
def dmxTimerIsr (d : DmxDriver) (room : EmptyFifo) : DmxDriver :=
  if d.timerRunning then
    if d.status = .sending then
      if d.progress = .inBreak then { d with progress := .inMab }
      else
        let writeLen := min d.size room
        { d with wire := d.wire ++ d.data.bytes.take writeLen, head := writeLen,
                 timerRunning := false, intrTxData := true, intrTxDone := true }
    else { d with timerRunning := false }
  else d

/-- The `DMX_INTR_TX_DATA` branch of `dmx_uart_isr`: a further chunk. -/
def dmxUartIsrTxData (d : DmxDriver) (room : ℕ) : DmxDriver :=
  if d.intrTxData then
    let writeLen := min (d.size - d.head) room
    { d with wire := d.wire ++ (d.data.bytes.drop d.head).take writeLen,
             head := d.head + writeLen, intrTxData := decide (d.head + writeLen ≠ d.size) }
  else d

/-- The `DMX_INTR_TX_DONE` branch of `dmx_uart_isr`.  The UART raises the interrupt when it has
nothing left to send.  The branch does not look whether slots of the packet are still to be given to
it: when the refill has come too late these are never sent, and the packet is not one of the
completed ones. -/
def dmxUartIsrTxDone (d : DmxDriver) : DmxDriver :=
  if d.intrTxDone then
    { d with intrTxData := false, intrTxDone := false, progress := .complete, status := .idle,
             packets := if d.head = d.size then d.packets ++ [d.wire] else d.packets }
  else d

end BedroomLights
