import DeviceHal.Lib.Buffer
import DeviceHal.Lib.CText
import DeviceHal.Lib.Run

/-! # LocIpc: strings over a datagram socket

`send` puts a string of at most `LOC_MSG_BUF_LEN` bytes in one datagram; a
longer one goes out as a datagram with its length as text, then as parts. The
receive loop of `startListeningBlocking` reads every datagram into the one
string `msg`, tells the kinds apart by the text at its front, and hands the
strings to `onReceive`. A machine state is what the loop holds while it is
blocked in `recvfrom`; a step is one datagram. -/
namespace DeviceHal.Utils.LocIpc
open DeviceHal.Lib.Buffer DeviceHal.Lib.CText DeviceHal.Lib.Run

def LOC_MSG_BUF_LEN : Nat := 8192

def LOC_MSG_HEAD : Bytes := bytesOf ['$', 'M', 'S', 'G', 'L', 'E', 'N', '$']

def LOC_MSG_ABORT : Bytes :=
  bytesOf ['L', 'o', 'c', 'I', 'p', 'c', 'M', 's', 'g', ':', ':', 'A', 'B', 'O', 'R', 'T']

/-- `sscanf(msg, LOC_MSG_HEAD"%zu", &msgLen)`: what `msgLen` holds afterwards. -/
def sscanfMsgLen (msg : Bytes) (msgLen : Nat) : Nat :=
  if LOC_MSG_HEAD.isPrefixOf msg then (scanSize (msg.drop LOC_MSG_HEAD.length)).getD msgLen
  else msgLen

/-! ## Sending -/

/-- The size of the next part when `left` bytes are left. -/
def partLen (left : Nat) : Nat := if left > LOC_MSG_BUF_LEN then LOC_MSG_BUF_LEN else left

theorem partLen_pos {left : Nat} (h : 0 < left) : 0 < partLen left := by
  unfold partLen LOC_MSG_BUF_LEN
  split <;> omega

theorem partLen_le (left : Nat) : partLen left ≤ left := by
  unfold partLen
  split <;> omega

theorem partLen_le_buf (left : Nat) : partLen left ≤ LOC_MSG_BUF_LEN := by
  unfold partLen
  split <;> omega

/-- The loop over the parts of a long message. -/
def sendParts (data : Bytes) (length sentBytes : Nat) : List Bytes :=
  if _ : sentBytes < length then
    (data.drop sentBytes).take (partLen (length - sentBytes)) ::
      sendParts data length (sentBytes + partLen (length - sentBytes))
  else []
termination_by length - sentBytes
decreasing_by
  have := @partLen_pos (length - sentBytes) (by omega)
  omega

def header (length : Nat) : Bytes := LOC_MSG_HEAD ++ to_string length

/-- The datagrams of `length` bytes of `data`. -/
def sendData (data : Bytes) (length : Nat) : List Bytes :=
  if length ≤ LOC_MSG_BUF_LEN then [data.take length]
  else header length :: sendParts data length 0

/-- `send` of a string: its length is narrowed to `uint32_t` on the way. -/
def send (data : Bytes) : List Bytes := sendData data (data.length % 2 ^ 32)

/-! ## Receiving -/

/-- Which `recvfrom` the loop is blocked in. -/
inductive Position
  /-- The read at the top of the loop. -/
  | outer
  /-- The read of a long message's parts. -/
  | inner (msgLenReceived : Nat)
  /-- The loop was left. -/
  | ended
  deriving DecidableEq, Repr

structure Listener where
  msg : Bytes
  position : Position
  /-- The arguments of `onReceive`, call by call. -/
  received : List Bytes
  deriving DecidableEq, Repr

def start : Listener := ⟨[], .outer, []⟩

/-- `onReceive(msg)` and back to the top of the loop. -/
def Listener.onReceive (ℓ : Listener) (msg : Bytes) : Listener :=
  { msg := msg, position := .outer, received := ℓ.received ++ [msg] }

/-- The read at the top of the loop returns with the datagram `d`. -/
def Listener.recvMessage (ℓ : Listener) (d : Bytes) : Listener :=
  let msg := resize 0 LOC_MSG_BUF_LEN ℓ.msg
  let nBytes := min d.length msg.length
  let msg := recvInto msg 0 d
  if nBytes = 0 then { ℓ with msg := msg }
  else if strncmp msg LOC_MSG_ABORT LOC_MSG_ABORT.length = 0 then
    { ℓ with msg := msg, position := .ended }
  else if strncmp msg LOC_MSG_HEAD LOC_MSG_HEAD.length ≠ 0 then
    -- short message
    ℓ.onReceive (resize 0 nBytes msg)
  else
    -- long message
    let msgLen := sscanfMsgLen msg 0
    let msg := resize 0 msgLen msg
    if 0 < msgLen then { ℓ with msg := msg, position := .inner 0 } else ℓ.onReceive msg

/-- The read of a part returns with the datagram `d`. -/
def Listener.recvPart (ℓ : Listener) (msgLenReceived : Nat) (d : Bytes) : Listener :=
  let nBytes := min d.length (ℓ.msg.length - msgLenReceived)
  let msg := recvInto ℓ.msg msgLenReceived d
  if nBytes = 0 then { ℓ with msg := msg, position := .ended }
  else if msgLenReceived + nBytes < ℓ.msg.length then
    { ℓ with msg := msg, position := .inner (msgLenReceived + nBytes) }
  else ℓ.onReceive msg

def recv (ℓ : Listener) (d : Bytes) : Listener :=
  match ℓ.position with
  | .outer => ℓ.recvMessage d
  | .inner msgLenReceived => ℓ.recvPart msgLenReceived d
  | .ended => ℓ

/-- The receive loop over the datagrams that arrive. -/
def listen (ℓ : Listener) (datagrams : List Bytes) : Listener := run recv ℓ datagrams

end DeviceHal.Utils.LocIpc
