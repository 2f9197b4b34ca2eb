import Livox.Library.Memory

open memory

namespace livox_lidar

/-- The two checksums of a frame, as functions of the bytes they read. -/
structure FastCRC where
  ccitt : List UInt8 → UInt16
  crc32 : List UInt8 → UInt32

def kLidarSdk : UInt8 := 0

def kSdkProtocolSof : UInt8 := 0xAA
def kSdkVer : UInt8 := 0

structure CommPacket where
  protocol : UInt8
  version : UInt8
  seq_num : UInt32
  cmd_id : UInt16
  cmd_type : UInt8
  sender_type : UInt8
  data : Pointer
  data_len : UInt16

/-- The bytes that the packet carries. -/
def CommPacket.payload (packet : CommPacket) : List UInt8 :=
  packet.data.load packet.data_len.toNat

/-- `sizeof(SdkPreamble)`. -/
def get_preamble_len : UInt32 := 24

/-- `sizeof(SdkPacket) - 1`. -/
def get_packet_wrapper_len : UInt32 := 24

namespace sdk_packet

/-! The fields of the packed `SdkPacket` at their places. -/

def sof (packet : Pointer) : UInt8 := packet.u8 0
def version (packet : Pointer) : UInt8 := packet.u8 1
def length (packet : Pointer) : UInt16 := packet.u16 2
def seq_num (packet : Pointer) : UInt32 := packet.u32 4
def cmd_id (packet : Pointer) : UInt16 := packet.u16 8
def cmd_type (packet : Pointer) : UInt8 := packet.u8 10
def sender_type (packet : Pointer) : UInt8 := packet.u8 11
def crc16_h (packet : Pointer) : UInt16 := packet.u16 18
def crc32_d (packet : Pointer) : UInt32 := packet.u32 20
def data (packet : Pointer) : Pointer := packet.add 24

end sdk_packet

structure PackResult where
  ret : Int32
  o_buf : Nat → UInt8
  o_len : UInt32

/-- The frame's length as `Pack` stores it, in 16 bits. -/
def frame_length (data_len : UInt16) : UInt16 :=
  (data_len.toUInt32 + get_packet_wrapper_len).toUInt16

/-- `SdkProtocol::Pack`. The start, the version and the length are in the buffer
before the length is compared with the buffer's size. -/
def pack (crc : FastCRC) (o_buf : Nat → UInt8) (o_buf_size o_len : UInt32)
    (i_packet : CommPacket) : PackResult :=
  if i_packet.protocol ≠ kLidarSdk then
    { ret := -1, o_buf, o_len }
  else
    let length := frame_length i_packet.data_len
    let o_buf := store o_buf 0 [kSdkProtocolSof]
    let o_buf := store o_buf 1 [kSdkVer]
    let o_buf := store o_buf 2 (bytes 2 length.toNat)
    if length.toUInt32 > o_buf_size then
      { ret := -1, o_buf, o_len }
    else
      let o_buf := store o_buf 4 (bytes 4 (i_packet.seq_num &&& 0xFFFF).toNat)
      let o_buf := store o_buf 8 (bytes 2 i_packet.cmd_id.toNat)
      let o_buf := store o_buf 10 [i_packet.cmd_type]
      let o_buf := store o_buf 11 [i_packet.sender_type]
      -- the six reserved bytes are summed as they were found
      let o_buf := store o_buf 18 (bytes 2 (crc.ccitt (load o_buf 0 18)).toNat)
      let crc32_d := if i_packet.data_len = 0 then 0 else crc.crc32 i_packet.payload
      let o_buf := store o_buf 20 (bytes 4 crc32_d.toNat)
      let o_buf := store o_buf 24 i_packet.payload
      { ret := 0, o_buf, o_len := length.toUInt32 }

/-- A run of bytes of a buffer that a checksum has been computed over. -/
structure Span where
  start : Nat
  len : Nat
  deriving DecidableEq, Repr

/-- `SdkProtocol::CheckPreamble`, with the bytes that it summed on the way. The
number of bytes received is only compared with the size of the preamble. -/
def check_preamble (crc : FastCRC) (buf : Pointer) (buf_size : UInt32) : Bool × List Span :=
  if buf_size < get_preamble_len then (false, [])
  else if sdk_packet.sof buf ≠ kSdkProtocolSof then (false, [])
  else if sdk_packet.version buf ≠ kSdkVer then (false, [])
  else if (sdk_packet.length buf).toUInt32 < get_preamble_len then (false, [])
  else
    let header : Span := { start := 0, len := 18 }
    let crc16_h := crc.ccitt (buf.load 18)
    if sdk_packet.crc16_h buf ≠ crc16_h then (false, [header])
    else
      let data_len := (sdk_packet.length buf).toUInt32 - get_packet_wrapper_len
      let data : Span := { start := 24, len := data_len.toNat }
      let spans := if data_len = 0 then [header] else [header, data]
      let crc32_d := if data_len = 0 then 0 else crc.crc32 ((sdk_packet.data buf).load data_len.toNat)
      (decide (sdk_packet.crc32_d buf = crc32_d), spans)

/-- `SdkProtocol::ParsePacket`. -/
def parse_packet (i_buf : Pointer) (buf_size : UInt32) : Option CommPacket :=
  if buf_size < get_packet_wrapper_len then none
  else
    some
      { protocol := kLidarSdk
        version := sdk_packet.version i_buf
        seq_num := sdk_packet.seq_num i_buf
        cmd_id := sdk_packet.cmd_id i_buf
        cmd_type := sdk_packet.cmd_type i_buf
        sender_type := sdk_packet.sender_type i_buf
        data := sdk_packet.data i_buf
        data_len := ((sdk_packet.length i_buf).toUInt32 - get_packet_wrapper_len).toUInt16 }

/-- `CommPort::ParseCommStream`: the packet when it returns true. -/
def parse_comm_stream (crc : FastCRC) (buf : Pointer) (buf_size : UInt32) :
    Option CommPacket × List Span :=
  let (accepted, spans) := check_preamble crc buf buf_size
  if accepted then (parse_packet buf buf_size, spans) else (none, spans)

namespace fast_crc

def rev16 (value : UInt16) : UInt16 := (value >>> 8) ||| ((value &&& 0xff) <<< 8)

/-- One bit of the division by 0x1021, highest bit first. -/
def ccitt_bit (crc : UInt16) : UInt16 :=
  if crc &&& 0x8000 = 0 then crc <<< 1 else (crc <<< 1) ^^^ 0x1021

/-- An entry of `crc_table_ccitt`, which holds its words with the bytes swapped. -/
def crc_table_ccitt (i : UInt16) : UInt16 := rev16 (ccitt_bit^[8] (i <<< 8))

/-- `FastCRC16::ccitt`, a byte at a time. -/
def ccitt (data : List UInt8) : UInt16 :=
  rev16 (data.foldl
    (fun crc b => (crc >>> 8) ^^^ crc_table_ccitt ((crc &&& 0xff) ^^^ b.toUInt16)) 0xffff)

/-- One bit of the division by the reflected polynomial, lowest bit first. -/
def crc32_bit (crc : UInt32) : UInt32 :=
  if crc &&& 1 = 0 then crc >>> 1 else (crc >>> 1) ^^^ 0xEDB88320

/-- An entry of `crc_table_crc32`. -/
def crc_table_crc32 (i : UInt32) : UInt32 := crc32_bit^[8] i

/-- `FastCRC32::crc32`, a byte at a time. -/
def crc32 (data : List UInt8) : UInt32 :=
  data.foldl
    (fun (crc : UInt32) b => (crc >>> 8) ^^^ crc_table_crc32 ((crc &&& 0xff) ^^^ b.toUInt32))
    0xffffffff ^^^ 0xffffffff

/-- The check values that the source gives for the digits `123456789`. -/
example : ccitt [49, 50, 51, 52, 53, 54, 55, 56, 57] = 0x29b1 := by decide +kernel

example : crc32 [49, 50, 51, 52, 53, 54, 55, 56, 57] = 0xcbf43926 := by decide +kernel

end fast_crc

/-- The checksums that the library ships. -/
def fast_crc : FastCRC where
  ccitt := fast_crc.ccitt
  crc32 := fast_crc.crc32

end livox_lidar
