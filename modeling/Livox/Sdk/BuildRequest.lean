import Livox.Sdk.LivoxLidarDef
import Livox.Library.Exec

open memory checked

namespace livox_lidar

def kHAPPointDataPort : UInt16 := 57000
def kHAPIMUPort : UInt16 := 58000
def kMid360LidarPushMsgPort : UInt16 := 56200
def kMid360LidarPointCloudPort : UInt16 := 56300
def kMid360LidarImuDataPort : UInt16 := 56400
def kPaLidarPointCloudPort : UInt16 := 10000
def kMid360sLidarPointCloudPort : UInt16 := 56300
def kMid360sLidarImuDataPort : UInt16 := 56400
def kAvia2LidarPushMsgPort : UInt16 := 56200
def kAvia2LidarPointCloudPort : UInt16 := 56300
def kAvia2LidarImuDataPort : UInt16 := 56400

/-- What the builders read of `HostNetInfo`. -/
structure HostNetInfo where
  host_ip : List UInt8
  multicast_ip : List UInt8
  push_msg_port : UInt16
  point_data_port : UInt16
  imu_data_port : UInt16

structure LivoxLidarCfg where
  device_type : UInt8
  host_net_info : HostNetInfo

structure ViewLidarIpInfo where
  dev_type : UInt8
  host_ip : List UInt8
  lidar_point_port : UInt16
  lidar_imu_data_port : UInt16
  host_point_port : UInt16
  host_imu_data_port : UInt16

structure LivoxLidarIpInfo where
  ip_addr : Bytes 16
  net_mask : Bytes 16
  gw_addr : Bytes 16

/-- `HostStateInfoIpInfo`, `HostPointIPInfo` and `HostImuDataIPInfo`: an address, the
port of the host and the one of the lidar. -/
structure HostIpInfo where
  host_ip_addr : Bytes 16
  host_port : UInt16
  lidar_port : UInt16

structure NTPServerIpInfo where
  host_ip : Bytes 16

/-- How a builder ends without a request: it returns false, one of the exceptions of
`std::stoi` leaves it, or it reads outside an array. -/
inductive BuildError where
  | refused
  | invalid_argument
  | out_of_range
  | fault (fault : Fault)
  deriving DecidableEq, Repr

abbrev Build (α : Type) := Except BuildError α

namespace build_request

def isspace (c : UInt8) : Bool := c = 32 || (9 ≤ c && c ≤ 13)

def isdigit (c : UInt8) : Bool := 48 ≤ c && c ≤ 57

/-- The number that decimal digits stand for. -/
def decimal (digits : List UInt8) : Nat :=
  digits.foldl (fun n c => 10 * n + (c.toNat - 48)) 0

/-- The sign in front of a number, and what is behind it. -/
def sign : List UInt8 → Int × List UInt8
  | [] => (1, [])
  | c :: rest => if c = 45 then (-1, rest) else if c = 43 then (1, rest) else (1, c :: rest)

/-- `std::stoi`: blanks, a sign, digits, and anything behind them. -/
def stoi (src : List UInt8) : Build Int :=
  let signed := sign (src.dropWhile isspace)
  let digits := signed.2.takeWhile isdigit
  if digits = [] then .error .invalid_argument
  else
    let val := signed.1 * decimal digits
    if val < -(2 ^ 31) ∨ 2 ^ 31 ≤ val then .error .out_of_range else .ok val

/-- One number of an address, as it is pushed to the bytes of the result. -/
def read_octet (src : List UInt8) : Build UInt8 := do
  let val ← stoi src
  if val < 0 ∨ val > 256 then .error .refused else .ok (UInt8.ofNat val.toNat)

/-- The loop of `IpToU8` over what stands between the separators, and what it does
behind the last of them. -/
def read_octets : List (List UInt8) → Build (List UInt8)
  | [] => .ok []
  | [last] => if last = [] then .ok [] else do
    let val ← read_octet last
    pure [val]
  | field :: rest => do
    let val ← read_octet field
    let more ← read_octets rest
    pure (val :: more)

/-- `IpToU8`, with the separator of all its calls. -/
def ip_to_u8 (src : List UInt8) : Build (List UInt8) := do
  let result ← read_octets (src.splitOn 46)
  if result.length ≠ 4 then .error .refused else .ok result

/-- The conversion of an array of characters to `std::string`. -/
def c_str (storage : Bytes 16) : Build (List UInt8) :=
  match readString storage.1 with
  | .ok text => .ok text
  | .error fault => .error (.fault fault)

/-- The buffer of a request, and what has been used of it. -/
structure Request where
  req_buf : Nat → UInt8
  req_len : UInt16

namespace Request

/-- The buffer and length that the callers start with. -/
def zero : Request := { req_buf := fun _ => 0, req_len := 0 }

def write (req : Request) (offset : Nat) (src : List UInt8) : Request :=
  { req with req_buf := store req.req_buf (req.req_len.toNat + offset) src }

/-- Write the number of keys; the records start behind it and two more bytes. -/
def set_key_num (req : Request) (key_num : UInt16) : Request :=
  { req.write 0 (bytes 2 key_num.toNat) with req_len := 2 + 2 }

/-- Write the head of the next record. -/
def set_key (req : Request) (key : ParamKeyName) (length : UInt16) : Request :=
  (req.write 0 (bytes 2 key.value.toNat)).write 2 (bytes 2 length.toNat)

/-- Count a record with a value of `size` bytes. -/
def add_record (req : Request) (size : UInt16) : Request :=
  { req with req_len := req.req_len + (5 - 1 + size) }

end Request

/-- `InitHostIpAddr`, and `InitMulticastHostIpAddr`, which does the same. -/
def init_host_ip_addr (host_ip : List UInt8) (req : Request) : Build Request := do
  let vec_host_ip ← ip_to_u8 host_ip
  pure (req.write 4 vec_host_ip)

/-- The ports of a record, behind its address, and the end of the record. -/
def set_ports (host_port lidar_port : UInt16) (req : Request) : Request :=
  ((req.write 8 (bytes 2 host_port.toNat)).write 10 (bytes 2 lidar_port.toNat)).add_record 8

/-- The address to which a lidar sends: that of a multicast group where one is
configured. -/
def init_data_ip_addr (host_net_info : HostNetInfo) (req : Request) : Build Request :=
  if host_net_info.multicast_ip = [] then init_host_ip_addr host_net_info.host_ip req
  else init_host_ip_addr host_net_info.multicast_ip req

/-- `BuildUpdateViewLidarCfgRequest`. -/
def build_update_view_lidar_cfg_request (info : ViewLidarIpInfo) (req : Request) :
    Build Request := do
  let key_num := if info.dev_type = kLivoxLidarTypePA then 1 else 2
  let req := { req with req_len := 0 }
  let req := (req.set_key_num key_num).set_key .kKeyLidarPointDataHostIpCfg 8
  let req ← init_host_ip_addr info.host_ip req
  let req := set_ports info.host_point_port info.lidar_point_port req
  if info.dev_type = kLivoxLidarTypePA then pure req
  else
    let req ← init_host_ip_addr info.host_ip (req.set_key .kKeyLidarImuHostIpCfg 8)
    pure (set_ports info.host_imu_data_port info.lidar_imu_data_port req)

/-- The three records of the next two builders, with the ports of the lidar. -/
def build_update_three_host_cfg (lidar_state_port lidar_point_port lidar_imu_port : UInt16)
    (lidar_cfg : LivoxLidarCfg) (req : Request) : Build Request := do
  let net := lidar_cfg.host_net_info
  let req := (req.set_key_num 3).set_key .kKeyStateInfoHostIpCfg 8
  -- the address of the host is written first, whatever comes over it
  let req ← init_host_ip_addr net.host_ip req
  let req ← init_data_ip_addr net req
  let req := set_ports net.push_msg_port lidar_state_port req
  let req ← init_data_ip_addr net (req.set_key .kKeyLidarPointDataHostIpCfg 8)
  let req := set_ports net.point_data_port lidar_point_port req
  let req ← init_data_ip_addr net (req.set_key .kKeyLidarImuHostIpCfg 8)
  pure (set_ports net.imu_data_port lidar_imu_port req)

/-- `BuildUpdateMid360LidarCfgRequest`. -/
def build_update_mid360_lidar_cfg_request :=
  build_update_three_host_cfg kMid360LidarPushMsgPort kMid360LidarPointCloudPort
    kMid360LidarImuDataPort

/-- `BuildUpdateAvia2LidarCfgRequest`, with one port of another type. -/
def build_update_avia2_lidar_cfg_request :=
  build_update_three_host_cfg kAvia2LidarPushMsgPort kAvia2LidarPointCloudPort
    kMid360LidarImuDataPort

/-- `BuildUpdateLidarCfgRequest`. -/
def build_update_lidar_cfg_request (lidar_cfg : LivoxLidarCfg) (req : Request) :
    Build Request := do
  let net := lidar_cfg.host_net_info
  let key_num := if lidar_cfg.device_type = kLivoxLidarTypePA then 1 else 2
  let req := (req.set_key_num key_num).set_key .kKeyLidarPointDataHostIpCfg 8
  let req ← init_data_ip_addr net req
  let lidar_point_port ←
    if lidar_cfg.device_type = kLivoxLidarTypeIndustrialHAP then .ok kHAPPointDataPort
    else if lidar_cfg.device_type = kLivoxLidarTypeMid360 then .ok kMid360LidarPointCloudPort
    else if lidar_cfg.device_type = kLivoxLidarTypePA then .ok kPaLidarPointCloudPort
    else if lidar_cfg.device_type = kLivoxLidarTypeMid360s then .ok kMid360sLidarPointCloudPort
    else if lidar_cfg.device_type = kLivoxLidarTypeAvia2 then .ok kAvia2LidarPointCloudPort
    else .error .refused
  let req := set_ports net.point_data_port lidar_point_port req
  if lidar_cfg.device_type = kLivoxLidarTypePA then pure req
  else
    let req ← init_data_ip_addr net (req.set_key .kKeyLidarImuHostIpCfg 8)
    let lidar_imu_port ←
      if lidar_cfg.device_type = kLivoxLidarTypeIndustrialHAP then .ok kHAPIMUPort
      else if lidar_cfg.device_type = kLivoxLidarTypeMid360 then .ok kMid360LidarImuDataPort
      else if lidar_cfg.device_type = kLivoxLidarTypeMid360s then .ok kMid360sLidarImuDataPort
      else if lidar_cfg.device_type = kLivoxLidarTypeAvia2 then .ok kAvia2LidarImuDataPort
      else .error .refused
    pure (set_ports net.imu_data_port lidar_imu_port req)

/-- `BuildSetLidarIPInfoRequest`, with `InitLidarIpinfoVal`. -/
def build_set_lidar_ip_info_request (lidar_ip_config : LivoxLidarIpInfo) (req : Request) :
    Build Request := do
  let req := (req.set_key_num 1).set_key .kKeyLidarIpCfg 12
  let vec_lidar_ip ← ip_to_u8 (← c_str lidar_ip_config.ip_addr)
  let req := req.write 4 vec_lidar_ip
  let vec_lidar_subnet_mask ← ip_to_u8 (← c_str lidar_ip_config.net_mask)
  let req := req.write 8 vec_lidar_subnet_mask
  let vec_lidar_gateway ← ip_to_u8 (← c_str lidar_ip_config.gw_addr)
  let req := req.write 12 vec_lidar_gateway
  pure (req.add_record 12)

/-- `BuildSetNTPserverIPInfoRequest`, with `InitServerIpinfoVal`. -/
def build_set_ntp_server_ip_info_request (server_ip_config : NTPServerIpInfo) (req : Request) :
    Build Request := do
  let req := (req.set_key_num 1).set_key .kKeySetNTPServerIp 4
  let vec_server_ip ← ip_to_u8 (← c_str server_ip_config.host_ip)
  pure ((req.write 4 vec_server_ip).add_record 4)

/-- The request of one record with an address and two ports. -/
def build_set_host_ip_cfg_request (key : ParamKeyName) (host_ip_cfg : HostIpInfo)
    (req : Request) : Build Request := do
  let req := (req.set_key_num 1).set_key key 8
  let req ← init_host_ip_addr (← c_str host_ip_cfg.host_ip_addr) req
  pure (set_ports host_ip_cfg.host_port host_ip_cfg.lidar_port req)

/-- `BuildSetHostStateInfoIPCfgRequest`. -/
def build_set_host_state_info_ip_cfg_request :=
  build_set_host_ip_cfg_request .kKeyStateInfoHostIpCfg

/-- `BuildSetHostPointDataIPInfoRequest`. -/
def build_set_host_point_data_ip_info_request :=
  build_set_host_ip_cfg_request .kKeyLidarPointDataHostIpCfg

/-- `BuildSetHostImuDataIPInfoRequest`. -/
def build_set_host_imu_data_ip_info_request :=
  build_set_host_ip_cfg_request .kKeyLidarImuHostIpCfg

end build_request

end livox_lidar
