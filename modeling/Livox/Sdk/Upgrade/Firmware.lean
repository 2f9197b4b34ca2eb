import Mathlib

namespace livox_lidar

def kEnlFileVersionV3 : UInt32 := 0x03000000

/-- What the upgrader reads of the header of a firmware file. -/
structure LivoxEncryptFirmwareHeader where
  file_version : UInt32
  firmware_version : UInt32
  firmware_length : UInt32
  firmware_type : UInt8
  device_type : UInt8
  encrypt_type : UInt8
  checksum_type : UInt8
  checksum_length : UInt16
  checksum : Vector UInt8 128
  hw_whitelist : Vector UInt8 128
  modify_time : UInt64

/-- `RequestUpgradeReturnCode`: the device is busy. -/
def kSystemIsNotReady : UInt8 := 2

def kGeneralTryCountLimit : UInt32 := 10
def kGetProcessTryCountLimit : UInt32 := 30

/-- A firmware that has been opened: `data_` is allocated with the length that the header
names, whatever could be read into it. -/
structure Firmware where
  header : LivoxEncryptFirmwareHeader
  data : List UInt8
  data_length : data.length = header.firmware_length.toNat

def Firmware.firmware_package_version (firmware : Firmware) : UInt32 :=
  firmware.header.file_version

end livox_lidar
