import Livox.Library.Memory
import Livox.Sdk.SdkProtocol
import Livox.Sdk.Upgrade.LivoxLidarUpgrader

open memory

namespace livox_lidar

namespace fast_crc

/-- One bit of the division by 0x1021, lowest bit first. -/
def mcrf4xx_bit (crc : UInt16) : UInt16 :=
  if crc &&& 1 = 0 then crc >>> 1 else (crc >>> 1) ^^^ 0x8408

/-- An entry of `crc_table_mcrf4xx`. -/
def crc_table_mcrf4xx (i : UInt16) : UInt16 := mcrf4xx_bit^[8] i

/-- `FastCRC16::mcrf4xx`, a byte at a time and with the seed that it sets. -/
def mcrf4xx (data : List UInt8) : UInt16 :=
  data.foldl (fun crc b => (crc >>> 8) ^^^ crc_table_mcrf4xx ((crc &&& 0xff) ^^^ b.toUInt16)) 0

example : crc_table_mcrf4xx 1 = 0x1189 := by decide

end fast_crc

/-- `std::ifstream` between two reads: the bytes that follow, and whether it is still good. -/
structure IfStream where
  rest : List UInt8
  good : Bool

/-- `read`: a stream that does not have all the bytes gives those that it has and fails, and a
failed one gives none. -/
def IfStream.read (stream : IfStream) (n : Nat) : List UInt8 × IfStream :=
  if stream.good then
    (stream.rest.take n, { rest := stream.rest.drop n, good := n ≤ stream.rest.length })
  else ([], stream)

/-- `sizeof(LivoxEncryptFirmwareHeader)` and `sizeof(LivoxEncryptFirmwareTail)`. -/
def header_size : Nat := 286
def tail_size : Nat := 16

/-- A field of the packed header, by its place and width. -/
def header_field (bytes : List UInt8) (offset width : Nat) : Nat :=
  value ((bytes.drop offset).take width)

def LivoxEncryptFirmwareHeader.of_bytes (bytes : List UInt8) : LivoxEncryptFirmwareHeader where
  file_version := UInt32.ofNat (header_field bytes 0 4)
  firmware_version := UInt32.ofNat (header_field bytes 4 4)
  firmware_length := UInt32.ofNat (header_field bytes 8 4)
  firmware_type := UInt8.ofNat (header_field bytes 12 1)
  device_type := UInt8.ofNat (header_field bytes 13 1)
  encrypt_type := UInt8.ofNat (header_field bytes 14 1)
  checksum_type := UInt8.ofNat (header_field bytes 17 1)
  checksum_length := UInt16.ofNat (header_field bytes 18 2)
  checksum := Vector.ofFn fun i => bytes.getD (20 + i) 0
  hw_whitelist := Vector.ofFn fun i => bytes.getD (148 + i) 0
  modify_time := UInt64.ofNat (header_field bytes 276 8)

/-- `header_checksum`, the last two bytes of the header. -/
def header_checksum (bytes : List UInt8) : UInt16 := UInt16.ofNat (header_field bytes 284 2)

/-- A firmware with the tail of its file. -/
structure FirmwareFile where
  firmware : Firmware
  tail : List UInt8

/-- What is in an object of `n` bytes after a read into it, over what has been in it. -/
def read_over (old : Nat → UInt8) (n : Nat) (bytes : List UInt8) : List UInt8 :=
  load (store old 0 bytes) 0 n

/-- The data of a firmware, in an array of the length of the header that has held `fresh`. -/
def Firmware.of_read (fresh : Nat → UInt8) (header : LivoxEncryptFirmwareHeader)
    (bytes : List UInt8) : Firmware where
  header
  data := read_over fresh header.firmware_length.toNat bytes
  data_length := length_load ..

/-- `ReadAndCheckHeader`. Whether the last reads have failed is only printed. -/
def read_and_check_header (fresh : Nat → UInt8) (file : List UInt8) : Option FirmwareFile :=
  let stream : IfStream := { rest := file, good := true }
  let (bytes, stream) := stream.read header_size
  let header_bytes := read_over (fun _ => 0) header_size bytes
  if fast_crc.mcrf4xx (header_bytes.take (header_size - 2)) ≠ header_checksum header_bytes then none
  else
    let header := LivoxEncryptFirmwareHeader.of_bytes header_bytes
    let (data, stream) := stream.read header.firmware_length.toNat
    let (tail, _) := stream.read tail_size
    some
      { firmware := Firmware.of_read fresh header data
        tail := read_over (fun _ => 0) tail_size tail }

/-- `Firmware::Open` of a new object; there is no file when the path is null or cannot be opened. -/
def firmware_open (fresh : Nat → UInt8) (file : Option (List UInt8)) : Option FirmwareFile :=
  match file with
  | none => none
  | some file =>
    if file.length < header_size + tail_size + 1 then none else read_and_check_header fresh file

section Open

variable {fresh : Nat → UInt8} {file : List UInt8} {image : FirmwareFile}

theorem read_over_of_length {old : Nat → UInt8} {n : Nat} {bytes : List UInt8}
    (h : bytes.length = n) : read_over old n bytes = bytes :=
  load_store_of_length old h

/-- The header at the front of a file. -/
def file_header (file : List UInt8) : LivoxEncryptFirmwareHeader :=
  LivoxEncryptFirmwareHeader.of_bytes (file.take header_size)

/-- A file that is opened has a whole header, whose checksum matches; then come the reads. -/
theorem firmware_open_cases (h : firmware_open fresh (some file) = some image) :
    header_size + tail_size < file.length ∧
      fast_crc.mcrf4xx (file.take (header_size - 2)) = header_checksum (file.take header_size) ∧
      image.firmware =
        Firmware.of_read fresh (file_header file)
          ((file.drop header_size).take (file_header file).firmware_length.toNat) ∧
      image.tail = read_over (fun _ => 0) tail_size
        (if (file_header file).firmware_length.toNat ≤ (file.drop header_size).length then
          (file.drop (header_size + (file_header file).firmware_length.toNat)).take tail_size
        else []) := by
  simp only [firmware_open] at h
  split at h
  · cases h
  · rename_i hsize
    have hlength : (file.take header_size).length = header_size := by
      rw [List.length_take]
      omega
    have hwhole : header_size ≤ file.length := by omega
    simp only [read_and_check_header, IfStream.read, if_true, read_over_of_length hlength] at h
    split at h
    · cases h
    · rename_i hchecksum
      obtain rfl := Option.some.inj h
      refine ⟨by omega, ?_, ?_, ?_⟩
      · simpa [List.take_take] using hchecksum
      · simp [hwhole, file_header]
      · by_cases hdata : (file_header file).firmware_length.toNat ≤ (file.drop header_size).length
        · rw [if_pos hdata]
          rw [file_header] at hdata
          simp only [hwhole, hdata, decide_true, if_true, List.drop_drop, file_header]
        · rw [if_neg hdata]
          rw [file_header] at hdata
          simp only [hwhole, hdata, decide_true, decide_false, if_true, Bool.false_eq_true, if_false]

/-- The header's checksum is all that a file long enough for a header has to get right. -/
theorem firmware_open_of_checksum (hsize : header_size + tail_size < file.length)
    (hchecksum : fast_crc.mcrf4xx (file.take (header_size - 2)) =
      header_checksum (file.take header_size)) :
    ∃ image, firmware_open fresh (some file) = some image ∧
      image.firmware.header = file_header file := by
  have hlength : (file.take header_size).length = header_size := by
    rw [List.length_take]
    omega
  have hwhole : header_size ≤ file.length := by omega
  have hsame : (file.take header_size).take (header_size - 2) = file.take (header_size - 2) := by
    simp [List.take_take]
  simp only [firmware_open, read_and_check_header, IfStream.read, if_true,
    read_over_of_length hlength, hsame]
  rw [if_neg (by omega), if_neg (not_not_intro hchecksum)]
  exact ⟨_, rfl, rfl⟩

/-- What an opened firmware should be: its checksum matches, its data and its tail are those of the
file, and the request that ends its transfer carries the checksum of the header. -/
structure ValidImage (file : List UInt8) (image : FirmwareFile) : Prop where
  header_checksum :
    fast_crc.mcrf4xx (file.take (header_size - 2)) = header_checksum (file.take header_size)
  data_inside : header_size + image.firmware.header.firmware_length.toNat ≤ file.length
  data : image.firmware.data =
    (file.drop header_size).take image.firmware.header.firmware_length.toNat
  tail_inside :
    header_size + image.firmware.header.firmware_length.toNat + tail_size ≤ file.length
  tail : image.tail =
    (file.drop (header_size + image.firmware.header.firmware_length.toNat)).take tail_size
  checksum_length : ∀ upgrader : LivoxLidarUpgrader, upgrader.firmware = image.firmware →
    upgrader.complete_xfer_firmware_request.checksum_length.toNat =
      image.firmware.header.checksum_length.toNat
  checksum_fits : image.firmware.header.checksum_length.toNat ≤ 128
  checksum : ∀ upgrader : LivoxLidarUpgrader, upgrader.firmware = image.firmware →
    upgrader.complete_xfer_firmware_request.checksum =
      image.firmware.header.checksum.toList.take image.firmware.header.checksum_length.toNat

/-- Of a checksum that fits in its array the request carries exactly the bytes. -/
theorem complete_xfer_firmware_request_checksum {upgrader : LivoxLidarUpgrader}
    (hfits : upgrader.firmware.header.checksum_length.toNat ≤ 128) :
    upgrader.complete_xfer_firmware_request.checksum_length.toNat =
        upgrader.firmware.header.checksum_length.toNat ∧
      upgrader.complete_xfer_firmware_request.checksum =
        upgrader.firmware.header.checksum.toList.take
          upgrader.firmware.header.checksum_length.toNat := by
  have hbyte : upgrader.firmware.header.checksum_length.toUInt8.toNat =
      upgrader.firmware.header.checksum_length.toNat := by
    rw [UInt16.toNat_toUInt8]
    omega
  refine ⟨hbyte, ?_⟩
  simp only [LivoxLidarUpgrader.complete_xfer_firmware_request, hbyte]
  rw [List.take_append_of_le_length (by simpa using hfits)]

/-- An opened firmware is valid exactly when its file is long enough for the data and the tail, and
the length of its checksum is one that the array has room for. -/
theorem firmware_open_valid_iff (hopen : firmware_open fresh (some file) = some image) :
    ValidImage file image ↔
      header_size + (file_header file).firmware_length.toNat + tail_size ≤ file.length ∧
        (file_header file).checksum_length.toNat ≤ 128 := by
  obtain ⟨hsize, hchecksum, hfirmware, htail⟩ := firmware_open_cases hopen
  have hheader : image.firmware.header = file_header file := by
    rw [hfirmware]
    rfl
  constructor
  · intro h
    rw [← hheader]
    exact ⟨h.tail_inside, h.checksum_fits⟩
  · rintro ⟨hlong, hfits⟩
    have hdata : ((file.drop header_size).take (file_header file).firmware_length.toNat).length =
        (file_header file).firmware_length.toNat := by
      rw [List.length_take, List.length_drop]
      omega
    have hfitting : image.firmware.header.checksum_length.toNat ≤ 128 := by rwa [hheader]
    refine ⟨hchecksum, ?_, ?_, ?_, ?_, ?_, hfitting, ?_⟩
    · rw [hheader]
      omega
    · rw [hheader, hfirmware]
      exact read_over_of_length hdata
    · rwa [hheader]
    · rw [hheader, htail, if_pos (by rw [List.length_drop]; omega)]
      apply read_over_of_length
      rw [List.length_take, List.length_drop]
      omega
    · intro upgrader hsame
      rw [← hsame] at hfitting ⊢
      exact (complete_xfer_firmware_request_checksum hfitting).1
    · intro upgrader hsame
      rw [← hsame] at hfitting ⊢
      exact (complete_xfer_firmware_request_checksum hfitting).2

/-- A file of 303 bytes, a header with a length and a checksum and 17 bytes of nothing. -/
def sample_file (length_low length_high checksum_low checksum_high : UInt8) : List UInt8 :=
  List.replicate 8 0 ++ [length_low, length_high] ++ List.replicate 274 0 ++
    [checksum_low, checksum_high] ++ List.replicate 17 0

theorem firmware_open_valid_iff_one :
    ∃ image, firmware_open (fun _ => 0) (some (sample_file 1 0 0x2B 0x43)) = some image ∧
      ValidImage (sample_file 1 0 0x2B 0x43) image := by
  obtain ⟨image, hopen, -⟩ : ∃ image,
      firmware_open (fun _ => 0) (some (sample_file 1 0 0x2B 0x43)) = some image ∧ _ :=
    firmware_open_of_checksum (by decide +kernel) (by decide +kernel)
  exact ⟨image, hopen, (firmware_open_valid_iff hopen).mpr (by decide +kernel)⟩

/-- A header that promises 1000 bytes is opened with 17 behind it. -/
theorem firmware_open_short_file :
    ¬ ∀ (fresh : Nat → UInt8) (file : List UInt8) (image : FirmwareFile),
      firmware_open fresh (some file) = some image → ValidImage file image := by
  intro hvalid
  obtain ⟨image, hopen, hheader⟩ : ∃ image,
      firmware_open (fun _ => 0) (some (sample_file 0xE8 3 0x11 0x99)) = some image ∧ _ :=
    firmware_open_of_checksum (by decide +kernel) (by decide +kernel)
  have hinside := (hvalid _ _ _ hopen).data_inside
  rw [hheader] at hinside
  exact absurd hinside (by decide +kernel)

end Open

end livox_lidar
