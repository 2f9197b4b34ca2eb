import Livox.Library.Memory
import Livox.Library.PackedRecords
import Livox.Lddc.Draining

open checked memory packed_records

namespace livox_ros

section Bytes

variable {F : Type} (float_bits : F → UInt32) (double_bits : UInt64 → UInt64)

/-- The members of a point as they lie in memory, one behind the other. -/
def LivoxPointXyzrtlt.members (point : LivoxPointXyzrtlt F) : List (List UInt8) :=
  [bytes 4 (float_bits point.x).toNat, bytes 4 (float_bits point.y).toNat,
    bytes 4 (float_bits point.z).toNat, bytes 4 (float_bits point.reflectivity).toNat,
    [point.tag], [point.line], bytes 8 (double_bits point.timestamp).toNat]

/-- What is copied to `data`. -/
def PointCloud2.data_bytes (cloud : PointCloud2 F) : List UInt8 :=
  cloud.data.flatMap fun point => (point.members float_bits double_bits).flatten

/-- How many bytes a value of a datatype of `PointField` has. -/
def datatype_size (datatype : UInt8) : Nat :=
  if datatype = UINT8 then 1
  else if datatype = FLOAT32 then 4
  else if datatype = FLOAT64 then 8
  else 0

/-- What a subscriber reads: it looks the field up by its name, and takes the place of its value from
the message. -/
def PointCloud2.read_field (cloud : PointCloud2 F) (i : Nat) (name : String) : Option Nat :=
  (cloud.fields.find? (·.name = name)).map fun field =>
    value (read cloud.point_step.toNat (cloud.data_bytes float_bits double_bits) i
      field.offset.toNat (datatype_size field.datatype))

/-- The values of a point of a packet under the names of their fields. -/
def PointXyzlt.field_values (point : PointXyzlt F) : List (String × Nat) :=
  [("x", (float_bits point.x).toNat), ("y", (float_bits point.y).toNat),
    ("z", (float_bits point.z).toNat), ("intensity", (float_bits point.intensity).toNat),
    ("tag", point.tag.toNat), ("line", point.line.toNat),
    ("timestamp", (double_bits point.offset_time).toNat)]

end Bytes

section ReadBack

variable {F : Type} {float_bits : F → UInt32} {double_bits : UInt64 → UInt64}

theorem LivoxPointXyzrtlt.length_members (point : LivoxPointXyzrtlt F) :
    (point.members float_bits double_bits).flatten.length = point_size.toNat := by
  simp [members, point_size]

theorem value_bytes_float (n : UInt32) : value (bytes 4 n.toNat) = n.toNat := by
  have hn := n.toNat_lt
  rw [value_bytes]
  omega

theorem value_bytes_double (n : UInt64) : value (bytes 8 n.toNat) = n.toNat := by
  have hn := n.toNat_lt
  rw [value_bytes]
  omega

theorem value_singleton (b : UInt8) : value [b] = b.toNat := by
  rw [value_cons, value_nil, Nat.mul_zero, Nat.add_zero]

/-- Looking a field up finds the member that lies at its offset. -/
theorem PointCloud2.read_field_eq {cloud : PointCloud2 F} (hstep : cloud.point_step = point_size)
    {i : Nat} {point : LivoxPointXyzrtlt F} (hpoint : cloud.data[i]? = some point) {name : String}
    {field : PointField} (hfield : cloud.fields.find? (·.name = name) = some field) (j : Nat)
    {member : List UInt8} (hmember : (point.members float_bits double_bits)[j]? = some member)
    (hoffset : ((point.members float_bits double_bits).take j).flatten.length = field.offset.toNat)
    (hsize : member.length = datatype_size field.datatype) :
    cloud.read_field float_bits double_bits i name = some (value member) := by
  obtain ⟨hj, hget⟩ := List.getElem?_eq_some_iff.mp hmember
  have hmembers : point.members float_bits double_bits =
      (point.members float_bits double_bits).take j ++
        member :: (point.members float_bits double_bits).drop (j + 1) := by
    rw [← hget, ← List.drop_eq_getElem_cons hj, List.take_append_drop]
  have hinside : field.offset.toNat + datatype_size field.datatype ≤ point_size.toNat := by
    have hlength : (point.members float_bits double_bits).flatten.length = point_size.toNat :=
      point.length_members
    rw [hmembers, List.flatten_append, List.length_append, List.flatten_cons, List.length_append,
      hoffset, hsize] at hlength
    omega
  rw [read_field, hfield, Option.map_some, data_bytes, hstep,
    read_flatMap LivoxPointXyzrtlt.length_members hpoint hinside, hmembers,
    take_drop_flatten hoffset hsize]

/-- Every field of a message that has the table of the driver reads as the point has it. -/
theorem PointCloud2.read_field_values {cloud : PointCloud2 F}
    (hfields : cloud.fields = Lddc.pointcloud2_fields) (hstep : cloud.point_step = point_size)
    {i : Nat} {point : PointXyzlt F} (hpoint : cloud.data[i]? = some (Lddc.pointcloud2_point point)) :
    ∀ named ∈ point.field_values float_bits double_bits,
      cloud.read_field float_bits double_bits i named.1 = some named.2 := by
  have hfind : ∀ name, cloud.fields.find? (·.name = name) =
      Lddc.pointcloud2_fields.find? (·.name = name) := by
    intro name
    rw [hfields]
  intro named hnamed
  simp only [PointXyzlt.field_values, List.mem_cons, List.not_mem_nil, or_false] at hnamed
  rcases hnamed with rfl | rfl | rfl | rfl | rfl | rfl | rfl
  · rw [read_field_eq hstep hpoint (hfind "x") 0 rfl rfl rfl, value_bytes_float]
    rfl
  · rw [read_field_eq hstep hpoint (hfind "y") 1 rfl rfl rfl, value_bytes_float]
    rfl
  · rw [read_field_eq hstep hpoint (hfind "z") 2 rfl rfl rfl, value_bytes_float]
    rfl
  · rw [read_field_eq hstep hpoint (hfind "intensity") 3 rfl rfl rfl, value_bytes_float]
    rfl
  · rw [read_field_eq hstep hpoint (hfind "tag") 4 rfl rfl rfl, value_singleton]
    rfl
  · rw [read_field_eq hstep hpoint (hfind "line") 5 rfl rfl rfl, value_singleton]
    rfl
  · rw [read_field_eq hstep hpoint (hfind "timestamp") 6 rfl rfl rfl, value_bytes_double]
    rfl

end ReadBack

/-- What a subscriber reads in the message of a packet by the message's own table of fields is what
the packet has: as many points, each with its values, in the order of the packet, and no byte more.
The length of a row says the same as long as it fits its 32 bits. -/
theorem pointcloud2_read_back {F : Type} (float_bits : F → UInt32) (double_bits : UInt64 → UInt64)
    (lddc : Lddc) (packet : ReadablePacket F) (base_time : UInt64) :
    ∃ cloud, lddc.init_pointcloud2_msg (StoragePacket.of_point_packet packet base_time) = .ok cloud ∧
      cloud.width = packet.val.points_num ∧
      (cloud.data_bytes float_bits double_bits).length =
        cloud.width.toNat * cloud.point_step.toNat ∧
      (cloud.row_step.toNat * cloud.height.toNat =
          (cloud.data_bytes float_bits double_bits).length ↔
        cloud.width.toNat * cloud.point_step.toNat < 2 ^ 32) ∧
      ∀ i point, (packet.val.points.take packet.val.points_num.toNat)[i]? = some point →
        ∀ named ∈ point.field_values float_bits double_bits,
          cloud.read_field float_bits double_bits i named.1 = some named.2 := by
  have hwhole := StoragePacket.whole_of_point_packet packet base_time
  have hconvert := mapM_points_eq Lddc.pointcloud2_point hwhole
  rw [← Lddc.convert_points] at hconvert
  have hlength : (((StoragePacket.of_point_packet packet base_time).points.map
      Lddc.pointcloud2_point).flatMap fun point =>
        (point.members float_bits double_bits).flatten).length =
      packet.val.points_num.toNat * point_size.toNat := by
    rw [length_flatMap LivoxPointXyzrtlt.length_members, List.length_map, hwhole]
    rfl
  rw [Lddc.init_pointcloud2_msg, hconvert, ok_bind]
  refine ⟨_, rfl, rfl, ?_, ?_, ?_⟩
  · exact hlength
  · have hnum : (StoragePacket.of_point_packet packet base_time).points_num =
        packet.val.points_num := rfl
    simp only [PointCloud2.data_bytes, hlength, hnum, UInt32.toNat_mul, UInt32.reduceToNat,
      Nat.mul_one]
    exact Nat.mod_eq_iff_lt (by decide)
  · intro i point hpoint
    apply PointCloud2.read_field_values rfl rfl
    rw [StoragePacket.of_point_packet, List.getElem?_map, hpoint, Option.map_some]

end livox_ros
