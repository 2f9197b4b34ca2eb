import Livox.Lddc.Polling
import Livox.Lds.Lifecycle

open checked loop

namespace livox_ros

/-- The packet has as many points as it says, as every packet that a push has stored. -/
def StoragePacket.Whole {F : Type} (packet : StoragePacket F) : Prop :=
  packet.points.length = packet.points_num.toNat

theorem StoragePacket.whole_of_point_packet {F : Type} (data : ReadablePacket F)
    (base_time : UInt64) : (StoragePacket.of_point_packet data base_time).Whole := by
  have hreadable := data.property
  simp only [Whole, of_point_packet, List.length_take]
  omega

namespace Lddc

section Turns

variable {F : Type} {lddc : Lddc} {to_uint8 : F → UInt8} {device : LidarDevice F}
  {index : Fin kMaxSourceLidar} {s : Polling F}

theorem message_completes {pkg : StoragePacket F} (hwhole : pkg.Whole) :
    ∃ message, lddc.message to_uint8 device pkg = .ok message := by
  have hconvert : ∀ {β : Type} (convert : PointXyzlt F → β),
      convert_points convert pkg = .ok (pkg.points.map convert) :=
    fun convert => mapM_points_eq convert hwhole
  unfold message
  split
  · simp [init_pointcloud2_msg, hconvert]
  · split
    · simp [publish_custom_pointcloud_eq to_uint8 lddc.frame_id device hwhole]
    · simp [init_pcl_msg, hconvert]

/-- An iteration of a publisher's loop takes the oldest packet out of the queue. -/
theorem publish_turn_pops {packet : StoragePacket F} {held : List (StoragePacket F)}
    (hheld : s.queue.Contains (packet :: held)) (hwhole : packet.Whole) :
    ∃ t, lddc.publish_turn to_uint8 device index s = .ok t ∧ t.place = s.place ∧
      t.request_exit = s.request_exit ∧ t.queue.Contains held := by
  obtain ⟨hpop, hrest⟩ := queue_pop_contains_cons hheld
  cases hpoints : packet.points.isEmpty with
  | true =>
    refine ⟨{ s with queue := queue_pop_update s.queue }, ?_, rfl, rfl, hrest⟩
    simp only [publish_turn, hpop, ok_bind, hpoints, if_true]
  | false =>
    obtain ⟨message, hmessage⟩ := @message_completes F lddc to_uint8 device packet hwhole
    refine ⟨{ s with
        queue := queue_pop_update s.queue
        publications := lddc.publish_data device index message s.publications }, ?_, rfl, rfl, hrest⟩
    simp only [publish_turn, hpop, ok_bind, hpoints, Bool.false_eq_true, if_false, hmessage]

end Turns

/-- The iterations that the loops have to go: one to pop each packet, and one for
each test that changes the place. -/
def Place.turns_left (held : Nat) : Place → Nat
  | .storage_test => 3 * held + 3
  | .polling_loop => if held = 0 then 0 else 3 * held + 2
  | .publish_loop => 3 * held + 1

/-- The queue contains whole packets, which can be published if there are any. -/
structure Polling.Drains {F : Type} (lddc : Lddc) (n : Nat) (s : Polling F) : Prop where
  running : s.request_exit = false
  holds : ∃ held, s.queue.Contains held ∧ (∀ packet ∈ held, packet.Whole) ∧
    (held = [] ∨ publishes lddc.building_ros2 lddc.transfer_format = true) ∧
    n = s.place.turns_left held.length

/-- The polling loop has packets to publish and no publisher for them. -/
structure Polling.Spins {F : Type} (lddc : Lddc) (s : Polling F) : Prop where
  running : s.request_exit = false
  place : s.place ≠ .publish_loop
  storage : s.queue.storage_packet ≠ .null
  holds : queue_is_empty s.queue = false
  publishes : publishes lddc.building_ros2 lddc.transfer_format = false

section Loops

variable {F : Type} {lddc : Lddc} {to_uint8 : F → UInt8} {device : LidarDevice F}
  {index : Fin kMaxSourceLidar} {s : Polling F}

/-- The call has returned with nothing left in the queue. -/
def Drained (outcome : Checked (Polling F)) : Prop :=
  ∃ t, outcome = .ok t ∧ queue_is_empty t.queue = true

theorem turn_storage_test (hplace : s.place = .storage_test)
    (hstorage : s.queue.storage_packet ≠ .null) :
    lddc.polling_turn to_uint8 device index s = .ok (.next { s with place := .polling_loop }) := by
  unfold polling_turn
  rw [hplace]
  dsimp only
  split
  · rename_i hnull
    exact absurd hnull hstorage
  · rfl

theorem turn_polling_loop_empty (hplace : s.place = .polling_loop)
    (hempty : queue_is_empty s.queue = true) :
    lddc.polling_turn to_uint8 device index s = .ok (.leave s) := by
  simp [polling_turn, hplace, hempty]

theorem turn_polling_loop (hplace : s.place = .polling_loop) (hrunning : s.request_exit = false)
    (hempty : queue_is_empty s.queue = false) :
    lddc.polling_turn to_uint8 device index s = .ok (.next
      (if publishes lddc.building_ros2 lddc.transfer_format then { s with place := .publish_loop }
      else s)) := by
  cases hpublishes : publishes lddc.building_ros2 lddc.transfer_format with
  | true => simp [polling_turn, hplace, hrunning, hempty, hpublishes]
  | false => simp [polling_turn, hplace, hrunning, hempty, hpublishes]

theorem Polling.Drains.turn {n : Nat} (h : s.Drains lddc n) :
    (∃ t m, lddc.polling_turn to_uint8 device index s = .ok (.next t) ∧ m < n ∧ t.Drains lddc m) ∨
      ∃ outcome, Ends (lddc.polling_turn to_uint8 device index) s outcome ∧ Drained outcome := by
  obtain ⟨hrunning, held, hheld, hwhole, hpublishes, rfl⟩ := h
  cases hplace : s.place with
  | storage_test =>
    by_cases hstorage : s.queue.storage_packet = .null
    · right
      have hempty : queue_is_empty s.queue = true := by
        cases hheld with
        | unallocated storage counters => simp [queue_is_empty, counters]
        | ring h => simp [h.live] at hstorage
      exact ⟨.ok s, ends_leave (by simp [polling_turn, hplace, hstorage]), s, rfl, hempty⟩
    · left
      refine ⟨{ s with place := .polling_loop }, _, turn_storage_test hplace hstorage, ?_, hrunning,
        held, hheld, hwhole, hpublishes, rfl⟩
      simp only [Place.turns_left]
      split <;> omega
  | polling_loop =>
    cases held with
    | nil =>
      right
      have hempty := hheld.is_empty_iff.mpr rfl
      exact ⟨.ok s, ends_leave (turn_polling_loop_empty hplace hempty), s, rfl, hempty⟩
    | cons packet held =>
      left
      have hpublishing : publishes lddc.building_ros2 lddc.transfer_format = true := by
        simpa using hpublishes
      have hempty : queue_is_empty s.queue = false := by
        rw [← Bool.not_eq_true, hheld.is_empty_iff]
        simp
      have hturn := @turn_polling_loop F lddc to_uint8 device index s hplace hrunning hempty
      rw [hpublishing, if_pos rfl] at hturn
      refine ⟨_, _, hturn, ?_, hrunning, packet :: held, hheld, hwhole, hpublishes, rfl⟩
      simp [Place.turns_left]
  | publish_loop =>
    left
    cases held with
    | nil =>
      have hempty := hheld.is_empty_iff.mpr rfl
      refine ⟨{ s with place := .polling_loop }, _, by simp [polling_turn, hplace, hempty], ?_,
        hrunning, [], hheld, hwhole, hpublishes, rfl⟩
      simp [Place.turns_left]
    | cons packet held =>
      have hempty : queue_is_empty s.queue = false := by
        rw [← Bool.not_eq_true, hheld.is_empty_iff]
        simp
      obtain ⟨t, hpop, hsame, hexit, hrest⟩ := @publish_turn_pops F lddc to_uint8 device index s
        packet held hheld (hwhole packet List.mem_cons_self)
      refine ⟨t, _, by simp [polling_turn, hplace, hempty, hpop], ?_, hexit.trans hrunning, held,
        hrest, fun p hp => hwhole p (List.mem_cons_of_mem packet hp), .inr (by simpa using hpublishes),
        rfl⟩
      rw [hsame, hplace]
      simp [Place.turns_left]

theorem Polling.Spins.turn (h : s.Spins lddc) :
    ∃ t, lddc.polling_turn to_uint8 device index s = .ok (.next t) ∧ t.Spins lddc := by
  cases hplace : s.place with
  | storage_test =>
    exact ⟨_, turn_storage_test hplace h.storage, h.running, by simp, h.storage, h.holds, h.publishes⟩
  | polling_loop =>
    have hturn := @turn_polling_loop F lddc to_uint8 device index s hplace h.running h.holds
    rw [h.publishes] at hturn
    exact ⟨s, hturn, h⟩
  | publish_loop => exact absurd hplace h.place

end Loops

/-- For every value of the parameters and every content of the queue, in either build: a call of
`PollingLidarPointCloudData` returns with the queue empty exactly when there was nothing in it or
the format, cut to a byte, is one that the build publishes. -/
theorem queue_drained_iff {F : Type} (building_ros2 : Bool)
    (xfer_format multi_topic output_type : Int32) (frame_id : String) (to_uint8 : F → UInt8)
    (device : LidarDevice F) (index : Fin kMaxSourceLidar) (publications : Publications F)
    (held : List (StoragePacket F)) (hheld : device.data.Contains held)
    (hwhole : ∀ packet ∈ held, packet.Whole) :
    let lddc := Lddc.new building_ros2 xfer_format multi_topic output_type frame_id
    (∃ outcome, Ends (lddc.polling_turn to_uint8 device index) (polling_start device publications)
        outcome ∧ Drained outcome) ↔
      held = [] ∨ publishes building_ros2 xfer_format.toUInt32.toUInt8 = true := by
  intro lddc
  constructor
  · rintro ⟨outcome, hends, -⟩
    by_contra hnot
    obtain ⟨hcontent, hpublishes⟩ := not_or.mp hnot
    have hspins : (polling_start device publications).Spins lddc := by
      refine ⟨rfl, by simp [polling_start], fun hnull => ?_, ?_, eq_false_of_ne_true hpublishes⟩
      · cases hheld with
        | unallocated storage counters => exact hcontent rfl
        | ring h => simp [polling_start, h.live] at hnull
      · rw [← Bool.not_eq_true, polling_start, hheld.is_empty_iff]
        exact hcontent
    exact not_ends_of_invariant (fun _ h => h.turn) hspins outcome hends
  · intro hpublishes
    have hdrains : (polling_start device publications).Drains lddc
        (Place.storage_test.turns_left held.length) :=
      ⟨rfl, held, hheld, hwhole, hpublishes, rfl⟩
    exact ends_of_measure (fun _ _ h => h.turn) hdrains

/-- A packet of two points. -/
def two_points_packet : ReadablePacket ℚ :=
  ⟨{ handle := 7
     lidar_type := 8
     points_num := 2
     points :=
       [{ x := 1, y := 2, z := 3, intensity := 4, tag := 0, line := 0, offset_time := 5 },
         { x := 2, y := 3, z := 4, intensity := 5, tag := 0, line := 1, offset_time := 6 }] },
    by decide⟩

/-- The first packet of a lidar is published in the custom format. -/
theorem queue_drained_iff_custom :
    ∃ queue, push_lidar_data 10 (LidarDataQueue.zero ℚ) { count := 0 } two_points_packet 5 =
        .ok (queue, { count := 1 }) ∧
      ∃ outcome, Ends ((Lddc.new true 1 0 0 "livox_frame").polling_turn (fun _ => 0)
          { LidarDevice.zero ℚ with data := queue } ⟨0, by decide⟩)
        (polling_start { LidarDevice.zero ℚ with data := queue }
          { private_pub := Vector.replicate kMaxSourceLidar none, global_pub := none, published := [] })
        outcome ∧ Drained outcome := by
  obtain ⟨queue, m, cells, hpush, hholds, -⟩ := push_lidar_data_contains_nil
    (LidarDataQueue.Contains.zero ℚ) 10 { count := 0 } two_points_packet 5
  refine ⟨queue, hpush, ?_⟩
  exact (queue_drained_iff true 1 0 0 "livox_frame" (fun _ => 0)
    { LidarDevice.zero ℚ with data := queue } ⟨0, by decide⟩ _ _ (.ring hholds)
    (by simp [StoragePacket.whole_of_point_packet])).mpr (.inr (by decide))

/-- In the ROS 2 build `PublishPclMsg` takes nothing out of the queue, so that the call does not
return. -/
theorem pcl_format_not_drained :
    ∃ queue, push_lidar_data 10 (LidarDataQueue.zero ℚ) { count := 0 } two_points_packet 5 =
        .ok (queue, { count := 1 }) ∧
      ∀ publications outcome, ¬ Ends ((Lddc.new true 2 0 0 "livox_frame").polling_turn (fun _ => 0)
          { LidarDevice.zero ℚ with data := queue } ⟨0, by decide⟩)
        (polling_start { LidarDevice.zero ℚ with data := queue } publications) outcome := by
  obtain ⟨queue, m, cells, hpush, hholds, -⟩ := push_lidar_data_contains_nil
    (LidarDataQueue.Contains.zero ℚ) 10 { count := 0 } two_points_packet 5
  refine ⟨queue, hpush, fun publications outcome => ?_⟩
  have hspins : (polling_start { LidarDevice.zero ℚ with data := queue } publications).Spins
      (Lddc.new true 2 0 0 "livox_frame") := by
    refine ⟨rfl, by simp [polling_start], by simp [polling_start, hholds.live], ?_, by decide⟩
    rw [← Bool.not_eq_true, polling_start, hholds.is_empty_iff]
    simp
  exact not_ends_of_invariant (fun _ h => h.turn) hspins outcome

end Lddc

end livox_ros
