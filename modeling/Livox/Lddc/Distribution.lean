import Livox.Lds

open checked

namespace livox_ros

def kPointCloud2Msg : UInt8 := 0
def kLivoxCustomMsg : UInt8 := 1
def kPclPxyziMsg : UInt8 := 2

/-- The body of the loop of `PollingLidarPointCloudData` publishes, and so pops,
in the formats that the build supports; in any other it does nothing. -/
def publishes (building_ros2 : Bool) (transfer_format : UInt8) : Bool :=
  transfer_format = kPointCloud2Msg || transfer_format = kLivoxCustomMsg ||
    (transfer_format = kPclPxyziMsg && !building_ros2)

/-- A device of the table, with whether the packet that was pushed last at each
value of its write counter found the lidar sampling. -/
structure TrackedDevice (F : Type) where
  device : LidarDevice F
  sampled : UInt32 → Bool

section TrackedDevice

variable {F : Type}

def TrackedDevice.zero (F : Type) [Zero F] : TrackedDevice F :=
  { device := LidarDevice.zero F, sampled := fun _ => false }

def TrackedDevice.with_queue (lidar : TrackedDevice F) (queue : LidarDataQueue F) :
    TrackedDevice F :=
  { lidar with device := { lidar.device with data := queue } }

/-- The device after a packet has been pushed into its queue. -/
def TrackedDevice.pushed (lidar : TrackedDevice F) (queue : LidarDataQueue F) :
    TrackedDevice F where
  device := { lidar.device with data := queue }
  sampled := Function.update lidar.sampled lidar.device.data.wr_idx
    (lidar.device.connect_state = .kConnectStateSampling)

/-- The packets of the queue are those from the read to the write counter. -/
def TrackedDevice.HoldsSampled (lidar : TrackedDevice F) : Prop :=
  ∃ counter : UInt32,
    counter - lidar.device.data.rd_idx < lidar.device.data.wr_idx - lidar.device.data.rd_idx ∧
      lidar.sampled counter = true

end TrackedDevice

/-- Where a call of `PushLidarData` stands; each step up to the next place
touches the shared state once. -/
inductive PushPlace where
  | storage_test
  | init_queue
  | full_test
  | queue_push_any
  | empty_test
  | count_test
  | signal
  | done
  deriving DecidableEq, Repr

/-- A call of `PushLidarData`. Its index is one that the cache has given out. -/
structure PushCall (F : Type) where
  index : Fin kMaxSourceLidar
  lidar_data : ReadablePacket F
  base_time : UInt64
  place : PushPlace

/-- Where the thread that calls `DistributePointCloudData` over and over stands:
before the exit test, in `Wait`, before the test of a lidar of the scan, or in
`PollingLidarPointCloudData` and the publisher's loop for one. -/
inductive Consumer where
  | distribute
  | wait
  | scan (i : Nat)
  | polling (i : Fin kMaxSourceLidar)
  | polling_loop (i : Fin kMaxSourceLidar)
  | publish_loop (i : Fin kMaxSourceLidar)
  | queue_pop (i : Fin kMaxSourceLidar)
  deriving DecidableEq, Repr

structure Distribution (F : Type) where
  lidars : Vector (TrackedDevice F) kMaxSourceLidar
  pcd_semaphore : Semaphore
  request_exit : Bool
  calls : List (PushCall F)
  consumer : Consumer

/-- A packet is handed to `PushLidarData`, a call or the consumer makes its next
step, a lidar starts sampling, or the exit is requested. -/
inductive DistributionEvent (F : Type) where
  | push_lidar_data (index : Fin kMaxSourceLidar) (lidar_data : ReadablePacket F)
      (base_time : UInt64)
  | producer (call : Nat)
  | consumer
  | sampling (index : Fin kMaxSourceLidar)
  | request_exit

section Steps

variable {F : Type}

/-- The next step of a call, on the device that its index selects. -/
def PushCall.step (publish_freq : ℚ) (call : PushCall F) (lidar : TrackedDevice F)
    (pcd_semaphore : Semaphore) : Checked (TrackedDevice F × Semaphore × PushPlace) :=
  match call.place with
  | .storage_test =>
    match lidar.device.data.storage_packet with
    | .null => .ok (lidar, pcd_semaphore, .init_queue)
    | _ => .ok (lidar, pcd_semaphore, .full_test)
  | .init_queue => do
    let queue ← livox_ros.init_queue lidar.device.data (calculate_packet_queue_size publish_freq)
    .ok (lidar.with_queue queue, pcd_semaphore, .full_test)
  | .full_test =>
    if !queue_is_full lidar.device.data then .ok (lidar, pcd_semaphore, .queue_push_any)
    else .ok (lidar, pcd_semaphore, .count_test)
  | .queue_push_any => do
    let queue ← livox_ros.queue_push_any lidar.device.data call.lidar_data call.base_time
    .ok (lidar.pushed queue, pcd_semaphore, .empty_test)
  | .empty_test =>
    if !queue_is_empty lidar.device.data then .ok (lidar, pcd_semaphore, .count_test)
    else .ok (lidar, pcd_semaphore, .done)
  | .count_test =>
    if pcd_semaphore.get_count ≤ 0 then .ok (lidar, pcd_semaphore, .signal)
    else .ok (lidar, pcd_semaphore, .done)
  | .signal => .ok (lidar, pcd_semaphore.signal, .done)
  | .done => .ok (lidar, pcd_semaphore, .done)

/-- This many steps of a call with no other step in between. -/
def PushCall.run (publish_freq : ℚ) :
    Nat → PushCall F → TrackedDevice F → Semaphore →
      Checked (TrackedDevice F × Semaphore × PushPlace)
  | 0, call, lidar, pcd_semaphore => .ok (lidar, pcd_semaphore, call.place)
  | n + 1, call, lidar, pcd_semaphore => do
    let (lidar, pcd_semaphore, place) ← call.step publish_freq lidar pcd_semaphore
    PushCall.run publish_freq n { call with place } lidar pcd_semaphore

theorem PushCall.run_done (publish_freq : ℚ) (n : Nat) {call : PushCall F}
    (hplace : call.place = .done) (lidar : TrackedDevice F) (pcd_semaphore : Semaphore) :
    call.run publish_freq n lidar pcd_semaphore = .ok (lidar, pcd_semaphore, .done) := by
  induction n generalizing call with
  | zero => rw [PushCall.run, hplace]
  | succ n ih =>
    simp only [PushCall.run, PushCall.step, hplace, ok_bind]
    exact ih rfl

theorem PushCall.run_count_test (publish_freq : ℚ) (n : Nat) {call : PushCall F}
    (hplace : call.place = .count_test) (lidar : TrackedDevice F) (pcd_semaphore : Semaphore) :
    call.run publish_freq (n + 2) lidar pcd_semaphore =
      .ok (lidar, signal_if_needed pcd_semaphore, .done) := by
  by_cases hcount : pcd_semaphore.get_count ≤ 0
  · simp only [PushCall.run, PushCall.step, hplace, signal_if_needed, hcount, if_true, ok_bind]
    exact PushCall.run_done publish_freq n rfl lidar _
  · simp only [PushCall.run, PushCall.step, hplace, signal_if_needed, hcount, if_false, ok_bind]
    exact PushCall.run_done publish_freq n rfl lidar _

theorem ensure_storage_of_ne_null (publish_freq : ℚ) {queue : LidarDataQueue F}
    (hstorage : queue.storage_packet ≠ .null) : ensure_storage publish_freq queue = .ok queue := by
  unfold ensure_storage
  split
  · rename_i hnull
    exact absurd hnull hstorage
  · rfl

theorem init_queue_storage {queue t : LidarDataQueue F} {queue_size : UInt32}
    (h : init_queue queue queue_size = .ok t) : t.storage_packet ≠ .null := by
  obtain ⟨_, _, hrest⟩ := bind_eq_ok_iff.mp h
  cases hrest
  simp

theorem PushCall.run_full_test (publish_freq : ℚ) (n : Nat) {call : PushCall F}
    (hplace : call.place = .full_test) {lidar : TrackedDevice F}
    (hstorage : lidar.device.data.storage_packet ≠ .null) (pcd_semaphore : Semaphore) :
    (call.run publish_freq (n + 5) lidar pcd_semaphore).map
        (fun result => (result.1.device.data, result.2)) =
      (push_lidar_data publish_freq lidar.device.data pcd_semaphore call.lidar_data
        call.base_time).map fun result => (result.1, result.2, .done) := by
  rw [PushCall.run]
  simp only [push_lidar_data, ensure_storage_of_ne_null publish_freq hstorage, ok_bind]
  cases hfull : queue_is_full lidar.device.data with
  | true =>
    simp only [PushCall.step, hplace, hfull, Bool.not_true, Bool.false_eq_true, if_false, ok_bind]
    rw [PushCall.run_count_test _ _ rfl]
    rfl
  | false =>
    simp only [PushCall.step, hplace, hfull, Bool.not_false, if_true, ok_bind]
    rw [PushCall.run]
    simp only [PushCall.step]
    cases livox_ros.queue_push_any lidar.device.data call.lidar_data call.base_time with
    | error fault => rfl
    | ok queue =>
      simp only [ok_bind]
      rw [PushCall.run]
      have hqueue : (lidar.pushed queue).device.data = queue := rfl
      cases hempty : queue_is_empty queue with
      | true =>
        simp only [PushCall.step, hqueue, hempty, Bool.not_true, Bool.false_eq_true, if_false, ok_bind]
        rw [PushCall.run_done _ _ rfl]
        rfl
      | false =>
        simp only [PushCall.step, hqueue, hempty, Bool.not_false, if_true, ok_bind]
        rw [PushCall.run_count_test _ _ rfl]
        rfl

/-- `push_lidar_data` is a call whose steps nothing comes in between. -/
theorem PushCall.run_eq_push_lidar_data (publish_freq : ℚ) {call : PushCall F}
    (hplace : call.place = .storage_test) (lidar : TrackedDevice F) (pcd_semaphore : Semaphore) :
    (call.run publish_freq 7 lidar pcd_semaphore).map
        (fun result => (result.1.device.data, result.2)) =
      (push_lidar_data publish_freq lidar.device.data pcd_semaphore call.lidar_data
        call.base_time).map fun result => (result.1, result.2, .done) := by
  rw [PushCall.run]
  cases hstorage : lidar.device.data.storage_packet with
  | null =>
    simp only [PushCall.step, hplace, hstorage, ok_bind]
    rw [PushCall.run]
    simp only [PushCall.step, push_lidar_data, ensure_storage, hstorage]
    cases hinit : livox_ros.init_queue lidar.device.data (calculate_packet_queue_size publish_freq) with
    | error fault => rfl
    | ok queue =>
      have hlive := init_queue_storage hinit
      have hqueue : (lidar.with_queue queue).device.data = queue := rfl
      have hstored : (lidar.with_queue queue).device.data.storage_packet ≠ .null := hlive
      apply (PushCall.run_full_test publish_freq 0 rfl hstored pcd_semaphore).trans
      simp only [push_lidar_data, hqueue, ensure_storage_of_ne_null publish_freq hlive, ok_bind]
  | live cells =>
    simp only [PushCall.step, hplace, hstorage, ok_bind]
    exact PushCall.run_full_test publish_freq 1 rfl (by simp [hstorage]) pcd_semaphore
  | freed =>
    simp only [PushCall.step, hplace, hstorage, ok_bind]
    exact PushCall.run_full_test publish_freq 1 rfl (by simp [hstorage]) pcd_semaphore

namespace Distribution

/-- Before the first packet, with the polling thread started. -/
def start (F : Type) [Zero F] : Distribution F where
  lidars := Vector.replicate kMaxSourceLidar (TrackedDevice.zero F)
  pcd_semaphore := { count := 0 }
  request_exit := false
  calls := []
  consumer := .distribute

/-- The next step of the consumer; in `Wait` it is blocked while the count is
not positive. -/
def consume (publishing : Bool) (s : Distribution F) : Checked (Distribution F) :=
  match s.consumer with
  | .distribute => .ok (if s.request_exit then s else { s with consumer := .wait })
  | .wait =>
    match s.pcd_semaphore.wait with
    | none => .ok s
    | some pcd_semaphore => .ok { s with pcd_semaphore, consumer := .scan 0 }
  | .scan i =>
    if h : i < kMaxSourceLidar then
      if s.lidars[i].device.connect_state = .kConnectStateSampling then
        .ok { s with consumer := .polling ⟨i, h⟩ }
      else .ok { s with consumer := .scan (i + 1) }
    else .ok { s with consumer := .distribute }
  | .polling i =>
    match s.lidars[i].device.data.storage_packet with
    | .null => .ok { s with consumer := .scan (i + 1) }
    | _ => .ok { s with consumer := .polling_loop i }
  | .polling_loop i =>
    if !s.request_exit && !queue_is_empty s.lidars[i].device.data then
      .ok (if publishing then { s with consumer := .publish_loop i } else s)
    else .ok { s with consumer := .scan (i + 1) }
  | .publish_loop i =>
    if !queue_is_empty s.lidars[i].device.data then .ok { s with consumer := .queue_pop i }
    else .ok { s with consumer := .polling_loop i }
  | .queue_pop i => do
    let (_, queue) ← livox_ros.queue_pop s.lidars[i].device.data
    .ok
      { s with
        lidars := s.lidars.set i (s.lidars[i].with_queue queue)
        consumer := .publish_loop i }

def step (publish_freq : ℚ) (publishing : Bool) (s : Distribution F) :
    DistributionEvent F → Checked (Distribution F)
  | .push_lidar_data index lidar_data base_time =>
    .ok { s with calls := s.calls ++ [{ index, lidar_data, base_time, place := .storage_test }] }
  | .producer k =>
    match s.calls[k]? with
    | none => .ok s
    | some call => do
      let (lidar, pcd_semaphore, place) ←
        call.step publish_freq s.lidars[call.index] s.pcd_semaphore
      .ok
        { s with
          lidars := s.lidars.set call.index lidar
          pcd_semaphore
          calls := s.calls.set k { call with place } }
  | .consumer => s.consume publishing
  | .sampling index =>
    let lidar := s.lidars[index]
    let device := { lidar.device with connect_state := .kConnectStateSampling }
    .ok { s with lidars := s.lidars.set index { lidar with device } }
  | .request_exit => .ok { s with request_exit := true }

end Distribution

end Steps

end livox_ros
