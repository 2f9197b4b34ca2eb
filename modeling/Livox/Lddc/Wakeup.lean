import Livox.Library.Exec
import Livox.Lddc.Distribution

open checked execution

namespace livox_ros

section TrackedDevice

variable {F : Type} {lidar : TrackedDevice F}

/-- Only a sampling lidar has packets that found it sampling, and without
storage there are no packets. -/
structure TrackedDevice.Sound (lidar : TrackedDevice F) : Prop where
  sampling : ∀ counter, lidar.sampled counter = true →
    lidar.device.connect_state = .kConnectStateSampling
  storage : lidar.device.data.storage_packet = .null →
    lidar.device.data.rd_idx = lidar.device.data.wr_idx

theorem TrackedDevice.zero_sound [Zero F] : (TrackedDevice.zero F).Sound where
  sampling := by simp [TrackedDevice.zero]
  storage := fun _ => rfl

theorem TrackedDevice.not_holds_of_eq
    (h : lidar.device.data.rd_idx = lidar.device.data.wr_idx) : ¬ lidar.HoldsSampled := by
  rintro ⟨counter, hlt, _⟩
  simp [h] at hlt

theorem TrackedDevice.HoldsSampled.not_empty (h : lidar.HoldsSampled) :
    queue_is_empty lidar.device.data = false := by
  rw [← Bool.not_eq_true]
  intro hempty
  exact not_holds_of_eq (by simpa [queue_is_empty] using hempty) h

theorem TrackedDevice.Sound.connect_state (h : lidar.Sound) (hholds : lidar.HoldsSampled) :
    lidar.device.connect_state = .kConnectStateSampling := by
  obtain ⟨counter, _, hsampled⟩ := hholds
  exact h.sampling counter hsampled

theorem TrackedDevice.Sound.storage_ne_null (h : lidar.Sound) (hholds : lidar.HoldsSampled) :
    lidar.device.data.storage_packet ≠ .null :=
  fun hnull => not_holds_of_eq (h.storage hnull) hholds

theorem TrackedDevice.Sound.pushed (h : lidar.Sound) {queue : LidarDataQueue F}
    (hstorage : queue.storage_packet ≠ .null) : (lidar.pushed queue).Sound where
  sampling := by
    intro counter hsampled
    by_cases heq : counter = lidar.device.data.wr_idx
    · subst heq
      simpa [TrackedDevice.pushed] using hsampled
    · simp only [TrackedDevice.pushed, Function.update_of_ne heq] at hsampled
      exact h.sampling counter hsampled
  storage := fun hnull => absurd hnull hstorage

end TrackedDevice

section Queue

variable {F : Type} {queue t : LidarDataQueue F}

/-- A pop needs storage to take a packet from. -/
theorem queue_pop_cases {packet : Option (StoragePacket F)} (h : queue_pop queue = .ok (packet, t)) :
    t = queue ∨ t = queue_pop_update queue ∧ queue.storage_packet ≠ .null := by
  simp only [queue_pop, queue_pre_pop] at h
  cases hempty : queue_is_empty queue with
  | true =>
    simp only [hempty, if_true, ok_bind] at h
    cases h
    exact Or.inl rfl
  | false =>
    simp only [hempty, Bool.false_eq_true, if_false] at h
    cases hstorage : queue.storage_packet with
    | null => simp [hstorage, StoragePointer.cells] at h
    | freed => simp [hstorage, StoragePointer.cells] at h
    | live cells =>
      simp only [hstorage, StoragePointer.cells, ok_bind] at h
      obtain ⟨popped, hread, hrest⟩ := bind_eq_ok_iff.mp h
      obtain ⟨found, _, hfound⟩ := bind_eq_ok_iff.mp hread
      cases hfound
      cases hrest
      exact Or.inr ⟨rfl, by simp⟩

theorem queue_push_any_storage {data : ReadablePacket F} {base_time : UInt64}
    (h : queue_push_any queue data base_time = .ok t) : t.storage_packet ≠ .null := by
  obtain ⟨cells, _, hrest⟩ := bind_eq_ok_iff.mp h
  obtain ⟨written, _, hwritten⟩ := bind_eq_ok_iff.mp hrest
  cases hwritten
  simp

theorem init_queue_empty {queue_size : UInt32} (h : init_queue queue queue_size = .ok t) :
    t.rd_idx = t.wr_idx := by
  obtain ⟨_, _, hrest⟩ := bind_eq_ok_iff.mp h
  cases hrest
  rfl

/-- A pop takes nothing from a device without storage. -/
theorem TrackedDevice.Sound.pop {lidar : TrackedDevice F} (h : lidar.Sound)
    {packet : Option (StoragePacket F)} (hpop : queue_pop lidar.device.data = .ok (packet, t)) :
    (lidar.with_queue t).Sound where
  sampling := h.sampling
  storage := by
    intro hnull
    rcases queue_pop_cases hpop with rfl | ⟨rfl, hstorage⟩
    · exact h.storage hnull
    · exact absurd hnull hstorage

end Queue

section Producer

variable {F : Type}

/-- The places from which a call is bound to leave a positive count behind. -/
def PushPlace.Alerts (place : PushPlace) : Prop := place = .count_test ∨ place = .signal

/-- What a step of a call does, as far as the consumer's sleep is concerned. -/
structure PushCall.Alert (call : PushCall F) (lidar lidar' : TrackedDevice F)
    (pcd_semaphore pcd_semaphore' : Semaphore) (place' : PushPlace) : Prop where
  sound : lidar.Sound → lidar'.Sound
  count : pcd_semaphore.count ≤ pcd_semaphore'.count
  alerts : 0 ≤ pcd_semaphore.count → call.place.Alerts → 0 < pcd_semaphore'.count ∨ place'.Alerts
  tests : call.place = .empty_test → lidar'.HoldsSampled → place'.Alerts
  pushes : lidar'.HoldsSampled → lidar.HoldsSampled ∨ place' = .empty_test

/-- A step that leaves the device and the semaphore alone. -/
theorem PushCall.Alert.of_unchanged {call : PushCall F} {lidar : TrackedDevice F}
    {pcd_semaphore : Semaphore} {place' : PushPlace}
    (halerts : call.place.Alerts → 0 < pcd_semaphore.count ∨ place'.Alerts)
    (htests : call.place = .empty_test → lidar.HoldsSampled → place'.Alerts) :
    call.Alert lidar lidar pcd_semaphore pcd_semaphore place' :=
  ⟨id, le_refl _, fun _ => halerts, htests, Or.inl⟩

theorem PushCall.step_alert {publish_freq : ℚ} {call : PushCall F} {lidar lidar' : TrackedDevice F}
    {pcd_semaphore pcd_semaphore' : Semaphore} {place' : PushPlace}
    (hstep : call.step publish_freq lidar pcd_semaphore = .ok (lidar', pcd_semaphore', place')) :
    call.Alert lidar lidar' pcd_semaphore pcd_semaphore' place' := by
  simp only [PushCall.step] at hstep
  cases hplace : call.place with
  | storage_test =>
    simp only [hplace] at hstep
    split at hstep <;>
    · cases hstep
      exact .of_unchanged (by simp [hplace, PushPlace.Alerts]) (by simp [hplace])
  | init_queue =>
    simp only [hplace] at hstep
    obtain ⟨queue, hinit, hrest⟩ := bind_eq_ok_iff.mp hstep
    cases hrest
    have hempty := init_queue_empty hinit
    refine ⟨fun h => ⟨h.sampling, fun _ => hempty⟩, le_refl _, ?_, ?_, ?_⟩
    · simp [hplace, PushPlace.Alerts]
    · simp [hplace]
    · exact fun hholds => absurd hholds (TrackedDevice.not_holds_of_eq hempty)
  | full_test =>
    simp only [hplace] at hstep
    split at hstep <;>
    · cases hstep
      exact .of_unchanged (by simp [hplace, PushPlace.Alerts]) (by simp [hplace])
  | queue_push_any =>
    simp only [hplace] at hstep
    obtain ⟨queue, hpush, hrest⟩ := bind_eq_ok_iff.mp hstep
    cases hrest
    refine ⟨fun h => h.pushed (queue_push_any_storage hpush), le_refl _, ?_, ?_, fun _ => Or.inr rfl⟩
    · simp [hplace, PushPlace.Alerts]
    · simp [hplace]
  | empty_test =>
    simp only [hplace] at hstep
    cases hempty : queue_is_empty lidar.device.data with
    | true =>
      simp only [hempty, Bool.not_true, Bool.false_eq_true, if_false] at hstep
      cases hstep
      refine .of_unchanged (by simp [hplace, PushPlace.Alerts]) fun _ hholds => ?_
      simp [hholds.not_empty] at hempty
    | false =>
      simp only [hempty, Bool.not_false, if_true] at hstep
      cases hstep
      exact .of_unchanged (by simp [hplace, PushPlace.Alerts]) fun _ _ => Or.inl rfl
  | count_test =>
    simp only [hplace] at hstep
    by_cases hcount : pcd_semaphore.get_count ≤ 0
    · simp only [hcount, if_true] at hstep
      cases hstep
      exact .of_unchanged (fun _ => Or.inr (Or.inr rfl)) (by simp [hplace])
    · simp only [hcount, if_false] at hstep
      cases hstep
      exact .of_unchanged (fun _ => Or.inl (not_le.mp hcount)) (by simp [hplace])
  | signal =>
    simp only [hplace] at hstep
    cases hstep
    have hsignal : pcd_semaphore.signal.count = pcd_semaphore.count + 1 := rfl
    refine ⟨id, by omega, fun _ _ => Or.inl (by omega), by simp [hplace], Or.inl⟩
  | done =>
    simp only [hplace] at hstep
    cases hstep
    exact .of_unchanged (by simp [hplace, PushPlace.Alerts]) (by simp [hplace])

end Producer

namespace Distribution

variable {F : Type}

/-- The consumer has not come past the lidar in its scan. -/
def Visits : Consumer → Fin kMaxSourceLidar → Prop
  | .scan i, j => i ≤ j.val
  | .polling i, j => i.val ≤ j.val
  | .polling_loop i, j => i.val ≤ j.val
  | .publish_loop i, j => i.val ≤ j.val
  | .queue_pop i, j => i.val ≤ j.val
  | _, _ => False

/-- Somebody is going to look at the lidar's queue: the count lets the consumer
through, the consumer is about to come by, or a call is about to wake it. -/
def Attended (s : Distribution F) (j : Fin kMaxSourceLidar) : Prop :=
  0 < s.pcd_semaphore.count ∨ Visits s.consumer j ∨
    ∃ call ∈ s.calls, call.place.Alerts ∨ call.place = .empty_test ∧ call.index = j

/-- After an exit request the consumer may leave packets behind, but it does not
wait again. -/
structure Awake (s : Distribution F) : Prop where
  count : 0 ≤ s.pcd_semaphore.count
  sound : ∀ j : Fin kMaxSourceLidar, s.lidars[j].Sound
  attended : s.request_exit = true ∧ s.consumer ≠ .wait ∨
    ∀ j : Fin kMaxSourceLidar, s.lidars[j].HoldsSampled → s.Attended j

/-- A blocked consumer, with no call in progress, has left no packet that was
pushed while its lidar was sampling. -/
def NoLostWakeup (s : Distribution F) : Prop :=
  s.consumer = .wait → s.pcd_semaphore.count = 0 → (∀ call ∈ s.calls, call.place = .done) →
    ∀ j : Fin kMaxSourceLidar, ¬ (getElem s.lidars j j.isLt).HoldsSampled

theorem Awake.noLostWakeup {s : Distribution F} (h : s.Awake) : s.NoLostWakeup := by
  intro hwait hcount hdone j hholds
  rcases h.attended with ⟨_, hne⟩ | hattended
  · exact hne hwait
  · rcases hattended j hholds with hpositive | hvisits | ⟨call, hmem, hcall⟩
    · omega
    · rw [hwait] at hvisits
      exact hvisits
    · simp [hdone call hmem, PushPlace.Alerts] at hcall

theorem start_awake [Zero F] : (start F).Awake where
  count := le_refl _
  sound := by
    intro j
    simpa [start] using TrackedDevice.zero_sound
  attended := by
    refine Or.inr fun j hholds => absurd hholds ?_
    exact TrackedDevice.not_holds_of_eq (by simp [start, TrackedDevice.zero, LidarDevice.zero,
      LidarDataQueue.zero])

theorem mem_set_of_mem {α : Type} {xs : List α} {x y : α} {k : Nat} (h : x ∈ xs) :
    x ∈ xs.set k y ∨ xs[k]? = some x := by
  obtain ⟨i, hi, rfl⟩ := List.mem_iff_getElem.mp h
  by_cases heq : k = i
  · subst heq
    exact Or.inr (List.getElem?_eq_getElem hi)
  · refine Or.inl (List.mem_iff_getElem.mpr ⟨i, by simpa using hi, ?_⟩)
    rw [List.getElem_set_ne heq]

/-- The device that an update of the table leaves at an index. -/
theorem lidars_set {lidars : Vector (TrackedDevice F) kMaxSourceLidar}
    (i j : Fin kMaxSourceLidar) (lidar : TrackedDevice F) :
    getElem (lidars.set i lidar i.isLt) j j.isLt =
      if i = j then lidar else getElem lidars j j.isLt := by
  simp only [Fin.getElem_fin, Vector.getElem_set, Fin.ext_iff]

/-- A step of a call hands on whatever the call was needed for. -/
theorem Awake.producer {s : Distribution F} (h : s.Awake) {publish_freq : ℚ} {k : Nat}
    {call : PushCall F} {lidar : TrackedDevice F} {pcd_semaphore : Semaphore} {place : PushPlace}
    (hcall : s.calls[k]? = some call)
    (hstep : call.step publish_freq (getElem s.lidars call.index call.index.isLt) s.pcd_semaphore =
      .ok (lidar, pcd_semaphore, place)) :
    Awake
      { s with
        lidars := s.lidars.set call.index lidar call.index.isLt
        pcd_semaphore
        calls := s.calls.set k { call with place } } := by
  obtain ⟨hsound, hcount, halerts, htests, hpushes⟩ := PushCall.step_alert hstep
  have hlt : k < s.calls.length := (List.getElem?_eq_some_iff.mp hcall).1
  have hself : { call with place } ∈ s.calls.set k { call with place } := List.mem_set hlt _
  refine ⟨le_trans h.count hcount, fun j => ?_, h.attended.imp_right fun hattended j hholds => ?_⟩
  · simp only [lidars_set]
    split
    · exact hsound (h.sound _)
    · exact h.sound j
  · simp only [lidars_set] at hholds
    -- the device of the call is looked after by the call itself, if it has pushed
    by_cases hpushed : call.index = j ∧ place = .empty_test
    · obtain ⟨rfl, rfl⟩ := hpushed
      exact Or.inr (Or.inr ⟨_, hself, Or.inr ⟨rfl, rfl⟩⟩)
    have hbefore : s.lidars[j].HoldsSampled := by
      split at hholds
      · rename_i heq
        subst heq
        exact (hpushes hholds).resolve_right fun hplace => hpushed ⟨rfl, hplace⟩
      · exact hholds
    rcases hattended j hbefore with hpositive | hvisits | ⟨other, hmem, hother⟩
    · exact Or.inl (lt_of_lt_of_le hpositive hcount)
    · exact Or.inr (Or.inl hvisits)
    · rcases @mem_set_of_mem _ _ _ { call with place } k hmem with hkept | hsame
      · exact Or.inr (Or.inr ⟨other, hkept, hother⟩)
      · obtain rfl : call = other := Option.some.inj (hcall.symm.trans hsame)
        rcases hother with hcallAlerts | ⟨htest, rfl⟩
        · rcases halerts h.count hcallAlerts with hpositive | hplace
          · exact Or.inl hpositive
          · exact Or.inr (Or.inr ⟨_, hself, Or.inl hplace⟩)
        · rw [if_pos rfl] at hholds
          exact Or.inr (Or.inr ⟨_, hself, Or.inl (htests htest hholds)⟩)

/-- A move of the consumer past lidars that hold nothing. -/
theorem Awake.move {s : Distribution F} (h : s.Awake) {consumer : Consumer}
    (hwait : consumer ≠ .wait ∨ s.request_exit = false)
    (hvisits : ∀ j : Fin kMaxSourceLidar, (getElem s.lidars j j.isLt).HoldsSampled →
      Visits s.consumer j → Visits consumer j) : Awake { s with consumer } where
  count := h.count
  sound := h.sound
  attended := by
    rcases h.attended with ⟨hexit, _⟩ | hattended
    · exact Or.inl ⟨hexit, hwait.resolve_right (by simp [hexit])⟩
    · exact Or.inr fun j hholds =>
        (hattended j hholds).imp_right fun hrest => hrest.imp_left (hvisits j hholds)

/-- The scan leaves a lidar only when there is nothing in it to publish. -/
theorem Awake.leave {s : Distribution F} (h : s.Awake) {i : Fin kMaxSourceLidar}
    (hplace : ∀ j, Visits s.consumer j → i.val ≤ j.val) (hnothing : ¬ (getElem s.lidars i i.isLt).HoldsSampled) :
    Awake { s with consumer := .scan (i + 1) } := by
  apply h.move (Or.inl (by simp))
  intro j hholds hvisits
  have hne : i.val ≠ j.val := by
    intro heq
    obtain rfl := Fin.ext heq
    exact hnothing hholds
  exact lt_of_le_of_ne (hplace j hvisits) hne

/-- A pop changes one lidar only, and the consumer is still to come by that one. -/
theorem Awake.pop {s : Distribution F} (h : s.Awake) {i : Fin kMaxSourceLidar}
    {packet : Option (StoragePacket F)} {queue : LidarDataQueue F}
    (hplace : s.consumer = .queue_pop i)
    (hpop : queue_pop (getElem s.lidars i i.isLt).device.data = .ok (packet, queue)) :
    Awake
      { s with
        lidars := s.lidars.set i ((getElem s.lidars i i.isLt).with_queue queue) i.isLt
        consumer := .publish_loop i } where
  count := h.count
  sound := by
    intro j
    simp only [lidars_set]
    split
    · exact (h.sound i).pop hpop
    · exact h.sound j
  attended := by
    refine h.attended.imp (fun hexit => ⟨hexit.1, by simp⟩) fun hattended j hholds => ?_
    by_cases heq : i = j
    · exact Or.inr (Or.inl (le_of_eq (congrArg Fin.val heq)))
    · simp only [lidars_set, if_neg heq] at hholds
      refine (hattended j hholds).imp_right fun hrest => hrest.imp_left fun hvisits => ?_
      simpa [hplace, Visits] using hvisits

theorem Awake.consume {s t : Distribution F} (h : s.Awake) {publishing : Bool}
    (hstep : s.consume publishing = .ok t) : t.Awake := by
  simp only [Distribution.consume] at hstep
  cases hplace : s.consumer with
  | distribute =>
    simp only [hplace] at hstep
    cases hstep
    split
    · exact h
    · rename_i hexit
      exact h.move (Or.inr (by simpa using hexit)) fun j _ hvisits => by
        simp [hplace, Visits] at hvisits
  | wait =>
    simp only [hplace, Semaphore.wait] at hstep
    by_cases hpositive : s.pcd_semaphore.count > 0
    · simp only [hpositive, if_true] at hstep
      cases hstep
      exact ⟨by simp only; omega, h.sound, Or.inr fun j _ => Or.inr (Or.inl (Nat.zero_le j))⟩
    · simp only [hpositive, if_false] at hstep
      cases hstep
      exact h
  | scan i =>
    simp only [hplace] at hstep
    by_cases hlt : i < kMaxSourceLidar
    · simp only [hlt, dite_true] at hstep
      split at hstep
      · cases hstep
        exact h.move (Or.inl (by simp)) fun j _ hvisits => by simpa [hplace, Visits] using hvisits
      · rename_i hstate
        cases hstep
        refine @Awake.leave _ _ h ⟨i, hlt⟩
          (fun j hvisits => by simpa [hplace, Visits] using hvisits) ?_
        exact fun hholds => hstate ((h.sound ⟨i, hlt⟩).connect_state hholds)
    · simp only [hlt, dite_false] at hstep
      cases hstep
      apply h.move (Or.inl (by simp))
      intro j _ hvisits
      rw [hplace] at hvisits
      exact absurd (lt_of_le_of_lt hvisits j.isLt) hlt
  | polling i =>
    simp only [hplace] at hstep
    cases hstorage : s.lidars[i].device.data.storage_packet with
    | null =>
      simp only [hstorage] at hstep
      cases hstep
      apply h.leave (fun j hvisits => by simpa [hplace, Visits] using hvisits)
      exact fun hholds => (h.sound i).storage_ne_null hholds hstorage
    | live cells =>
      simp only [hstorage] at hstep
      cases hstep
      exact h.move (Or.inl (by simp)) fun j _ hvisits => by simpa [hplace, Visits] using hvisits
    | freed =>
      simp only [hstorage] at hstep
      cases hstep
      exact h.move (Or.inl (by simp)) fun j _ hvisits => by simpa [hplace, Visits] using hvisits
  | polling_loop i =>
    simp only [hplace] at hstep
    split at hstep
    · split at hstep
      · cases hstep
        exact h.move (Or.inl (by simp)) fun j _ hvisits => by simpa [hplace, Visits] using hvisits
      · cases hstep
        exact h
    · rename_i hdone
      cases hstep
      by_cases hexit : s.request_exit = true
      · exact ⟨h.count, h.sound, Or.inl ⟨hexit, by simp⟩⟩
      · refine h.leave (fun j hvisits => by simpa [hplace, Visits] using hvisits) fun hholds => ?_
        have hempty : queue_is_empty s.lidars[i].device.data = true := by simpa [hexit] using hdone
        exact absurd hempty (Bool.eq_false_iff.mp hholds.not_empty)
  | publish_loop i =>
    simp only [hplace] at hstep
    split at hstep <;>
    · cases hstep
      exact h.move (Or.inl (by simp)) fun j _ hvisits => by simpa [hplace, Visits] using hvisits
  | queue_pop i =>
    simp only [hplace] at hstep
    obtain ⟨⟨packet, queue⟩, hpop, hrest⟩ := bind_eq_ok_iff.mp hstep
    cases hrest
    exact h.pop hplace hpop

/-- Every step keeps the consumer from sleeping through a packet. -/
theorem Awake.step {s t : Distribution F} (h : s.Awake) {publish_freq : ℚ} {publishing : Bool}
    {event : DistributionEvent F} (hstep : s.step publish_freq publishing event = .ok t) :
    t.Awake := by
  cases event with
  | push_lidar_data index lidar_data base_time =>
    cases hstep
    refine ⟨h.count, h.sound, h.attended.imp_right fun hattended j hholds => ?_⟩
    refine (hattended j hholds).imp_right fun hrest => hrest.imp_right ?_
    rintro ⟨call, hmem, hcall⟩
    exact ⟨call, List.mem_append_left _ hmem, hcall⟩
  | producer k =>
    simp only [Distribution.step] at hstep
    cases hcall : s.calls[k]? with
    | none =>
      simp only [hcall] at hstep
      cases hstep
      exact h
    | some call =>
      simp only [hcall] at hstep
      obtain ⟨⟨lidar, pcd_semaphore, place⟩, hone, hrest⟩ := bind_eq_ok_iff.mp hstep
      cases hrest
      exact h.producer hcall hone
  | consumer => exact h.consume hstep
  | sampling index =>
    cases hstep
    refine ⟨h.count, fun j => ?_, h.attended.imp_right fun hattended j hholds => ?_⟩
    · simp only [lidars_set]
      split
      · exact ⟨fun _ _ => rfl, (h.sound index).storage⟩
      · exact h.sound j
    · apply hattended j
      simp only [lidars_set] at hholds
      split at hholds
      · rename_i heq
        subst heq
        exact hholds
      · exact hholds
  | request_exit =>
    cases hstep
    refine ⟨h.count, h.sound, ?_⟩
    by_cases hwait : s.consumer = .wait
    · exact Or.inr (h.attended.resolve_left fun hexit => hexit.2 hwait)
    · exact Or.inl ⟨rfl, hwait⟩

end Distribution

/-- However the steps of the calls and of the consumer interleave, a consumer
that blocks with nothing in progress has left no such packet behind. -/
theorem no_lost_wakeup {F : Type} [Zero F] (publish_freq : ℚ) (building_ros2 : Bool)
    (transfer_format : UInt8) (events : List (DistributionEvent F)) :
    StatesSatisfy (Distribution.step publish_freq (publishes building_ros2 transfer_format))
      Distribution.NoLostWakeup (Distribution.start F) events := by
  have hstep : ∀ (s : Distribution F) event t, s.Awake →
      s.step publish_freq (publishes building_ros2 transfer_format) event = .ok t → t.Awake :=
    fun s event t h hstep => h.step hstep
  exact (statesSatisfy_invariant hstep Distribution.start_awake events).mono
    fun s h => h.noLostWakeup

end livox_ros
