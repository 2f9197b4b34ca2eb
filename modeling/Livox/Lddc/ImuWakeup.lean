import Livox.Lddc.ImuConservation
import Livox.Lddc.Wakeup

open checked execution

namespace livox_ros

/-- The device has data, and has kept sampling since some push found it so. -/
def ImuDevice.HoldsSampled {F : Type} (lidar : ImuDevice F) : Prop :=
  lidar.sampled = true ∧ lidar.imu_data.imu_data_queue ≠ []

/-- The mark of a device that keeps sampling is one of a device that is sampling. -/
def ImuDevice.Marked {F : Type} (lidar : ImuDevice F) : Prop :=
  lidar.sampled = true → lidar.device.connect_state = .kConnectStateSampling

/-- The places from which a call is bound to leave a positive count behind. -/
def StoragePlace.Alerts (place : StoragePlace) : Prop := place = .count_test ∨ place = .signal

namespace ImuDistribution

section Store

variable {F : Type} {s : ImuDistribution F}

/-- What a step of a call does, as far as the consumer's sleep is concerned. -/
structure Alert (s : ImuDistribution F) (call : StorageCall F)
    (lidars : Vector (ImuDevice F) kMaxSourceLidar) (imu_semaphore : Semaphore)
    (place : StoragePlace) : Prop where
  count : s.imu_semaphore.count ≤ imu_semaphore.count
  alerts : 0 ≤ s.imu_semaphore.count → call.place.Alerts → 0 < imu_semaphore.count ∨ place.Alerts
  tests : ∀ index, call.place = .empty_test index →
    ∀ j : Fin kMaxSourceLidar, index.toNat = j → (lidars.get j).HoldsSampled → place.Alerts
  marked : ∀ j, (s.lidars.get j).Marked → (lidars.get j).Marked
  pushes : ∀ j, (lidars.get j).HoldsSampled → (s.lidars.get j).HoldsSampled ∨
    ∃ index : UInt8, place = .empty_test index ∧ index.toNat = j

/-- A step that leaves the table and the semaphore alone. -/
theorem Alert.of_unchanged {call : StorageCall F} {place : StoragePlace}
    (halerts : call.place.Alerts → 0 < s.imu_semaphore.count ∨ place.Alerts)
    (htests : ∀ index, call.place = .empty_test index →
      ∀ j : Fin kMaxSourceLidar, index.toNat = j → (s.lidars.get j).HoldsSampled → place.Alerts) :
    s.Alert call s.lidars s.imu_semaphore place :=
  ⟨le_refl _, fun _ => halerts, htests, fun _ => id, fun _ => Or.inl⟩

theorem readAt_eq_ok_iff {α : Type} {n i : Nat} {a : Vector α n} {x : α} :
    readAt a i = .ok x ↔ ∃ h : i < n, a.get ⟨i, h⟩ = x := by
  by_cases h : i < n
  · rw [readAt_of_lt a h]
    constructor
    · intro heq
      exact ⟨h, Except.ok.inj heq⟩
    · rintro ⟨_, rfl⟩
      rfl
  · constructor
    · intro heq
      rw [readAt, dif_neg h] at heq
      cases heq
    · rintro ⟨hlt, _⟩
      exact absurd hlt h

theorem ImuDevice.push_marked {lidar : ImuDevice F} (h : lidar.Marked) (imu_data : ImuData F) :
    (lidar.push imu_data).Marked := by
  intro hsampled
  simp only [ImuDevice.push, Bool.or_eq_true, decide_eq_true_eq] at hsampled
  exact hsampled.elim h id

theorem store_alert {call : StorageCall F} {lidars : Vector (ImuDevice F) kMaxSourceLidar}
    {imu_semaphore : Semaphore} {place : StoragePlace}
    (hstore : s.store call = .ok (lidars, imu_semaphore, place)) :
    s.Alert call lidars imu_semaphore place := by
  rw [store] at hstore
  cases hplace : call.place with
  | get_index =>
    simp only [hplace] at hstore
    split at hstore <;>
    · cases hstore
      exact .of_unchanged (by simp [hplace, StoragePlace.Alerts]) (by simp [hplace])
  | refused =>
    simp only [hplace] at hstore
    cases hstore
    exact .of_unchanged (by simp [hplace, StoragePlace.Alerts]) (by simp [hplace])
  | push index =>
    simp only [hplace] at hstore
    obtain ⟨lidar, hread, hrest⟩ := bind_eq_ok_iff.mp hstore
    obtain ⟨hlt, rfl⟩ := readAt_eq_ok_iff.mp hread
    rw [writeAt_of_lt _ _ hlt, ok_bind] at hrest
    cases hrest
    have hget := @get_set F s.lidars ⟨index.toNat, hlt⟩
    refine ⟨le_refl _, by simp [hplace, StoragePlace.Alerts], by simp [hplace], ?_, ?_⟩
    · intro j hmarked
      refine hget j _ ▸ ?_
      split
      · rename_i heq
        exact ImuDevice.push_marked (heq ▸ hmarked) _
      · exact hmarked
    · intro j hholds
      by_cases heq : (⟨index.toNat, hlt⟩ : Fin kMaxSourceLidar) = j
      · exact Or.inr ⟨index, rfl, congrArg Fin.val heq⟩
      · have hkept := hget j ((s.lidars.get ⟨index.toNat, hlt⟩).push call.imu_data)
        rw [if_neg heq] at hkept
        exact Or.inl (hkept ▸ hholds)
  | empty_test index =>
    simp only [hplace] at hstore
    obtain ⟨lidar, hread, hrest⟩ := bind_eq_ok_iff.mp hstore
    obtain ⟨hlt, rfl⟩ := readAt_eq_ok_iff.mp hread
    cases hrest
    refine .of_unchanged (by simp [hplace, StoragePlace.Alerts]) ?_
    intro other hother j hj hholds
    rw [hplace] at hother
    cases hother
    obtain rfl : (⟨index.toNat, hlt⟩ : Fin kMaxSourceLidar) = j := Fin.ext hj
    have hempty : (s.lidars.get ⟨index.toNat, hlt⟩).imu_data.empty = false := by
      simpa [LidarImuDataQueue.empty] using hholds.2
    rw [hempty]
    exact Or.inl rfl
  | count_test =>
    simp only [hplace] at hstore
    cases hstore
    refine .of_unchanged (fun _ => ?_) (by simp [hplace])
    by_cases hcount : s.imu_semaphore.get_count ≤ 0
    · rw [if_pos hcount]
      exact Or.inr (Or.inr rfl)
    · exact Or.inl (not_le.mp hcount)
  | signal =>
    simp only [hplace] at hstore
    cases hstore
    have hsignal : s.imu_semaphore.signal.count = s.imu_semaphore.count + 1 := rfl
    exact ⟨by omega, fun _ _ => Or.inl (by omega), by simp [hplace], fun _ => id, fun _ => Or.inl⟩
  | done =>
    simp only [hplace] at hstore
    cases hstore
    exact .of_unchanged (by simp [hplace, StoragePlace.Alerts]) (by simp [hplace])

end Store

section Sleep

variable {F : Type} {lddc : Lddc} {s t : ImuDistribution F}

/-- The consumer has not come past the lidar in its scan. -/
def Visits : ImuConsumer → Fin kMaxSourceLidar → Prop
  | .scan i, j => i ≤ j.val
  | .polling_loop i, j => i.val ≤ j.val
  | .publish i, j => i.val ≤ j.val
  | _, _ => False

/-- Somebody is going to look at the lidar's queue. -/
def Attended (s : ImuDistribution F) (j : Fin kMaxSourceLidar) : Prop :=
  0 < s.imu_semaphore.count ∨ Visits s.consumer j ∨
    ∃ call ∈ s.calls, call.place.Alerts ∨
      ∃ index : UInt8, call.place = .empty_test index ∧ index.toNat = j

structure Awake (s : ImuDistribution F) : Prop where
  count : 0 ≤ s.imu_semaphore.count
  marked : ∀ j, (s.lidars.get j).Marked
  attended : s.request_exit = true ∧ s.consumer ≠ .wait ∨
    ∀ j, (s.lidars.get j).HoldsSampled → s.Attended j

/-- A blocked consumer, with no call in progress, has left no data of a lidar that has kept sampling
since a push. -/
def NoLostWakeup (s : ImuDistribution F) : Prop :=
  s.consumer = .wait → s.imu_semaphore.count = 0 →
    (∀ call ∈ s.calls, call.place = .done ∨ call.place = .refused) →
    ∀ j, ¬ (s.lidars.get j).HoldsSampled

theorem Awake.noLostWakeup (h : s.Awake) : s.NoLostWakeup := by
  intro hwait hcount hdone j hholds
  rcases h.attended with ⟨_, hne⟩ | hattended
  · exact hne hwait
  · rcases hattended j hholds with hpositive | hvisits | ⟨call, hmem, hcall⟩
    · omega
    · rw [hwait] at hvisits
      exact hvisits
    · rcases hdone call hmem with hplace | hplace <;>
        simp [hplace, StoragePlace.Alerts] at hcall

theorem start_awake (devices : Vector (LidarDevice F) kMaxSourceLidar) : (start devices).Awake where
  count := le_refl _
  marked := by
    intro j
    have hnew : (start devices).lidars.get j = ImuDevice.new (devices.get j) := by
      simp [start, Vector.get_eq_getElem]
    simp [hnew, ImuDevice.Marked, ImuDevice.new]
  attended := by
    refine Or.inr fun j hholds => absurd hholds.2 ?_
    have hnew : (start devices).lidars.get j = ImuDevice.new (devices.get j) := by
      simp [start, Vector.get_eq_getElem]
    simp [hnew, ImuDevice.new]

/-- A step of a call hands on whatever the call was needed for. -/
theorem Awake.producer (h : s.Awake) {k : Nat} {call : StorageCall F}
    {lidars : Vector (ImuDevice F) kMaxSourceLidar} {imu_semaphore : Semaphore}
    {place : StoragePlace} (hcall : s.calls[k]? = some call)
    (hstore : s.store call = .ok (lidars, imu_semaphore, place)) :
    Awake { s with lidars, imu_semaphore, calls := s.calls.set k { call with place } } := by
  obtain ⟨hcount, halerts, htests, hmarked, hpushes⟩ := store_alert hstore
  have hlt : k < s.calls.length := (List.getElem?_eq_some_iff.mp hcall).1
  have hself : { call with place } ∈ s.calls.set k { call with place } := List.mem_set hlt _
  refine ⟨le_trans h.count hcount, fun j => hmarked j (h.marked j),
    h.attended.imp_right fun hattended j hholds => ?_⟩
  rcases hpushes j hholds with hbefore | hpushed
  · rcases hattended j hbefore with hpositive | hvisits | ⟨other, hmem, hother⟩
    · exact Or.inl (lt_of_lt_of_le hpositive hcount)
    · exact Or.inr (Or.inl hvisits)
    · rcases @Distribution.mem_set_of_mem _ _ _ { call with place } k hmem with hkept | hsame
      · exact Or.inr (Or.inr ⟨other, hkept, hother⟩)
      · obtain rfl : call = other := Option.some.inj (hcall.symm.trans hsame)
        rcases hother with hcallAlerts | ⟨index, htest, hj⟩
        · rcases halerts h.count hcallAlerts with hpositive | hplace
          · exact Or.inl hpositive
          · exact Or.inr (Or.inr ⟨_, hself, Or.inl hplace⟩)
        · exact Or.inr (Or.inr ⟨_, hself, Or.inl (htests index htest j hj hholds)⟩)
  · exact Or.inr (Or.inr ⟨_, hself, Or.inr hpushed⟩)

/-- A move of the consumer past lidars that hold nothing. -/
theorem Awake.move (h : s.Awake) {consumer : ImuConsumer}
    (hwait : consumer ≠ .wait ∨ s.request_exit = false)
    (hvisits : ∀ j, (s.lidars.get j).HoldsSampled → Visits s.consumer j → Visits consumer j) :
    Awake { s with consumer } where
  count := h.count
  marked := h.marked
  attended := by
    rcases h.attended with ⟨hexit, _⟩ | hattended
    · exact Or.inl ⟨hexit, hwait.resolve_right (by simp [hexit])⟩
    · exact Or.inr fun j hholds =>
        (hattended j hholds).imp_right fun hrest => hrest.imp_left (hvisits j hholds)

/-- The scan leaves a lidar only when there is nothing in it to publish. -/
theorem Awake.leave (h : s.Awake) {i : Fin kMaxSourceLidar}
    (hplace : ∀ j, Visits s.consumer j → i.val ≤ j.val)
    (hnothing : ¬ (s.lidars.get i).HoldsSampled) : Awake { s with consumer := .scan (i + 1) } := by
  apply h.move (Or.inl (by simp))
  intro j hholds hvisits
  have hne : i.val ≠ j.val := by
    intro heq
    obtain rfl := Fin.ext heq
    exact hnothing hholds
  exact lt_of_le_of_ne (hplace j hvisits) hne

/-- A pop changes one lidar only, and the consumer is still to come by that one. -/
theorem Awake.publish (h : s.Awake) {i : Fin kMaxSourceLidar} (hplace : s.consumer = .publish i) :
    Awake { publish_imu_data lddc i s with consumer := .polling_loop i } := by
  cases hqueue : (s.lidars.get i).imu_data.imu_data_queue with
  | nil =>
    rw [publish_imu_data_nil lddc i hqueue]
    exact h.move (Or.inl (by simp)) fun j _ hvisits => by simpa [hplace, Visits] using hvisits
  | cons imu_data rest =>
    obtain ⟨_, _, _, hpublish⟩ := publish_frame lddc i imu_data { s with
      lidars := s.lidars.set i (popped (s.lidars.get i) imu_data rest) i.isLt }
    rw [publish_imu_data_eq lddc i hqueue, hpublish]
    refine ⟨h.count, fun j => ?_, ?_⟩
    · dsimp only
      rw [get_set]
      split
      · exact h.marked i
      · exact h.marked j
    · refine h.attended.imp (fun hexit => ⟨hexit.1, by simp⟩) fun hattended j hholds => ?_
      by_cases heq : i = j
      · exact Or.inr (Or.inl (le_of_eq (congrArg Fin.val heq)))
      · dsimp only at hholds
        rw [get_set, if_neg heq] at hholds
        refine (hattended j hholds).imp_right fun hrest => hrest.imp_left fun hvisits => ?_
        simpa [hplace, Visits] using hvisits

theorem Awake.consume (h : s.Awake) : (s.consume lddc).Awake := by
  cases hplace : s.consumer with
  | distribute =>
    simp only [ImuDistribution.consume, hplace]
    split
    · exact h
    · rename_i hexit
      exact h.move (Or.inr (by simpa using hexit)) fun j _ hvisits => by
        simp [hplace, Visits] at hvisits
  | wait =>
    simp only [ImuDistribution.consume, hplace, Semaphore.wait]
    by_cases hpositive : s.imu_semaphore.count > 0
    · simp only [hpositive, if_true]
      exact ⟨by simp only; omega, h.marked, Or.inr fun j _ => Or.inr (Or.inl (Nat.zero_le j))⟩
    · simp only [hpositive, if_false]
      exact h
  | scan i =>
    simp only [ImuDistribution.consume, hplace]
    by_cases hlt : i < kMaxSourceLidar
    · simp only [hlt, dite_true]
      split
      · exact h.move (Or.inl (by simp)) fun j _ hvisits => by simpa [hplace, Visits] using hvisits
      · rename_i hstate
        refine @Awake.leave _ _ h ⟨i, hlt⟩
          (fun j hvisits => by simpa [hplace, Visits] using hvisits) ?_
        exact fun hholds => hstate (h.marked ⟨i, hlt⟩ hholds.1)
    · simp only [hlt, dite_false]
      apply h.move (Or.inl (by simp))
      intro j _ hvisits
      rw [hplace] at hvisits
      exact absurd (lt_of_le_of_lt hvisits j.isLt) hlt
  | polling_loop i =>
    simp only [ImuDistribution.consume, hplace]
    split
    · exact h.move (Or.inl (by simp)) fun j _ hvisits => by simpa [hplace, Visits] using hvisits
    · rename_i hdone
      by_cases hexit : s.request_exit = true
      · exact ⟨h.count, h.marked, Or.inl ⟨hexit, by simp⟩⟩
      · refine h.leave (fun j hvisits => by simpa [hplace, Visits] using hvisits) fun hholds => ?_
        have hempty : (s.lidars.get i).imu_data.empty = true := by simpa [hexit] using hdone
        exact hholds.2 (by simpa [LidarImuDataQueue.empty] using hempty)
  | publish i =>
    simp only [ImuDistribution.consume, hplace]
    exact h.publish hplace

/-- Every step keeps the consumer from sleeping through data. -/
theorem Awake.step (h : s.Awake) {event : ImuEvent F} (hstep : s.step lddc event = .ok t) :
    t.Awake := by
  cases event with
  | storage_imu_data imu_data =>
    cases hstep
    refine ⟨h.count, h.marked, h.attended.imp_right fun hattended j hholds => ?_⟩
    refine (hattended j hholds).imp_right fun hrest => hrest.imp_right ?_
    rintro ⟨call, hmem, hcall⟩
    exact ⟨call, List.mem_append_left _ hmem, hcall⟩
  | producer k =>
    simp only [ImuDistribution.step] at hstep
    cases hcall : s.calls[k]? with
    | none =>
      simp only [hcall] at hstep
      cases hstep
      exact h
    | some call =>
      simp only [hcall] at hstep
      obtain ⟨⟨lidars, imu_semaphore, place⟩, hstore, hrest⟩ := bind_eq_ok_iff.mp hstep
      cases hrest
      exact h.producer hcall hstore
  | consumer =>
    cases hstep
    exact h.consume
  | get_free_index lidar_type handle =>
    cases hstep
    exact ⟨h.count, h.marked, h.attended⟩
  | set_device index device =>
    cases hstep
    refine ⟨h.count, fun j => ?_, h.attended.imp_right fun hattended j hholds => hattended j ?_⟩
    · dsimp only
      rw [get_set]
      split
      · simp [ImuDevice.Marked, ImuDevice.set_device]
      · exact h.marked j
    · dsimp only at hholds
      rw [get_set] at hholds
      split at hholds
      · rename_i heq
        subst heq
        simp only [ImuDevice.HoldsSampled, ImuDevice.set_device, Bool.and_eq_true] at hholds
        exact ⟨hholds.1.1, hholds.2⟩
      · exact hholds
  | request_exit =>
    cases hstep
    refine ⟨h.count, h.marked, ?_⟩
    by_cases hwait : s.consumer = .wait
    · exact Or.inr (h.attended.resolve_left fun hexit => hexit.2 hwait)
    · exact Or.inl ⟨rfl, hwait⟩

end Sleep

end ImuDistribution

/-- However the steps interleave, a consumer that blocks with nothing in progress has left no imu data
behind of a lidar that keeps sampling, whatever the callbacks of the SDK do to the devices. -/
theorem no_lost_imu_wakeup {F : Type} (lddc : Lddc)
    (devices : Vector (LidarDevice F) kMaxSourceLidar) (events : List (ImuEvent F)) :
    StatesSatisfy (ImuDistribution.step lddc) ImuDistribution.NoLostWakeup
      (ImuDistribution.start devices) events := by
  have hstep : ∀ (s : ImuDistribution F) event t, s.Awake → s.step lddc event = .ok t → t.Awake :=
    fun s event t h hstep => h.step hstep
  exact (statesSatisfy_invariant hstep (ImuDistribution.start_awake devices) events).mono
    fun s h => h.noLostWakeup

end livox_ros
