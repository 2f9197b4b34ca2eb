import Livox.Lddc.ImuDistribution

open checked execution

namespace livox_ros

section Registration

variable {cache : CacheIndex}

/-- Registering a lidar leaves the indices of the others as they are. -/
theorem CacheIndex.IsAccounted.registered (h : cache.IsAccounted) (lidar_type : UInt8)
    (handle : UInt32) :
    (cache.get_free_index lidar_type handle).2.IsAccounted ∧
      ∀ other index, cache.index_of other = some index →
        (cache.get_free_index lidar_type handle).2.index_of other = some index := by
  by_cases htype : lidar_type = LidarProtoType.kLivoxLidarType.val
  · subst htype
    cases hindex : cache.index_of handle with
    | some index =>
      rw [CacheIndex.get_free_index_of_mapped hindex]
      exact ⟨h, fun _ _ hother => hother⟩
    | none =>
      cases hslot : cache.free_slot with
      | none =>
        rw [CacheIndex.get_free_index_of_full hindex hslot]
        exact ⟨h, fun _ _ hother => hother⟩
      | some i =>
        obtain ⟨index, t, hget, _, haccounted, _, hroutes⟩ := h.get_free_index_of_new hindex hslot
        rw [hget]
        refine ⟨haccounted, fun other found hother => ?_⟩
        have hne : other ≠ handle := by
          rintro rfl
          rw [hindex] at hother
          cases hother
        rw [hroutes, if_neg hne]
        exact hother
  · have hkey : CacheIndex.generate_index_key lidar_type handle = none := if_neg htype
    rw [CacheIndex.get_free_index, hkey]
    exact ⟨h, fun _ _ hother => hother⟩

/-- The data of a Livox lidar goes to the index of its handle. -/
theorem storage_imu_data_index_eq_some_iff {F : Type} {imu_data : ImuData F} {index : UInt8} :
    storage_imu_data_index cache imu_data = some index ↔
      imu_data.lidar_type = LidarProtoType.kLivoxLidarType.val ∧
        cache.index_of imu_data.handle = some index := by
  rw [storage_imu_data_index]
  by_cases htype : imu_data.lidar_type = LidarProtoType.kLivoxLidarType.val
  · rw [if_pos htype, htype]
    exact ⟨fun h => ⟨rfl, h⟩, fun h => h.2⟩
  · rw [if_neg htype]
    simp [htype]

end Registration

section Table

variable {F : Type} {lidars : Vector (ImuDevice F) kMaxSourceLidar}

theorem get_set (i j : Fin kMaxSourceLidar) (lidar : ImuDevice F) :
    (lidars.set i lidar i.isLt).get j = if i = j then lidar else lidars.get j := by
  simp only [Vector.get_eq_getElem, Vector.getElem_set, Fin.ext_iff]

/-- All that has been stored, without its order. -/
def all_stored (lidars : Vector (ImuDevice F) kMaxSourceLidar) : Multiset (ImuData F) :=
  ∑ i, ((lidars.get i).stored : Multiset (ImuData F))

theorem all_stored_set_of_eq {i : Fin kMaxSourceLidar} {lidar : ImuDevice F}
    (hstored : lidar.stored = (lidars.get i).stored) :
    all_stored (lidars.set i lidar i.isLt) = all_stored lidars := by
  refine Finset.sum_congr rfl fun j _ => ?_
  rw [get_set]
  split
  · rename_i heq
    rw [hstored, heq]
  · rfl

theorem all_stored_push (i : Fin kMaxSourceLidar) (imu_data : ImuData F) :
    all_stored (lidars.set i ((lidars.get i).push imu_data) i.isLt) =
      all_stored lidars + {imu_data} := by
  have hone : ∀ j, (((lidars.set i ((lidars.get i).push imu_data) i.isLt).get j).stored :
      Multiset (ImuData F)) =
        ((lidars.get j).stored : Multiset (ImuData F)) + if i = j then {imu_data} else 0 := by
    intro j
    rw [get_set]
    split
    · rename_i heq
      subst heq
      simp only [ImuDevice.push, ← Multiset.coe_add, Multiset.coe_singleton]
    · rw [Multiset.add_zero]
  simp only [all_stored, hone, Finset.sum_add_distrib, Finset.sum_ite_eq, Finset.mem_univ, if_true]

end Table

section Calls

variable {F : Type} {calls : List (StorageCall F)} {call : StorageCall F} {k : Nat}

/-- The data of the calls that have pushed it, without the order. -/
def handed (calls : List (StorageCall F)) : Multiset (ImuData F) :=
  ((calls.filter StorageCall.pushed).map StorageCall.imu_data : List (ImuData F))

theorem handed_cons (call : StorageCall F) (calls : List (StorageCall F)) :
    handed (call :: calls) = handed calls + if call.pushed then {call.imu_data} else 0 := by
  cases hpushed : call.pushed with
  | true =>
    rw [handed, List.filter_cons_of_pos hpushed, List.map_cons, ← Multiset.cons_coe,
      ← Multiset.singleton_add, Multiset.add_comm]
    rfl
  | false =>
    rw [handed, List.filter_cons_of_neg (by simp [hpushed])]
    exact (Multiset.add_zero _).symm

theorem handed_congr {others : List (StorageCall F)} (h : calls.Perm others) :
    handed calls = handed others :=
  Multiset.coe_eq_coe.mpr ((h.filter _).map _)

/-- A call that moves from one place to the next. -/
theorem handed_set (hcall : calls[k]? = some call) (place : StoragePlace) :
    handed (calls.set k { call with place }) + (if call.pushed then {call.imu_data} else 0) =
      handed calls + if StorageCall.pushed { call with place } then {call.imu_data} else 0 := by
  obtain ⟨hlt, hget⟩ := List.getElem?_eq_some_iff.mp hcall
  have hbefore : handed calls = handed (call :: calls.eraseIdx k) :=
    handed_congr (hget ▸ (List.getElem_cons_eraseIdx_perm hlt).symm)
  rw [hbefore, handed_congr (List.set_perm_cons_eraseIdx hlt _), handed_cons, handed_cons,
    Multiset.add_assoc, Multiset.add_assoc]
  exact congrArg _ (Multiset.add_comm _ _)

end Calls

namespace ImuDistribution

variable {F : Type} {lddc : Lddc} {s t : ImuDistribution F}

/-- The messages that have been published for a lidar, in order. -/
def messages_of (s : ImuDistribution F) (i : Fin kMaxSourceLidar) : List (ImuMsg F) :=
  (s.published.filter fun publication => publication.index = i).map ImuPublication.imu_msg

/-- A lidar whose data comes out in the order in which it went in, once each, with what has come out
published, if messages are published at all. -/
structure LidarConserves (lddc : Lddc) (cache_index : CacheIndex) (messages : List (ImuMsg F))
    (i : Fin kMaxSourceLidar) (lidar : ImuDevice F) : Prop where
  fifo : lidar.stored = lidar.popped ++ lidar.imu_data.imu_data_queue
  published : messages =
    if lddc.output_type = kOutputToRos then lidar.popped.map init_imu_msg else []
  routed : ∀ imu_data ∈ lidar.stored,
    ∃ index, storage_imu_data_index cache_index imu_data = some index ∧ index.toNat = i

/-- A call that has an index has it from the cache. -/
def Indexed (cache_index : CacheIndex) (call : StorageCall F) : Prop :=
  ∀ index, call.place = .push index ∨ call.place = .empty_test index →
    storage_imu_data_index cache_index call.imu_data = some index

structure Conserves (lddc : Lddc) (s : ImuDistribution F) : Prop where
  accounted : s.cache_index.IsAccounted
  lidars : ∀ i, LidarConserves lddc s.cache_index (s.messages_of i) i (s.lidars.get i)
  handed : all_stored s.lidars = handed s.calls
  indexed : ∀ call ∈ s.calls, Indexed s.cache_index call

theorem start_conserves (devices : Vector (LidarDevice F) kMaxSourceLidar) :
    (start devices).Conserves lddc where
  accounted := CacheIndex.new_isAccounted
  lidars := by
    intro i
    have hnew : (start devices).lidars.get i = ImuDevice.new (devices.get i) := by
      simp [start, Vector.get_eq_getElem]
    rw [hnew]
    refine ⟨rfl, ?_, by simp [ImuDevice.new]⟩
    simp [messages_of, start, ImuDevice.new]
  handed := by simp [all_stored, ImuDevice.new, livox_ros.handed, start]
  indexed := by simp [start]

/-- A change of a device that leaves its queue and its history alone. -/
theorem LidarConserves.of_eq {cache_index : CacheIndex} {messages : List (ImuMsg F)}
    {i : Fin kMaxSourceLidar} {lidar lidar' : ImuDevice F}
    (h : LidarConserves lddc cache_index messages i lidar) (hqueue : lidar'.imu_data = lidar.imu_data)
    (hstored : lidar'.stored = lidar.stored) (hpopped : lidar'.popped = lidar.popped) :
    LidarConserves lddc cache_index messages i lidar' where
  fifo := by
    rw [hstored, hpopped, hqueue]
    exact h.fifo
  published := by
    rw [hpopped]
    exact h.published
  routed := by
    rw [hstored]
    exact h.routed

theorem LidarConserves.push {cache_index : CacheIndex} {messages : List (ImuMsg F)}
    {i : Fin kMaxSourceLidar} {lidar : ImuDevice F}
    (h : LidarConserves lddc cache_index messages i lidar) {imu_data : ImuData F} {index : UInt8}
    (hindex : storage_imu_data_index cache_index imu_data = some index) (hi : index.toNat = i) :
    LidarConserves lddc cache_index messages i (lidar.push imu_data) where
  fifo := by
    simp only [ImuDevice.push, LidarImuDataQueue.push]
    rw [h.fifo, List.append_assoc]
  published := h.published
  routed := by
    intro other hother
    rcases List.mem_append.mp hother with hbefore | hnow
    · exact h.routed other hbefore
    · obtain rfl := List.mem_singleton.mp hnow
      exact ⟨index, hindex, hi⟩

/-- What a step of a call does to a state that keeps its accounts. -/
theorem Conserves.store (h : s.Conserves lddc) {k : Nat} {call : StorageCall F}
    (hcall : s.calls[k]? = some call) :
    ∃ lidars imu_semaphore place, s.store call = .ok (lidars, imu_semaphore, place) ∧
      Conserves lddc { s with
        lidars, imu_semaphore, calls := s.calls.set k { call with place } } := by
  have hset := @handed_set _ s.calls call k hcall
  have hmem : call ∈ s.calls := List.mem_of_getElem? hcall
  have hindexed : ∀ place, Indexed s.cache_index { call with place } →
      ∀ other ∈ s.calls.set k { call with place }, Indexed s.cache_index other := by
    intro place hplace other hother
    rcases List.mem_or_eq_of_mem_set hother with hbefore | rfl
    · exact h.indexed other hbefore
    · exact hplace
  -- every step but the push leaves the table alone
  have hkept : ∀ {place : StoragePlace}, Indexed s.cache_index { call with place } →
      StorageCall.pushed { call with place } = call.pushed →
      ∀ imu_semaphore, Conserves lddc { s with
        imu_semaphore, calls := s.calls.set k { call with place } } := by
    intro place hplace hpushed imu_semaphore
    refine ⟨h.accounted, h.lidars, h.handed.trans ?_, hindexed place hplace⟩
    have hsum := hset place
    rw [hpushed] at hsum
    exact (add_right_cancel hsum).symm
  have hnone : ∀ {place : StoragePlace}, (∀ index, place ≠ .push index) →
      (∀ index, place ≠ .empty_test index) → Indexed s.cache_index { call with place } := by
    rintro place hpush hempty index (hplace | hplace)
    · exact absurd hplace (hpush index)
    · exact absurd hplace (hempty index)
  rw [ImuDistribution.store]
  cases hplace : call.place with
  | get_index =>
    cases hindex : storage_imu_data_index s.cache_index call.imu_data with
    | none =>
      refine ⟨_, _, _, rfl, hkept (hnone (by simp) (by simp)) ?_ _⟩
      simp [StorageCall.pushed, hplace]
    | some index =>
      refine ⟨_, _, _, rfl, hkept ?_ ?_ _⟩
      · rintro other (hother | hother)
        · cases hother
          exact hindex
        · cases hother
      · simp [StorageCall.pushed, hplace]
  | refused =>
    refine ⟨_, _, _, rfl, hkept (hnone (by simp) (by simp)) ?_ _⟩
    simp [StorageCall.pushed, hplace]
  | push index =>
    have hindex := h.indexed call hmem index (Or.inl hplace)
    have hlt : index.toNat < kMaxSourceLidar :=
      h.accounted.index_of_lt (storage_imu_data_index_eq_some_iff.mp hindex).2
    refine ⟨s.lidars.set index.toNat ((s.lidars.get ⟨index.toNat, hlt⟩).push call.imu_data) hlt,
      s.imu_semaphore, .empty_test index, ?_, h.accounted, ?_, ?_, ?_⟩
    · simp only [readAt_of_lt _ hlt, ok_bind, writeAt_of_lt _ _ hlt]
      rfl
    · intro j
      have hdevice := @get_set _ s.lidars ⟨index.toNat, hlt⟩ j
        ((s.lidars.get ⟨index.toNat, hlt⟩).push call.imu_data)
      refine hdevice ▸ ?_
      split
      · rename_i heq
        subst heq
        exact (h.lidars _).push hindex rfl
      · exact h.lidars j
    · have hsum := hset (.empty_test index)
      have hstored := @all_stored_push _ s.lidars ⟨index.toNat, hlt⟩ call.imu_data
      simp only [StorageCall.pushed, hplace, Bool.false_eq_true, if_false, if_true, add_zero] at hsum
      dsimp only at hstored ⊢
      rw [hstored, hsum, h.handed]
    · refine hindexed _ ?_
      rintro other (hother | hother)
      · cases hother
      · cases hother
        exact hindex
  | empty_test index =>
    have hindex := h.indexed call hmem index (Or.inr hplace)
    have hlt : index.toNat < kMaxSourceLidar :=
      h.accounted.index_of_lt (storage_imu_data_index_eq_some_iff.mp hindex).2
    dsimp only
    rw [readAt_of_lt _ hlt, ok_bind]
    refine ⟨_, _, _, rfl, hkept (hnone ?_ ?_) ?_ _⟩
    · split <;> simp
    · split <;> simp
    · split <;> simp [StorageCall.pushed, hplace]
  | count_test =>
    refine ⟨_, _, _, rfl, hkept (hnone ?_ ?_) ?_ _⟩
    · split <;> simp
    · split <;> simp
    · split <;> simp [StorageCall.pushed, hplace]
  | signal =>
    refine ⟨_, _, _, rfl, hkept (hnone (by simp) (by simp)) ?_ _⟩
    simp [StorageCall.pushed, hplace]
  | done =>
    refine ⟨_, _, _, rfl, hkept (hnone (by simp) (by simp)) ?_ _⟩
    simp [StorageCall.pushed, hplace]

/-- Looking a publisher up changes the publishers only. -/
theorem get_current_imu_publisher_frame (lddc : Lddc) (index : Fin kMaxSourceLidar)
    (s : ImuDistribution F) :
    ∃ private_imu_pub global_imu_pub,
      (get_current_imu_publisher lddc index s).2 = { s with private_imu_pub, global_imu_pub } := by
  rw [get_current_imu_publisher]
  split <;> exact ⟨_, _, rfl⟩

/-- Publishing adds one message to those of the lidar, if messages are published at all. -/
theorem publish_messages (lddc : Lddc) (index : Fin kMaxSourceLidar) (imu_data : ImuData F)
    (s : ImuDistribution F) (i : Fin kMaxSourceLidar) :
    (publish lddc index imu_data s).messages_of i =
      s.messages_of i ++
        if lddc.output_type = kOutputToRos ∧ index = i then [init_imu_msg imu_data] else [] := by
  obtain ⟨_, _, hpublisher⟩ := get_current_imu_publisher_frame lddc index s
  rw [publish]
  dsimp only
  rw [hpublisher]
  by_cases hros : lddc.output_type = kOutputToRos
  · by_cases hindex : index = i
    · simp [messages_of, hros, hindex]
    · simp [messages_of, hros, hindex]
  · simp [messages_of, hros]

/-- Publishing touches only the publishers and what has been published. -/
theorem publish_frame (lddc : Lddc) (index : Fin kMaxSourceLidar) (imu_data : ImuData F)
    (s : ImuDistribution F) :
    ∃ private_imu_pub global_imu_pub published,
      publish lddc index imu_data s = { s with private_imu_pub, global_imu_pub, published } := by
  obtain ⟨_, _, hpublisher⟩ := get_current_imu_publisher_frame lddc index s
  rw [publish]
  dsimp only
  rw [hpublisher]
  split <;> exact ⟨_, _, _, rfl⟩

/-- The device after its oldest data has been popped. -/
def popped (lidar : ImuDevice F) (imu_data : ImuData F) (rest : List (ImuData F)) : ImuDevice F :=
  { lidar with
    imu_data := { imu_data_queue := rest }
    popped := lidar.popped ++ [imu_data] }

/-- The oldest data of a lidar becomes a message of that lidar. -/
theorem LidarConserves.pop {cache_index : CacheIndex} {messages : List (ImuMsg F)}
    {i : Fin kMaxSourceLidar} {lidar : ImuDevice F}
    (h : LidarConserves lddc cache_index messages i lidar) {imu_data : ImuData F}
    {rest : List (ImuData F)} (hqueue : lidar.imu_data.imu_data_queue = imu_data :: rest) :
    LidarConserves lddc cache_index
      (messages ++ if lddc.output_type = kOutputToRos then [init_imu_msg imu_data] else []) i
      (popped lidar imu_data rest) where
  fifo := by
    simp only [popped]
    rw [h.fifo, hqueue]
    simp
  published := by
    have hmessages := h.published
    simp only [popped]
    by_cases hros : lddc.output_type = kOutputToRos
    · simp only [if_pos hros, List.map_append, List.map_cons, List.map_nil] at hmessages ⊢
      rw [hmessages]
    · simp only [if_neg hros, List.append_nil] at hmessages ⊢
      exact hmessages
  routed := h.routed

theorem publish_imu_data_eq (lddc : Lddc) (index : Fin kMaxSourceLidar) {imu_data : ImuData F}
    {rest : List (ImuData F)}
    (hqueue : (s.lidars.get index).imu_data.imu_data_queue = imu_data :: rest) :
    publish_imu_data lddc index s = publish lddc index imu_data { s with
      lidars := s.lidars.set index (popped (s.lidars.get index) imu_data rest) index.isLt } := by
  simp only [publish_imu_data, LidarImuDataQueue.pop, hqueue, popped]

theorem publish_imu_data_nil (lddc : Lddc) (index : Fin kMaxSourceLidar)
    (hqueue : (s.lidars.get index).imu_data.imu_data_queue = []) :
    publish_imu_data lddc index s = s := by
  simp only [publish_imu_data, LidarImuDataQueue.pop, hqueue]

theorem Conserves.publish_imu_data (h : s.Conserves lddc) (index : Fin kMaxSourceLidar) :
    (publish_imu_data lddc index s).Conserves lddc := by
  cases hqueue : (s.lidars.get index).imu_data.imu_data_queue with
  | nil =>
    rw [publish_imu_data_nil lddc index hqueue]
    exact h
  | cons imu_data rest =>
    have hstored := @all_stored_set_of_eq F s.lidars index
      (popped (s.lidars.get index) imu_data rest) rfl
    have hmessages := publish_messages lddc index imu_data { s with
      lidars := s.lidars.set index (popped (s.lidars.get index) imu_data rest) index.isLt }
    obtain ⟨_, _, _, hpublish⟩ := publish_frame lddc index imu_data { s with
      lidars := s.lidars.set index (popped (s.lidars.get index) imu_data rest) index.isLt }
    rw [publish_imu_data_eq lddc index hqueue]
    rw [hpublish] at hmessages ⊢
    refine ⟨h.accounted, fun i => ?_, hstored.trans h.handed, h.indexed⟩
    rw [hmessages, get_set]
    by_cases heq : index = i
    · subst heq
      simp only [and_true, if_true]
      exact (h.lidars index).pop hqueue
    · rw [if_neg heq, if_neg (fun hand => heq hand.2), List.append_nil]
      exact h.lidars i

/-- The consumer's own places are no concern of the accounts. -/
theorem Conserves.at (h : s.Conserves lddc) (consumer : ImuConsumer) :
    Conserves lddc { s with consumer } :=
  ⟨h.accounted, h.lidars, h.handed, h.indexed⟩

theorem Conserves.consume (h : s.Conserves lddc) : (s.consume lddc).Conserves lddc := by
  rw [ImuDistribution.consume]
  cases s.consumer with
  | distribute =>
    dsimp only
    split
    · exact h
    · exact h.at _
  | wait =>
    dsimp only
    split
    · exact h
    · exact ⟨h.accounted, h.lidars, h.handed, h.indexed⟩
  | scan i =>
    dsimp only
    split
    · split <;> exact h.at _
    · exact h.at _
  | polling_loop i =>
    dsimp only
    split <;> exact h.at _
  | publish i => exact (h.publish_imu_data i).at _

/-- Every step completes and keeps the accounts. -/
theorem Conserves.step (h : s.Conserves lddc) (event : ImuEvent F) :
    ∃ t, s.step lddc event = .ok t ∧ t.Conserves lddc := by
  cases event with
  | storage_imu_data imu_data =>
    refine ⟨_, rfl, h.accounted, h.lidars, ?_, ?_⟩
    · refine h.handed.trans ?_
      simp [livox_ros.handed, StorageCall.pushed, List.filter_append]
    · intro call hcall
      rcases List.mem_append.mp hcall with hbefore | hnow
      · exact h.indexed call hbefore
      · obtain rfl := List.mem_singleton.mp hnow
        rintro index (hplace | hplace) <;> cases hplace
  | producer k =>
    cases hcall : s.calls[k]? with
    | none =>
      refine ⟨s, ?_, h⟩
      simp only [ImuDistribution.step, hcall]
    | some call =>
      obtain ⟨lidars, imu_semaphore, place, hstore, hnext⟩ := h.store hcall
      refine ⟨_, ?_, hnext⟩
      simp only [ImuDistribution.step, hcall, hstore, ok_bind]
  | consumer => exact ⟨_, rfl, h.consume⟩
  | get_free_index lidar_type handle =>
    obtain ⟨haccounted, hkept⟩ := h.accounted.registered lidar_type handle
    have hindex : ∀ (imu_data : ImuData F) index,
        storage_imu_data_index s.cache_index imu_data = some index →
        storage_imu_data_index (s.cache_index.get_free_index lidar_type handle).2 imu_data =
          some index := by
      intro imu_data index hfound
      obtain ⟨htype, hof⟩ := storage_imu_data_index_eq_some_iff.mp hfound
      exact storage_imu_data_index_eq_some_iff.mpr ⟨htype, hkept _ _ hof⟩
    refine ⟨_, rfl, haccounted, fun i => ?_, h.handed, fun call hcall index hplace => ?_⟩
    · refine ⟨(h.lidars i).fifo, (h.lidars i).published, fun imu_data hmem => ?_⟩
      obtain ⟨index, hfound, hi⟩ := (h.lidars i).routed imu_data hmem
      exact ⟨index, hindex imu_data index hfound, hi⟩
    · exact hindex _ _ (h.indexed call hcall index hplace)
  | set_device index device =>
    have hstored := @all_stored_set_of_eq F s.lidars index
      ((s.lidars.get index).set_device device) rfl
    refine ⟨_, rfl, h.accounted, fun i => ?_, hstored.trans h.handed, h.indexed⟩
    dsimp only
    rw [get_set]
    split
    · rename_i heq
      subst heq
      exact (h.lidars _).of_eq rfl rfl rfl
    · exact h.lidars i
  | request_exit => exact ⟨_, rfl, h.accounted, h.lidars, h.handed, h.indexed⟩

/-- Imu data is published in order and once for each lidar, under one index that no other lidar has,
and none is lost on the way: what the calls have pushed has been popped, or is in the queues. -/
structure Accounted (lddc : Lddc) (s : ImuDistribution F) : Prop where
  fifo : ∀ i : Fin kMaxSourceLidar, (s.lidars.get i).stored =
    (s.lidars.get i).popped ++ (s.lidars.get i).imu_data.imu_data_queue
  published : ∀ i, s.messages_of i =
    if lddc.output_type = kOutputToRos then (s.lidars.get i).popped.map init_imu_msg else []
  one_lidar : ∀ i, ∀ a ∈ (s.lidars.get i).stored, ∀ b ∈ (s.lidars.get i).stored, a.handle = b.handle
  one_index : ∀ i j, ∀ a ∈ (s.lidars.get i).stored, ∀ b ∈ (s.lidars.get j).stored,
    a.handle = b.handle → i = j
  pushed : ∑ i, ((s.lidars.get i).stored : Multiset (ImuData F)) =
    ((s.calls.filter StorageCall.pushed).map StorageCall.imu_data : List (ImuData F))

theorem Conserves.to_accounted (h : s.Conserves lddc) : s.Accounted lddc where
  fifo i := (h.lidars i).fifo
  published i := (h.lidars i).published
  one_lidar := by
    intro i a ha b hb
    obtain ⟨index, hfound, hi⟩ := (h.lidars i).routed a ha
    obtain ⟨index', hfound', hi'⟩ := (h.lidars i).routed b hb
    obtain rfl : index = index' := UInt8.toNat_inj.mp (hi.trans hi'.symm)
    exact h.accounted.index_of_injective (storage_imu_data_index_eq_some_iff.mp hfound).2
      (storage_imu_data_index_eq_some_iff.mp hfound').2
  one_index := by
    intro i j a ha b hb hhandle
    obtain ⟨index, hfound, hi⟩ := (h.lidars i).routed a ha
    obtain ⟨index', hfound', hj⟩ := (h.lidars j).routed b hb
    have hof := (storage_imu_data_index_eq_some_iff.mp hfound).2
    have hof' := (storage_imu_data_index_eq_some_iff.mp hfound').2
    rw [hhandle, hof'] at hof
    cases hof
    exact Fin.ext (hi.symm.trans hj)
  pushed := h.handed

end ImuDistribution

/-- However the calls of `StorageImuData`, the registrations and the consumer's steps interleave,
every step finds the lidar it needs and the imu data is accounted for. -/
theorem imu_data_accounted {F : Type} (lddc : Lddc)
    (devices : Vector (LidarDevice F) kMaxSourceLidar) (events : List (ImuEvent F)) :
    (∃ t, exec (ImuDistribution.step lddc) (ImuDistribution.start devices) events = .ok t) ∧
      StatesSatisfy (ImuDistribution.step lddc) (ImuDistribution.Accounted lddc)
        (ImuDistribution.start devices) events := by
  have hguard : StepsSatisfy (ImuDistribution.step lddc) (fun _ _ => True)
      (ImuDistribution.start devices) events :=
    stepsSatisfy_of_forall (fun _ _ => trivial)
  obtain ⟨t, hrun, hstates⟩ := hguard.completes
    (fun (s : ImuDistribution F) event h _ => ImuDistribution.Conserves.step h event)
    (ImuDistribution.start_conserves devices)
  exact ⟨⟨t, hrun⟩, hstates.mono fun s h => h.to_accounted⟩

end livox_ros
