import Livox.Sdk.GeneralCommandHandler.Devices

open checked execution ordered_map

namespace livox_lidar

/-- The threads that call `LivoxLidarInfoChange`: the one that receives the answers to the detection,
and the one that receives those to the commands. -/
inductive Thread where
  | detection
  | command
  deriving DecidableEq, Repr

instance : Fintype Thread := ⟨{.detection, .command}, fun thread => by cases thread <;> decide⟩

/-- What a call of `LivoxLidarInfoChange` does next, with what it has loaded before. -/
inductive InfoChange where
  | store_is_update_cfg
  | find
  | load_is_loader_mode
  | load_is_callback (is_loader_mode : Bool)
  | store_is_callback (is_loader_mode is_callback : Bool)
  | copy_info (is_loader_mode is_callback : Bool)
  | update_view (is_loader_mode is_callback : Bool) (lidar_info : LivoxLidarInfo)
  | call_back (is_callback : Bool) (lidar_info : LivoxLidarInfo)
  deriving DecidableEq, Repr

/-- The devices and the call that each of the threads is in, with the updates in the view and the
calls of the user's callback so far. -/
structure Announcements where
  is_view : Bool
  livox_lidar_info_change_cb : Bool
  devices : Devices
  calls : Thread → Option (UInt32 × InfoChange)
  view_updates : List UInt32
  announced : List (UInt32 × LivoxLidarInfo)

/-- A thread calls the function, or does the next step of its call. -/
inductive AnnounceEvent where
  | call (thread : Thread) (handle : UInt32)
  | proceed (thread : Thread)
  deriving DecidableEq, Repr

namespace Announcements

def start (is_view livox_lidar_info_change_cb : Bool) (devices : Devices) : Announcements where
  is_view
  livox_lidar_info_change_cb
  devices
  calls := fun _ => none
  view_updates := []
  announced := []

def device (s : Announcements) (handle : UInt32) : DeviceInfo :=
  s.devices[handle]?.getD DeviceInfo.default

def goto (s : Announcements) (thread : Thread) (next : Option (UInt32 × InfoChange)) :
    Announcements :=
  { s with calls := Function.update s.calls thread next }

/-- One step of a call. -/
def proceed (s : Announcements) (thread : Thread) (handle : UInt32) :
    InfoChange → Checked Announcements
  | .store_is_update_cfg =>
    let devices := s.devices.store handle fun device_info =>
      { device_info with is_update_cfg := true }
    .ok ({ s with devices }.goto thread (some (handle, .find)))
  | .find =>
    if s.devices.contains handle then .ok (s.goto thread (some (handle, .load_is_loader_mode)))
    else .ok (s.goto thread none)
  | .load_is_loader_mode =>
    .ok (s.goto thread (some (handle, .load_is_callback (s.device handle).is_loader_mode)))
  | .load_is_callback is_loader_mode =>
    .ok (s.goto thread
      (some (handle, .store_is_callback is_loader_mode (s.device handle).is_callback)))
  | .store_is_callback is_loader_mode is_callback =>
    let devices := s.devices.store handle fun device_info =>
      { device_info with is_callback := true }
    .ok ({ s with devices }.goto thread (some (handle, .copy_info is_loader_mode is_callback)))
  | .copy_info is_loader_mode is_callback => do
    let lidar_info ← (s.device handle).lidar_info
    .ok (s.goto thread (some (handle, .update_view is_loader_mode is_callback lidar_info)))
  | .update_view is_loader_mode is_callback lidar_info =>
    let view_updates :=
      if s.is_view ∧ ¬ is_loader_mode then handle :: s.view_updates else s.view_updates
    .ok ({ s with view_updates }.goto thread (some (handle, .call_back is_callback lidar_info)))
  | .call_back is_callback lidar_info =>
    let announced :=
      if ¬ is_callback ∧ s.livox_lidar_info_change_cb then (handle, lidar_info) :: s.announced
      else s.announced
    .ok ({ s with announced }.goto thread none)

/-- A thread makes its calls one after the other. -/
def step (s : Announcements) : AnnounceEvent → Checked Announcements
  | .call thread handle =>
    match s.calls thread with
    | none => .ok (s.goto thread (some (handle, .store_is_update_cfg)))
    | some _ => .ok s
  | .proceed thread =>
    match s.calls thread with
    | none => .ok s
    | some (handle, next) => s.proceed thread handle next

/-- How often the user's callback has been called for a device. -/
def invoked (s : Announcements) (handle : UInt32) : Nat :=
  s.announced.countP fun entry => entry.1 = handle

def AnnouncedOnce (s : Announcements) (handle : UInt32) : Prop := s.invoked handle ≤ 1

instance (s : Announcements) (handle : UInt32) : Decidable (s.AnnouncedOnce handle) :=
  inferInstanceAs (Decidable (_ ≤ _))

end Announcements

/-- The call has found that the device has not been announced, and is about to announce it. -/
def InfoChange.claims : InfoChange → Bool
  | .store_is_callback _ is_callback | .copy_info _ is_callback | .update_view _ is_callback _
  | .call_back is_callback _ => !is_callback
  | _ => false

namespace Announcements

/-- The thread has found that the device has not been announced, and stores next that it has. -/
def stores_next (s : Announcements) (handle : UInt32) (thread : Thread) : Bool :=
  match s.calls thread with
  | some (called, .store_is_callback _ false) => called = handle
  | _ => false

/-- A call does not find a device unannounced between the load and the store of another one that has
found it so. -/
def Alone (handle : UInt32) (s : Announcements) : AnnounceEvent → Prop
  | .call _ _ => True
  | .proceed thread =>
    match s.calls thread with
    | some (called, .load_is_callback _) =>
      called = handle → (s.device handle).is_callback = false →
        ∀ other, s.stores_next handle other = false
    | _ => True

instance (handle : UInt32) (s : Announcements) (e : AnnounceEvent) : Decidable (s.Alone handle e) := by
  unfold Alone
  repeat' split
  all_goals infer_instance

variable {s t : Announcements} {handle called : UInt32} {thread : Thread}

/-- The thread is in a call that is about to announce the device. -/
def Claims (s : Announcements) (handle : UInt32) (thread : Thread) : Prop :=
  ∃ next, s.calls thread = some (handle, next) ∧ next.claims = true

/-- One call at most is about to announce the device, and none after it has been announced; until it
is stored that it has, the call that is about to is the one that stores it next. -/
structure Claimed (handle : UInt32) (s : Announcements) : Prop where
  once : (s.invoked handle = 0 ∧
      ∀ thread other, s.Claims handle thread → s.Claims handle other → thread = other) ∨
    (s.invoked handle = 1 ∧ ∀ thread, ¬ s.Claims handle thread)
  stored : (s.device handle).is_callback = false → s.invoked handle = 0 ∧
    ∀ thread, s.Claims handle thread → s.stores_next handle thread = true

@[simp] theorem goto_calls (s : Announcements) (thread other : Thread)
    (next : Option (UInt32 × InfoChange)) :
    (s.goto thread next).calls other = if other = thread then next else s.calls other :=
  Function.update_apply s.calls thread next other

theorem goto_claims_iff {next : Option (UInt32 × InfoChange)} {other : Thread} :
    (s.goto thread next).Claims handle other ↔
      if other = thread then ∃ pc, next = some (handle, pc) ∧ pc.claims = true
      else s.Claims handle other := by
  unfold Claims
  rw [goto_calls]
  split <;> rfl

theorem goto_stores_next_of_ne {next : Option (UInt32 × InfoChange)} {other : Thread}
    (h : other ≠ thread) :
    (s.goto thread next).stores_next handle other = s.stores_next handle other := by
  unfold stores_next
  rw [goto_calls, if_neg h]

/-- A step that claims nothing new and announces nothing; the call that it is of goes on to the store,
or has done it. -/
theorem Claimed.quiet (h : s.Claimed handle) (hinvoked : t.invoked handle = s.invoked handle)
    (hclaims : ∀ other, t.Claims handle other → s.Claims handle other)
    (hstored : (t.device handle).is_callback = false → (s.device handle).is_callback = false ∧
      ∀ other, t.Claims handle other → s.stores_next handle other = true →
        t.stores_next handle other = true) :
    t.Claimed handle where
  once := by
    obtain ⟨hzero, hone⟩ | ⟨hone, hnone⟩ := h.once
    · exact .inl ⟨by rw [hinvoked, hzero], fun thread other hthread hother =>
        hone thread other (hclaims thread hthread) (hclaims other hother)⟩
    · exact .inr ⟨by rw [hinvoked, hone], fun other hother => hnone other (hclaims other hother)⟩
  stored := by
    intro hflag
    obtain ⟨hbefore, hnext⟩ := hstored hflag
    obtain ⟨hzero, hstores⟩ := h.stored hbefore
    exact ⟨by rw [hinvoked, hzero], fun other hother =>
      hnext other hother (hstores other (hclaims other hother))⟩

/-- The thread goes on, with at most the claim that it has had before. It has had that only after the
store, or the store is what it has done. -/
theorem Claimed.goto (h : s.Claimed handle) (t : Announcements) (hcalls : t.calls = s.calls)
    (hannounced : t.invoked handle = s.invoked handle)
    (hflag : (t.device handle).is_callback = false → (s.device handle).is_callback = false)
    {next : Option (UInt32 × InfoChange)}
    (hnext : ∀ pc, next = some (handle, pc) → pc.claims = true → s.Claims handle thread ∧
      ((t.device handle).is_callback = false → s.stores_next handle thread = false)) :
    (t.goto thread next).Claimed handle := by
  have hothers : ∀ other, t.Claims handle other ↔ s.Claims handle other := by
    intro other
    rw [Claims, Claims, hcalls]
  refine h.quiet hannounced ?_ ?_
  · intro other hother
    rw [goto_claims_iff] at hother
    split at hother
    · rename_i heq
      obtain ⟨pc, hpc, hclaims⟩ := hother
      rw [heq]
      exact (hnext pc hpc hclaims).1
    · exact (hothers other).mp hother
  · intro hafter
    refine ⟨hflag hafter, fun other hother hstores => ?_⟩
    by_cases heq : other = thread
    · rw [goto_claims_iff, if_pos heq] at hother
      obtain ⟨pc, hpc, hclaims⟩ := hother
      rw [heq, (hnext pc hpc hclaims).2 hafter] at hstores
      cases hstores
    · rw [goto_stores_next_of_ne heq, stores_next, hcalls]
      exact hstores

/-- The same for a call that goes on with its next step. -/
theorem Claimed.go_on (h : s.Claimed handle) (t : Announcements) (hcalls : t.calls = s.calls)
    (hannounced : t.invoked handle = s.invoked handle)
    (hflag : (t.device handle).is_callback = false → (s.device handle).is_callback = false)
    {pc : InfoChange}
    (hnext : called = handle → pc.claims = true → s.Claims handle thread ∧
      ((t.device handle).is_callback = false → s.stores_next handle thread = false)) :
    (t.goto thread (some (called, pc))).Claimed handle := by
  refine h.goto t hcalls hannounced hflag fun next hpc hclaims => ?_
  simp only [Option.some.injEq, Prod.mk.injEq] at hpc
  obtain ⟨rfl, rfl⟩ := hpc
  exact hnext rfl hclaims

/-- The device is found unannounced, with no other call that has found it so and has not stored it
yet: the thread is the one to announce it. -/
theorem Claimed.claim (h : s.Claimed handle) (hflag : (s.device handle).is_callback = false)
    (halone : ∀ other, s.stores_next handle other = false) (is_loader_mode : Bool) :
    (s.goto thread (some (handle, .store_is_callback is_loader_mode false))).Claimed handle := by
  obtain ⟨hzero, hstores⟩ := h.stored hflag
  have hnone : ∀ other, ¬ s.Claims handle other := by
    intro other hother
    have hnext := hstores other hother
    rw [halone other] at hnext
    cases hnext
  have honly : ∀ other,
      (s.goto thread (some (handle, .store_is_callback is_loader_mode false))).Claims handle other →
        other = thread := by
    intro other hother
    rw [goto_claims_iff] at hother
    split at hother
    · assumption
    · exact absurd hother (hnone other)
  refine ⟨.inl ⟨hzero, fun one other hone hother => (honly one hone).trans (honly other hother).symm⟩,
    fun _ => ⟨hzero, fun other hother => ?_⟩⟩
  simp [stores_next, honly other hother]

/-- The user's callback is called for the device. -/
theorem Claimed.announce (h : s.Claimed handle) (hclaims : s.Claims handle thread)
    (hstored : s.stores_next handle thread = false) (lidar_info : LivoxLidarInfo) :
    ({ s with announced := (handle, lidar_info) :: s.announced }.goto thread none).Claimed handle := by
  obtain ⟨hzero, hone⟩ | ⟨_, hnone⟩ := h.once
  · refine ⟨.inr ⟨?_, fun other hother => ?_⟩, fun hflag => ?_⟩
    · have hcount : s.announced.countP (fun entry => entry.1 = handle) = 0 := hzero
      simp [invoked, Announcements.goto, hcount]
    · rw [goto_claims_iff] at hother
      split at hother
      · obtain ⟨pc, hpc, _⟩ := hother
        cases hpc
      · rename_i hne
        exact hne (hone other thread hother hclaims)
    · have hnext := (h.stored hflag).2 thread hclaims
      rw [hstored] at hnext
      cases hnext
  · exact absurd hclaims (hnone thread)

/-- A store to the information on a device that leaves the flag as it is, or sets it. -/
theorem store_is_callback {f : DeviceInfo → DeviceInfo}
    (hf : ∀ device_info, (f device_info).is_callback = false → device_info.is_callback = false)
    (hflag : (({ s with devices := s.devices.store called f } : Announcements).device
      handle).is_callback = false) :
    (s.device handle).is_callback = false := by
  simp only [device, Devices.store_lookup] at hflag
  split at hflag
  · rename_i heq
    rw [← heq]
    exact hf _ hflag
  · exact hflag

theorem Claimed.proceed (h : s.Claimed handle) {pc : InfoChange}
    (hcall : s.calls thread = some (called, pc)) (hguard : s.Alone handle (.proceed thread))
    (hstep : s.proceed thread called pc = .ok t) : t.Claimed handle := by
  -- the claim of the thread, when its call is for the device
  have hmine : called = handle → pc.claims = true → s.Claims handle thread := by
    rintro rfl hclaims
    exact ⟨pc, hcall, hclaims⟩
  have hlater : pc.claims = true → (∀ is_loader_mode is_callback,
      pc ≠ .store_is_callback is_loader_mode is_callback) → s.stores_next handle thread = false := by
    intro _ hne
    cases pc <;> simp_all [stores_next]
  cases pc with
  | store_is_update_cfg =>
    cases hstep
    apply h.goto
    · rfl
    · rfl
    · exact store_is_callback fun _ hflag => hflag
    · simp [InfoChange.claims]
  | find =>
    simp only [Announcements.proceed] at hstep
    split at hstep
    · cases hstep
      exact h.goto s rfl rfl id (by simp [InfoChange.claims])
    · cases hstep
      exact h.goto s rfl rfl id (by simp)
  | load_is_loader_mode =>
    cases hstep
    exact h.goto s rfl rfl id (by simp [InfoChange.claims])
  | load_is_callback is_loader_mode =>
    cases hstep
    by_cases hfound : called = handle ∧ (s.device handle).is_callback = false
    · obtain ⟨rfl, hflag⟩ := hfound
      rw [hflag]
      simp only [Alone, hcall, forall_const] at hguard
      exact h.claim hflag (hguard hflag) is_loader_mode
    · refine h.go_on s rfl rfl id ?_
      rintro rfl hclaims
      simp only [InfoChange.claims, Bool.not_eq_true'] at hclaims
      exact absurd ⟨rfl, hclaims⟩ hfound
  | store_is_callback is_loader_mode is_callback =>
    cases hstep
    apply h.go_on
    · rfl
    · rfl
    · exact store_is_callback fun _ hflag => absurd hflag (by simp)
    · rintro rfl hclaims
      refine ⟨hmine rfl hclaims, fun hflag => ?_⟩
      simp [device] at hflag
  | copy_info is_loader_mode is_callback =>
    obtain ⟨lidar_info, _, hnext⟩ := bind_eq_ok_iff.mp hstep
    cases hnext
    exact h.go_on s rfl rfl id fun heq hclaims =>
      ⟨hmine heq hclaims, fun _ => hlater hclaims (by simp)⟩
  | update_view is_loader_mode is_callback lidar_info =>
    cases hstep
    apply h.go_on
    · rfl
    · rfl
    · exact id
    · exact fun heq hclaims => ⟨hmine heq hclaims, fun _ => hlater hclaims (by simp)⟩
  | call_back is_callback lidar_info =>
    cases hstep
    by_cases hcalled : ¬ is_callback ∧ s.livox_lidar_info_change_cb
    · rw [if_pos hcalled]
      have hclaims : (InfoChange.call_back is_callback lidar_info).claims = true := by
        simpa [InfoChange.claims] using hcalled.1
      by_cases heq : called = handle
      · subst heq
        exact h.announce (hmine rfl hclaims) (hlater hclaims (by simp)) lidar_info
      · refine h.goto { s with announced := (called, lidar_info) :: s.announced } rfl ?_ id (by simp)
        simp [invoked, heq]
    · rw [if_neg hcalled]
      exact h.goto s rfl rfl id (by simp)

theorem Claimed.step (h : s.Claimed handle) {e : AnnounceEvent} (hguard : s.Alone handle e)
    (hstep : s.step e = .ok t) : t.Claimed handle := by
  cases e with
  | call thread called =>
    simp only [Announcements.step] at hstep
    split at hstep
    · cases hstep
      exact h.goto s rfl rfl id (by simp [InfoChange.claims])
    · cases hstep
      exact h
  | proceed thread =>
    simp only [Announcements.step] at hstep
    split at hstep
    · cases hstep
      exact h
    · rename_i called pc hcall
      exact h.proceed hcall hguard hstep

theorem start_claimed (is_view livox_lidar_info_change_cb : Bool) (devices : Devices)
    (handle : UInt32) : (start is_view livox_lidar_info_change_cb devices).Claimed handle where
  once := .inl ⟨rfl, by simp [Claims, start]⟩
  stored := fun _ => ⟨rfl, by simp [Claims, start]⟩

theorem Claimed.announcedOnce (h : s.Claimed handle) : s.AnnouncedOnce handle := by
  unfold AnnouncedOnce
  obtain ⟨hzero, _⟩ | ⟨hone, _⟩ := h.once <;> omega

theorem exec_proceed (s : Announcements) (thread : Thread) (handle : UInt32) (pc : InfoChange)
    (es : List AnnounceEvent) :
    exec step (s.goto thread (some (handle, pc))) (.proceed thread :: es) =
      (s.goto thread (some (handle, pc))).proceed thread handle pc >>= fun t => exec step t es := by
  simp [exec_cons, step]

/-- A call during which the other thread does nothing is the function as a whole. -/
theorem call_alone (hidle : s.calls thread = none) (handle : UInt32) {after : Announcements}
    (hrun : exec step s (.call thread handle :: List.replicate 8 (.proceed thread)) = .ok after) :
    ∃ told, s.devices.livox_lidar_info_change handle = .ok (after.devices, told) ∧
      after.announced =
        (if s.livox_lidar_info_change_cb then told.toList.map (handle, ·) else []) ++
          s.announced := by
  have hcall : s.step (.call thread handle) =
      .ok (s.goto thread (some (handle, .store_is_update_cfg))) := by
    simp [step, hidle]
  simp only [List.replicate] at hrun
  rw [exec_cons, hcall, ok_bind, exec_proceed] at hrun
  simp only [proceed, ok_bind] at hrun
  rw [exec_proceed] at hrun
  simp only [proceed] at hrun
  -- the first store has made an entry, so that the device is found
  rw [if_pos (by simp [goto, Devices.store]), ok_bind, exec_proceed] at hrun
  simp only [proceed, ok_bind] at hrun
  rw [exec_proceed] at hrun
  simp only [proceed, ok_bind] at hrun
  rw [exec_proceed] at hrun
  simp only [proceed, ok_bind] at hrun
  rw [exec_proceed] at hrun
  simp only [proceed] at hrun
  rw [bind_assoc, bind_eq_ok_iff] at hrun
  obtain ⟨lidar_info, hinfo, hrun⟩ := hrun
  simp only [ok_bind] at hrun
  rw [exec_proceed] at hrun
  simp only [proceed, ok_bind] at hrun
  rw [exec_proceed] at hrun
  simp only [proceed, ok_bind] at hrun
  cases hrun
  have hinfo : (s.device handle).lidar_info = .ok lidar_info := by
    simp only [goto, device, Devices.store_lookup, if_true, Option.getD_some] at hinfo
    exact hinfo
  have hdevices : s.devices.livox_lidar_info_change handle = .ok
      ((s.devices.store handle fun device_info => { device_info with is_update_cfg := true }).store
          handle fun device_info => { device_info with is_callback := true },
        if (s.device handle).is_callback then none else some lidar_info) := by
    simp only [Devices.livox_lidar_info_change, Devices.store_lookup, if_true, Option.getD_some]
    exact bind_eq_ok_iff.mpr ⟨lidar_info, hinfo, rfl⟩
  refine ⟨_, hdevices, ?_⟩
  cases hflag : (s.device handle).is_callback <;> cases hset : s.livox_lidar_info_change_cb <;>
    simp_all [goto, device]

end Announcements

/-- Whatever calls the two threads make, and however their steps interleave: as long as no call finds
the device unannounced between the load and the store of another one, the user's callback is called
at most once for it. -/
theorem announced_at_most_once (is_view livox_lidar_info_change_cb : Bool) (devices : Devices)
    (handle : UInt32) (es : List AnnounceEvent)
    (hguard : StepsSatisfy Announcements.step (Announcements.Alone handle)
      (Announcements.start is_view livox_lidar_info_change_cb devices) es) :
    StatesSatisfy Announcements.step (fun s => s.AnnouncedOnce handle)
      (Announcements.start is_view livox_lidar_info_change_cb devices) es := by
  have hstep : ∀ (s : Announcements) (e : AnnounceEvent) (t : Announcements), s.Claimed handle →
      s.Alone handle e → s.step e = .ok t → t.Claimed handle :=
    fun s e t h hguard hone => h.step hguard hone
  have hstart := Announcements.start_claimed is_view livox_lidar_info_change_cb devices handle
  exact (StepsSatisfy.invariant hstep hstart hguard).mono fun s h => h.announcedOnce

/-- A lidar as detection records it. -/
def recorded_devices : Devices :=
  (∅ : Devices).insert 1
    { sn := [0x33], lidar_ip := "192.168.1.100", dev_type := kLivoxLidarTypeMid360
      is_update_cfg := false, is_get_loader_mode := true, is_loader_mode := true
      is_callback := false }

/-- Both threads call the function, the detection thread does a number of steps before the command
thread does all of its own, and goes on then. -/
def two_calls (steps : Nat) : List AnnounceEvent :=
  .call .detection 1 :: .call .command 1 ::
    (List.replicate steps (AnnounceEvent.proceed .detection) ++
      List.replicate 8 (AnnounceEvent.proceed .command) ++
      List.replicate (8 - steps) (AnnounceEvent.proceed .detection))

theorem announced_at_most_once_interleaved :
    StatesSatisfy Announcements.step (fun s => s.AnnouncedOnce 1)
      (Announcements.start false true recorded_devices) (two_calls 5) :=
  announced_at_most_once false true recorded_devices 1 (two_calls 5) (by decide +kernel)

theorem racing_calls_announce_twice :
    ¬ ∀ (is_view livox_lidar_info_change_cb : Bool) (devices : Devices) (handle : UInt32)
      (es : List AnnounceEvent), devices.contains handle →
        StatesSatisfy Announcements.step (fun s => s.AnnouncedOnce handle)
          (Announcements.start is_view livox_lidar_info_change_cb devices) es := by
  intro h
  have hnot : ¬ StatesSatisfy Announcements.step (fun s => s.AnnouncedOnce 1)
      (Announcements.start false true recorded_devices) (two_calls 4) := by
    decide +kernel
  exact hnot (h false true recorded_devices 1 (two_calls 4) (by decide +kernel))

end livox_lidar
