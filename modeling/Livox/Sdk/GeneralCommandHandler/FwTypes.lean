import Livox.Sdk.GeneralCommandHandler.Devices

open checked execution ordered_map

namespace livox_lidar

/-- The queries of the firmware types, with what has been seen of them: the callbacks and what they
reported, the failures that `count` stands for, and the queries that were sent again, each with the
newest first. -/
structure FwTypeQueries extends FwTypes where
  history : List (UInt32 × Option UInt8)
  counted : List UInt32
  queried : List UInt32

inductive FwTypeEvent where
  | detected (handle : UInt32) (detection_data : DetectionData)
  | callback (handle : UInt32) (status : LivoxLidarStatus)
      (response : Option LivoxLidarDiagInternalInfoResponse)

namespace FwTypeQueries

def start : FwTypeQueries where
  devices := ∅
  count := 0
  history := []
  counted := []
  queried := []

def callback (s : FwTypeQueries) (handle : UInt32) (status : LivoxLidarStatus)
    (response : Option LivoxLidarDiagInternalInfoResponse) : FwTypeQueries :=
  let (fw_types, again) := s.query_fw_type_callback handle status response
  { toFwTypes := fw_types
    history := (handle, reported_fw_type status response) :: s.history
    counted := if again then handle :: s.counted else []
    queried := if again then handle :: s.queried else s.queried }

def step (s : FwTypeQueries) : FwTypeEvent → Checked FwTypeQueries
  | .detected handle detection_data => do
    if s.devices.contains handle then .ok s
    else
      let sn ← detection_data.sn_string
      .ok { s with devices := s.devices.record handle detection_data sn }
  | .callback handle status response => .ok (s.callback handle status response)

/-- How many of the last callbacks for a device, in a row, have reported a failure. -/
def failures (history : List (UInt32 × Option UInt8)) (handle : UInt32) : Nat :=
  ((history.filter fun entry => entry.1 = handle).takeWhile fun entry => entry.2 = none).length

/-- Whether the firmware of a device is the loader, once that is known. -/
def loader_mode (s : FwTypeQueries) (handle : UInt32) : Option Bool :=
  s.devices[handle]?.bind fun device_info =>
    if device_info.is_get_loader_mode then some device_info.is_loader_mode else none

/-- A type that is reported is the one that is set, and a failure sets the type 1 when it comes after
more than ten of the same device. -/
def TypeFollows (s : FwTypeQueries) : FwTypeEvent → Prop
  | .detected _ _ => True
  | .callback handle status response =>
    s.devices[handle]?.isSome →
      match reported_fw_type status response with
      | some fw_type =>
        (s.callback handle status response).loader_mode handle = some (decide (fw_type = 0))
      | none =>
        (s.callback handle status response).loader_mode handle = s.loader_mode handle ∨
          (s.callback handle status response).loader_mode handle = some false ∧
            10 < failures s.history handle

instance (s : FwTypeQueries) (e : FwTypeEvent) : Decidable (s.TypeFollows e) := by
  unfold TypeFollows
  repeat' split
  all_goals infer_instance

/-- What comes of the queries of a device. -/
def outcome (s : FwTypeQueries) (handle : UInt32) : Option DeviceInfo × Nat :=
  (s.devices[handle]?, s.queried.count handle)

end FwTypeQueries

/-- The event is not a failure of one of these devices. -/
def FwTypeEvent.kept (failing : UInt32 → Bool) : FwTypeEvent → Bool
  | .detected _ _ => true
  | .callback handle status response =>
    !(failing handle && (reported_fw_type status response).isNone)

namespace FwTypeQueries

/-- The failures of other devices could as well not have been there. -/
def FailuresStayOwn (es : List FwTypeEvent) : Prop :=
  ∀ (failing : UInt32 → Bool) (handle : UInt32), failing handle = false →
    ∀ t, exec step start es = .ok t →
      ∃ t', exec step start (es.filter (FwTypeEvent.kept failing)) = .ok t' ∧
        t'.outcome handle = t.outcome handle

/-- When the count has passed ten, the type that is reported is not that of the loader, and the
failures that a failure comes after are of the same device. -/
def OwnFailures (s : FwTypeQueries) : FwTypeEvent → Prop
  | .detected _ _ => True
  | .callback handle status response =>
    s.count > 10 →
      match reported_fw_type status response with
      | some fw_type => fw_type ≠ 0
      | none => ∀ counted ∈ s.counted, counted = handle

-- the failures are looked through in the list, and not all handles
instance (s : FwTypeQueries) (e : FwTypeEvent) : Decidable (s.OwnFailures e) :=
  match e with
  | .detected _ _ => isTrue trivial
  | .callback handle status response =>
    match h : reported_fw_type status response with
    | some fw_type => decidable_of_iff (s.count > 10 → fw_type ≠ 0) (by simp [OwnFailures, h])
    | none =>
      have : Decidable (∀ counted ∈ s.counted, counted = handle) := List.decidableBAll _ _
      decidable_of_iff (s.count > 10 → ∀ counted ∈ s.counted, counted = handle)
        (by simp [OwnFailures, h])

variable {s t : FwTypeQueries}

/-- `count` is the number of the counted failures, which are failures in a row of their devices. -/
structure Counting (s : FwTypeQueries) : Prop where
  count : s.count = Int8.ofNat s.counted.length
  bound : s.counted.length ≤ 11
  own : ∀ handle, s.counted.count handle ≤ failures s.history handle

theorem Counting.exhausted_iff (h : s.Counting) : s.count > 10 ↔ 10 < s.counted.length := by
  have hsmall : ∀ n ≤ 11, (Int8.ofNat n > 10 ↔ 10 < n) := by decide
  rw [h.count]
  exact hsmall _ h.bound

theorem failures_cons (history : List (UInt32 × Option UInt8)) (handle other : UInt32)
    (reported : Option UInt8) :
    failures ((handle, reported) :: history) other =
      if handle = other then if reported = none then failures history other + 1 else 0
      else failures history other := by
  unfold failures
  by_cases heq : handle = other
  · cases reported <;> simp [heq]
  · simp [heq]

/-- What a callback does: with the count past ten it sets the type 1, a failure is counted and the
type is queried again, and a type that is reported is set. -/
theorem callback_cases (h : s.Counting) (handle : UInt32) (status : LivoxLidarStatus)
    (response : Option LivoxLidarDiagInternalInfoResponse) :
    (10 < s.counted.length ∧ s.callback handle status response =
      { devices := s.devices.update_fw_type handle 1, count := 0
        history := (handle, reported_fw_type status response) :: s.history
        counted := [], queried := s.queried }) ∨
    (s.counted.length ≤ 10 ∧ reported_fw_type status response = none ∧
      s.callback handle status response =
        { devices := s.devices, count := s.count + 1, history := (handle, none) :: s.history
          counted := handle :: s.counted, queried := handle :: s.queried }) ∨
    (s.counted.length ≤ 10 ∧ ∃ fw_type, reported_fw_type status response = some fw_type ∧
      s.callback handle status response =
        { devices := s.devices.update_fw_type handle fw_type, count := 0
          history := (handle, some fw_type) :: s.history, counted := [], queried := s.queried }) := by
  unfold callback FwTypes.query_fw_type_callback
  by_cases hexhausted : s.count > 10
  · left
    exact ⟨h.exhausted_iff.mp hexhausted, by simp [hexhausted]⟩
  · right
    have hroom : s.counted.length ≤ 10 := not_lt.mp (mt h.exhausted_iff.mpr hexhausted)
    cases hreported : reported_fw_type status response with
    | none => exact .inl ⟨hroom, rfl, by simp [hexhausted]⟩
    | some fw_type => exact .inr ⟨hroom, fw_type, rfl, by simp [hexhausted]⟩

theorem Counting.callback (h : s.Counting) (handle : UInt32) (status : LivoxLidarStatus)
    (response : Option LivoxLidarDiagInternalInfoResponse) :
    (s.callback handle status response).Counting := by
  obtain ⟨_, hcallback⟩ | ⟨hroom, hreported, hcallback⟩ | ⟨_, fw_type, _, hcallback⟩ :=
    callback_cases h handle status response
  · rw [hcallback]
    exact ⟨rfl, by simp, by simp⟩
  · rw [hcallback]
    refine ⟨?_, by simp only [List.length_cons]; omega, ?_⟩
    · change s.count + 1 = _
      rw [h.count, List.length_cons, Int8.ofNat_add]
      rfl
    · intro other
      have hown := h.own other
      rw [List.count_cons, failures_cons]
      by_cases heq : handle = other
      · simp [heq, hown]
      · simp [heq, hown]
  · rw [hcallback]
    exact ⟨rfl, by simp, by simp⟩

theorem Counting.step (h : s.Counting) {e : FwTypeEvent} (hstep : s.step e = .ok t) :
    t.Counting := by
  cases e with
  | detected handle detection_data =>
    simp only [FwTypeQueries.step] at hstep
    split at hstep
    · cases hstep
      exact h
    · obtain ⟨sn, _, hrecord⟩ := bind_eq_ok_iff.mp hstep
      cases hrecord
      exact ⟨h.count, h.bound, h.own⟩
  | callback handle status response =>
    cases hstep
    exact h.callback handle status response

/-- A type that is not that of the loader is set as the type 1 is. -/
theorem update_fw_type_of_ne_zero (devices : Devices) (handle : UInt32) {fw_type : UInt8}
    (h : fw_type ≠ 0) : devices.update_fw_type handle 1 = devices.update_fw_type handle fw_type := by
  simp [Devices.update_fw_type, h]

theorem Counting.typeFollows (h : s.Counting) {e : FwTypeEvent} (hguard : s.OwnFailures e) :
    s.TypeFollows e := by
  cases e with
  | detected handle detection_data => trivial
  | callback handle status response =>
    intro hknown
    obtain ⟨device_info, hlookup⟩ := Option.isSome_iff_exists.mp hknown
    obtain ⟨hexhausted, hcallback⟩ | ⟨_, hreported, hcallback⟩ | ⟨_, fw_type, hreported, hcallback⟩ :=
      callback_cases h handle status response
    · have howns := hguard (h.exhausted_iff.mpr hexhausted)
      rw [hcallback]
      cases hreported : reported_fw_type status response with
      | none =>
        rw [hreported] at howns
        have hall : s.counted.count handle = s.counted.length := by
          rw [List.count_eq_length]
          exact fun other hother => (howns other hother).symm
        have hown := h.own handle
        right
        refine ⟨?_, by omega⟩
        simp [loader_mode, Devices.update_fw_type_lookup, hlookup]
      | some fw_type =>
        rw [hreported] at howns
        simp [loader_mode, Devices.update_fw_type_lookup, hlookup, show fw_type ≠ 0 from howns]
    · rw [hreported, hcallback]
      exact .inl rfl
    · rw [hreported, hcallback]
      simp [loader_mode, Devices.update_fw_type_lookup, hlookup]

/-- The states of two runs, the second without the failures of some devices, agree on the other
devices and on the failures of these that are counted. -/
structure Agree (failing : UInt32 → Bool) (s s' : FwTypeQueries) : Prop where
  counting : s.Counting
  counting' : s'.Counting
  known : ∀ handle : UInt32, s.devices[handle]?.isSome = s'.devices[handle]?.isSome
  devices : ∀ handle : UInt32, failing handle = false → s.devices[handle]? = s'.devices[handle]?
  counted : s'.counted = s.counted.filter fun handle => !failing handle
  queried : s'.queried = s.queried.filter fun handle => !failing handle

/-- A type is set in both runs, or only in the first for a device whose failures are left out. -/
theorem Agree.update_fw_type {failing : UInt32 → Bool} {s s' : FwTypeQueries}
    (h : Agree failing s s') (handle : UInt32) (fw_type : UInt8) :
    (∀ other : UInt32, (s.devices.update_fw_type handle fw_type)[other]?.isSome =
        (s'.devices.update_fw_type handle fw_type)[other]?.isSome) ∧
      ∀ other : UInt32, failing other = false →
        (s.devices.update_fw_type handle fw_type)[other]? =
          (s'.devices.update_fw_type handle fw_type)[other]? := by
  constructor
  · intro other
    rw [Devices.update_fw_type_isSome, Devices.update_fw_type_isSome, h.known other]
  · intro other hother
    rw [Devices.update_fw_type_lookup, Devices.update_fw_type_lookup]
    split
    · rename_i heq
      rw [h.devices handle (heq ▸ hother)]
    · exact h.devices other hother

theorem Agree.detected {failing : UInt32 → Bool} {s s' : FwTypeQueries} (h : Agree failing s s')
    {handle : UInt32} {detection_data : DetectionData}
    (hstep : s.step (.detected handle detection_data) = .ok t) :
    ∃ t', s'.step (.detected handle detection_data) = .ok t' ∧ Agree failing t t' := by
  have hcontains : s'.devices.contains handle = s.devices.contains handle := by
    rw [Std.TreeMap.contains_eq_isSome_getElem?, Std.TreeMap.contains_eq_isSome_getElem?,
      h.known handle]
  simp only [step] at hstep ⊢
  rw [hcontains]
  split at hstep
  · rename_i hknown
    cases hstep
    exact ⟨s', by simp [hknown], h⟩
  · rename_i hnew
    obtain ⟨sn, hsn, hrecord⟩ := bind_eq_ok_iff.mp hstep
    cases hrecord
    have hnone : s.devices[handle]? = none ∧ s'.devices[handle]? = none := by
      have hnot := hnew
      rw [Std.TreeMap.contains_eq_isSome_getElem?] at hnot
      have hnot' := hnot
      rw [h.known handle] at hnot'
      exact ⟨Option.not_isSome_iff_eq_none.mp hnot, Option.not_isSome_iff_eq_none.mp hnot'⟩
    refine ⟨{ s' with devices := s'.devices.record handle detection_data sn },
      by simp [hnew, hsn], ⟨h.counting.count, h.counting.bound, h.counting.own⟩,
      ⟨h.counting'.count, h.counting'.bound, h.counting'.own⟩, ?_, ?_, h.counted, h.queried⟩
    · intro other
      simp only [Devices.record, Devices.store_lookup, hnone]
      split
      · rfl
      · exact h.known other
    · intro other hother
      simp only [Devices.record, Devices.store_lookup, hnone]
      split
      · rfl
      · exact h.devices other hother

/-- The first run has counted at least what the second has. -/
theorem Agree.exhausted {failing : UInt32 → Bool} {s s' : FwTypeQueries} (h : Agree failing s s')
    (hexhausted : 10 < s'.counted.length) : 10 < s.counted.length := by
  rw [h.counted] at hexhausted
  exact lt_of_lt_of_le hexhausted (List.length_filter_le _ _)

/-- An answer with a type that the failures in a row do not alter sets it. -/
theorem Counting.answered (h : s.Counting) {handle : UInt32} {status : LivoxLidarStatus}
    {response : Option LivoxLidarDiagInternalInfoResponse} {fw_type : UInt8}
    (hreported : reported_fw_type status response = some fw_type)
    (hne : 10 < s.counted.length → fw_type ≠ 0) :
    s.callback handle status response =
      { devices := s.devices.update_fw_type handle fw_type, count := 0
        history := (handle, some fw_type) :: s.history, counted := [], queried := s.queried } := by
  obtain ⟨hexhausted, hcallback⟩ | ⟨_, hnone, _⟩ | ⟨_, other, hsome, hcallback⟩ :=
    callback_cases h handle status response
  · rw [hcallback, hreported, update_fw_type_of_ne_zero _ _ (hne hexhausted)]
  · rw [hreported] at hnone
    cases hnone
  · rw [hreported] at hsome
    cases hsome
    exact hcallback

/-- An answer sets the same type in both runs. -/
theorem Agree.answered {failing : UInt32 → Bool} {s s' : FwTypeQueries} (h : Agree failing s s')
    {handle : UInt32} {status : LivoxLidarStatus}
    {response : Option LivoxLidarDiagInternalInfoResponse} {fw_type : UInt8}
    (hguard : s.OwnFailures (.callback handle status response))
    (hreported : reported_fw_type status response = some fw_type) :
    Agree failing (s.callback handle status response) (s'.callback handle status response) := by
  have hcounting := h.counting.callback handle status response
  have hcounting' := h.counting'.callback handle status response
  have hne : 10 < s.counted.length → fw_type ≠ 0 := by
    intro hexhausted
    have howns := hguard (h.counting.exhausted_iff.mpr hexhausted)
    rwa [hreported] at howns
  rw [h.counting.answered hreported hne] at hcounting ⊢
  rw [h.counting'.answered hreported fun hexhausted => hne (h.exhausted hexhausted)]
    at hcounting' ⊢
  obtain ⟨hknown, hdevices⟩ := h.update_fw_type handle fw_type
  exact ⟨hcounting, hcounting', hknown, hdevices, rfl, h.queried⟩

/-- A failure of another device is counted in both runs, or exhausts the count in both. -/
theorem Agree.failed {failing : UInt32 → Bool} {s s' : FwTypeQueries} (h : Agree failing s s')
    {handle : UInt32} {status : LivoxLidarStatus}
    {response : Option LivoxLidarDiagInternalInfoResponse}
    (hguard : s.OwnFailures (.callback handle status response))
    (hreported : reported_fw_type status response = none) (hother : failing handle = false) :
    Agree failing (s.callback handle status response) (s'.callback handle status response) := by
  have hcounting := h.counting.callback handle status response
  have hcounting' := h.counting'.callback handle status response
  obtain ⟨hexhausted, hcallback⟩ | ⟨hroom, _, hcallback⟩ | ⟨_, fw_type, hsome, _⟩ :=
    callback_cases h.counting handle status response
  · -- the counted failures are of this device, and have been counted in the other run, too
    have howns := hguard (h.counting.exhausted_iff.mpr hexhausted)
    rw [hreported] at howns
    have hsame : s'.counted = s.counted := by
      rw [h.counted, List.filter_eq_self]
      intro counted hcounted
      rw [howns counted hcounted, hother]
      rfl
    obtain ⟨_, hcallback'⟩ | ⟨hroom', _⟩ | ⟨hroom', _⟩ :=
      callback_cases h.counting' handle status response
    · rw [hcallback] at hcounting ⊢
      rw [hcallback'] at hcounting' ⊢
      obtain ⟨hknown, hdevices⟩ := h.update_fw_type handle 1
      exact ⟨hcounting, hcounting', hknown, hdevices, rfl, h.queried⟩
    · rw [hsame] at hroom'
      omega
    · rw [hsame] at hroom'
      omega
  · obtain ⟨hexhausted', _⟩ | ⟨_, _, hcallback'⟩ | ⟨_, fw_type, hsome, _⟩ :=
      callback_cases h.counting' handle status response
    · have hexhausted := h.exhausted hexhausted'
      omega
    · rw [hcallback] at hcounting ⊢
      rw [hcallback'] at hcounting' ⊢
      refine ⟨hcounting, hcounting', h.known, h.devices, ?_, ?_⟩
      · simp [hother, h.counted]
      · simp [hother, h.queried]
    · rw [hreported] at hsome
      cases hsome
  · rw [hreported] at hsome
    cases hsome

/-- A callback that is no failure of these devices does the same in both runs. -/
theorem Agree.kept {failing : UInt32 → Bool} {s s' : FwTypeQueries} (h : Agree failing s s')
    {handle : UInt32} {status : LivoxLidarStatus}
    {response : Option LivoxLidarDiagInternalInfoResponse}
    (hguard : s.OwnFailures (.callback handle status response))
    (hkept : (FwTypeEvent.callback handle status response).kept failing = true) :
    Agree failing (s.callback handle status response) (s'.callback handle status response) := by
  cases hreported : reported_fw_type status response with
  | some fw_type => exact h.answered hguard hreported
  | none =>
    have hother : failing handle = false := by simpa [FwTypeEvent.kept, hreported] using hkept
    exact h.failed hguard hreported hother

/-- A failure of one of these devices is not seen in the second run. -/
theorem Agree.erased {failing : UInt32 → Bool} {s s' : FwTypeQueries} (h : Agree failing s s')
    {handle : UInt32} {status : LivoxLidarStatus}
    {response : Option LivoxLidarDiagInternalInfoResponse}
    (hguard : s.OwnFailures (.callback handle status response))
    (herased : (FwTypeEvent.callback handle status response).kept failing = false) :
    Agree failing (s.callback handle status response) s' := by
  have hcounting := h.counting.callback handle status response
  obtain ⟨hfailing, hreported⟩ : failing handle = true ∧ reported_fw_type status response = none := by
    simpa [FwTypeEvent.kept] using herased
  obtain ⟨hexhausted, hcallback⟩ | ⟨_, _, hcallback⟩ | ⟨_, fw_type, hsome, _⟩ :=
    callback_cases h.counting handle status response
  · have howns := hguard (h.counting.exhausted_iff.mpr hexhausted)
    rw [hreported] at howns
    rw [hcallback] at hcounting ⊢
    refine ⟨hcounting, h.counting', ?_, ?_, ?_, h.queried⟩
    · intro other
      rw [Devices.update_fw_type_isSome, h.known other]
    · intro other hother
      have hne : handle ≠ other := by
        rintro rfl
        rw [hfailing] at hother
        cases hother
      rw [Devices.update_fw_type_lookup, if_neg hne, h.devices other hother]
    · rw [h.counted, List.filter_eq_nil_iff.mpr]
      · rfl
      · intro counted hcounted
        simp [howns counted hcounted, hfailing]
  · rw [hcallback] at hcounting ⊢
    refine ⟨hcounting, h.counting', h.known, h.devices, ?_, ?_⟩
    · simp [hfailing, h.counted]
    · simp [hfailing, h.queried]
  · rw [hreported] at hsome
    cases hsome

theorem start_counting : start.Counting := ⟨rfl, by simp [start], by simp [start]⟩

theorem start_agree (failing : UInt32 → Bool) : Agree failing start start where
  counting := start_counting
  counting' := start_counting
  known := fun _ => rfl
  devices := fun _ _ => rfl
  counted := rfl
  queried := rfl

theorem failures_stay_own {es : List FwTypeEvent}
    (hguard : StepsSatisfy step OwnFailures start es) : FailuresStayOwn es := by
  intro failing handle hhandle t hrun
  obtain ⟨t', hrun', hagree⟩ := hguard.erase
    (by
      intro s s' e t h hown hkept hstep
      cases e with
      | detected handle detection_data => exact h.detected hstep
      | callback handle status response =>
        cases hstep
        exact ⟨_, rfl, h.kept hown hkept⟩)
    (by
      intro s s' e t h hown herased hstep
      cases e with
      | detected handle detection_data => cases herased
      | callback handle status response =>
        cases hstep
        exact h.erased hown herased)
    (start_agree failing) hrun
  refine ⟨t', hrun', ?_⟩
  rw [outcome, outcome, hagree.devices handle hhandle, hagree.queried, List.count_filter]
  simp [hhandle]

end FwTypeQueries

/-- Whatever is reported for the devices, and in whatever order: as long as the failures that the
count has passed ten with are those of the device that fails, the types follow what is reported for
the devices, and no device's failures change what comes of another's queries. -/
theorem fw_types_per_device (es : List FwTypeEvent)
    (hguard : StepsSatisfy FwTypeQueries.step FwTypeQueries.OwnFailures FwTypeQueries.start es) :
    StepsSatisfy FwTypeQueries.step FwTypeQueries.TypeFollows FwTypeQueries.start es ∧
      FwTypeQueries.FailuresStayOwn es :=
  ⟨hguard.of_invariant (fun _ _ _ h _ hstep => h.step hstep) (fun _ _ h hown => h.typeFollows hown)
      FwTypeQueries.start_counting,
    FwTypeQueries.failures_stay_own hguard⟩

/-- Two lidars, the first of which does not answer for a number of queries. Then the second answers
with a firmware type. -/
def unanswered (queries : Nat) (fw_type : UInt8) : List FwTypeEvent :=
  let detection_data : DetectionData :=
    { ret_code := 0, dev_type := kLivoxLidarTypeMid360, sn := Vector.replicate 16 0
      lidar_ip := default_lidar_ip, cmd_port := 56100, behind := [] }
  let response : LivoxLidarDiagInternalInfoResponse :=
    { ret_code := 0, key := 0x8010, length := 1, value := fw_type }
  .detected 1 detection_data :: .detected 2 detection_data ::
    (List.replicate queries (FwTypeEvent.callback 1 .kLivoxLidarStatusTimeout none) ++
      [FwTypeEvent.callback 2 .kLivoxLidarStatusSuccess (some response)])

theorem fw_types_per_device_unanswered :
    StepsSatisfy FwTypeQueries.step FwTypeQueries.TypeFollows FwTypeQueries.start
        (unanswered 12 0) ∧
      FwTypeQueries.FailuresStayOwn (unanswered 12 0) :=
  fw_types_per_device (unanswered 12 0) (by decide +kernel)

theorem failures_exhaust_others :
    ¬ ∀ es : List FwTypeEvent,
      StepsSatisfy FwTypeQueries.step FwTypeQueries.TypeFollows FwTypeQueries.start es ∧
        FwTypeQueries.FailuresStayOwn es := by
  intro h
  have hnot : ¬ StepsSatisfy FwTypeQueries.step FwTypeQueries.TypeFollows FwTypeQueries.start
      (unanswered 11 0) := by
    decide +kernel
  exact hnot (h (unanswered 11 0)).1

end livox_lidar
