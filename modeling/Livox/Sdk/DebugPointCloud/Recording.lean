import Livox.Library.OrderedMap
import Livox.Sdk.DebugPointCloud.Writing

open checked execution memory swap_queue ordered_map

namespace livox_lidar

/-- What the manager is for: while it is enabled, it keeps the datagrams of each lidar that has been
detected, in the order in which they arrive. -/
structure Recorder where
  enabled : Bool
  known : UInt32 → Bool
  recorded : UInt32 → List (List UInt8)

namespace Recorder

def new : Recorder := { enabled := false, known := fun _ => false, recorded := fun _ => [] }

def step (r : Recorder) : DebugPointCloudEvent → Recorder
  | .add_device handle _ => { r with known := Function.update r.known handle true }
  | .handler handle buf _ =>
    if r.enabled && r.known handle then
      { r with recorded := Function.update r.recorded handle (r.recorded handle ++ [buf]) }
    else r
  | .enable enable _ => { r with enabled := enable }
  | .write_data _ _ _ => r

/-- The recorder after these events. -/
def after (events : List DebugPointCloudEvent) : Recorder := events.foldl step new

end Recorder

section Manager

variable {crc_16 : FastCRC} {before : Files} {s t : DebugPointCloudManager} {r : Recorder}

/-- What the handlers of a device have been given, one after the other. -/
def DebugPointCloudManager.stored (s : DebugPointCloudManager) (handle : UInt32) : List UInt8 :=
  (s.objects.filter (·.handle = handle)).flatMap (·.data.posted)

/-- What the handlers that have opened a file have written to it, one after the other. -/
def DebugPointCloudManager.content (crc_16 : FastCRC) (s : DebugPointCloudManager)
    (full_path : List UInt8) : List UInt8 :=
  (s.objects.filter (·.full_path = some full_path)).flatMap (·.written crc_16)

/-- A handler of the map is the last one that has been made for its device. -/
def DebugPointCloudManager.Current (s : DebugPointCloudManager) (handle : UInt32) (object : Nat) :
    Prop :=
  ∃ front h back, s.objects = front ++ h :: back ∧ front.length = object ∧ h.handle = handle ∧
    ∀ later ∈ back, later.handle ≠ handle

theorem DebugPointCloudManager.current_iff {handle : UInt32} {object : Nat} :
    s.Current handle object ↔ ∃ front back, s.objects.map (·.handle) = front ++ handle :: back ∧
      front.length = object ∧ handle ∉ back := by
  constructor
  · rintro ⟨front, h, back, hsplit, rfl, rfl, hlast⟩
    refine ⟨front.map (·.handle), back.map (·.handle), by simp [hsplit], by simp, ?_⟩
    simpa using hlast
  · rintro ⟨front, back, hsplit, rfl, hlast⟩
    obtain ⟨front', rest, hsplit', rfl, hrest⟩ := List.map_eq_append_iff.mp hsplit
    obtain ⟨h, back', rfl, rfl, rfl⟩ := List.map_eq_cons_iff.mp hrest
    refine ⟨front', h, back', hsplit', by simp, rfl, ?_⟩
    simpa using hlast

/-- The manager does what the recorder does: what a lidar has sent while the recorder was enabled has
been given to its handlers, and the files hold what they held before and then, for each handler that
has opened the file, all that it has written. The thread of a handler that is not in the map has
ended. -/
structure DebugPointCloudManager.Records (crc_16 : FastCRC) (before : Files)
    (s : DebugPointCloudManager) (r : Recorder) : Prop where
  enabled : s.enable = r.enabled
  known : ∀ handle, handle ∈ s.devices_info ↔ r.known handle = true
  recorded : ∀ handle, s.stored handle = (r.recorded handle).flatten
  handlers : ∀ h ∈ s.objects, h.Recorded crc_16
  files : ∀ full_path, s.files full_path = before full_path ++ s.content crc_16 full_path
  file_path : ∀ h ∈ s.objects, pop_slash s.path = .ok h.file_path
  devices : ∀ h ∈ s.objects, ∃ info, s.devices_info[h.handle]? = some info ∧ h.sn = info.sn ∧
    h.dev_type = info.dev_type
  current : ∀ handle object, s.handlers[handle]? = some object → s.Current handle object
  live : ∀ (object : Nat) (h : DebugPointCloudHandler), s.objects[object]? = some h → h.place ≠ .ended →
    s.handlers[h.handle]? = some object

/-- Two handlers that have opened one file are handlers of one lidar. -/
theorem DebugPointCloudManager.Records.handle_of_full_path (hs : s.Records crc_16 before r)
    {h o : DebugPointCloudHandler} (hh : h ∈ s.objects) (ho : o ∈ s.objects) {full_path : List UInt8}
    (hfull_path : h.full_path = some full_path) (hother : o.full_path = some full_path) :
    h.handle = o.handle := by
  obtain ⟨time, htime⟩ := (hs.handlers h hh).named full_path hfull_path
  obtain ⟨time', htime'⟩ := (hs.handlers o ho).named full_path hother
  have hfile_path := (hs.file_path h hh).symm.trans (hs.file_path o ho)
  exact DebugPointCloudHandler.handle_of_path_at (Except.ok.inj hfile_path) (htime.symm.trans htime')

/-- A handler that writes nothing in a step leaves the files as they are. -/
theorem DebugPointCloudManager.Records.files_of_same (hs : s.Records crc_16 before r)
    {front back : List DebugPointCloudHandler} {h h' : DebugPointCloudHandler}
    (hsplit : s.objects = front ++ h :: back) (hfull_path : h'.full_path = h.full_path)
    (hwritten : h'.written crc_16 = h.written crc_16) (full_path : List UInt8) :
    s.files full_path = before full_path ++
      ({ s with objects := front ++ h' :: back } : DebugPointCloudManager).content crc_16 full_path := by
  rw [hs.files full_path, content, content, hsplit]
  simp only [List.filter_append, List.filter_cons, hfull_path, List.flatMap_append]
  split
  · rw [List.flatMap_cons, List.flatMap_cons, hwritten]
  · rfl

/-- What the last handler of a lidar appends to its file stands behind all that its handlers have
written to it. -/
theorem DebugPointCloudManager.Records.files_of_appends (hs : s.Records crc_16 before r)
    {front back : List DebugPointCloudHandler} {h : DebugPointCloudHandler}
    {after : DebugPointCloudHandler × Files} (hsplit : s.objects = front ++ h :: back)
    (hlast : ∀ later ∈ back, later.handle ≠ h.handle)
    (hframe : DebugPointCloudHandler.Frame h after.1) (hrecorded : after.1.Recorded crc_16)
    (happends : DebugPointCloudHandler.Appends crc_16 h s.files after) (full_path : List UInt8) :
    after.2 full_path = before full_path ++
      ({ s with objects := front ++ after.1 :: back, files := after.2 } :
        DebugPointCloudManager).content crc_16 full_path := by
  rcases happends with ⟨hpath, hwritten, hsame⟩ | ⟨path, buf, hown, hpath, hwritten, hfiles⟩
  · rw [hsame]
    exact hs.files_of_same hsplit hpath hwritten full_path
  · have hbefore := hs.files full_path
    rw [content, hsplit] at hbefore
    rw [hfiles, content]
    simp only [List.filter_append, List.filter_cons, hpath, List.flatMap_append] at hbefore ⊢
    by_cases hother : full_path = path
    case neg =>
      have hheld : h.full_path ≠ some full_path := by
        rcases hown with hnone | hsome
        · simp [hnone]
        · simpa [hsome] using Ne.symm hother
      rw [fwrite_of_ne _ _ hother, hbefore]
      simp [hheld, Ne.symm hother]
    case pos =>
      subst hother
      have hback : back.filter (·.full_path = some full_path) = [] := by
        refine List.filter_eq_nil_iff.mpr fun later hlater hsame => hlast later hlater ?_
        have hmem : later ∈ s.objects := by simp [hsplit, hlater]
        obtain ⟨time, htime⟩ := (hs.handlers later hmem).named full_path (of_decide_eq_true hsame)
        obtain ⟨time', htime'⟩ := hrecorded.named full_path hpath
        have hheld : h ∈ s.objects := by simp [hsplit]
        have hfile_path := Except.ok.inj ((hs.file_path later hmem).symm.trans (hs.file_path h hheld))
        have hhandle := DebugPointCloudHandler.handle_of_path_at
          (hfile_path.trans hframe.file_path.symm) (htime.symm.trans htime')
        exact hhandle.trans hframe.handle
      rw [fwrite_self, hbefore, hback]
      rcases hown with hnone | hsome
      · have hempty : h.written crc_16 = [] := by rw [DebugPointCloudHandler.written, hnone]
        simp [hnone, hwritten, hempty]
      · simp [hsome, hwritten]

/-- A handler takes the place of another one for the same device. -/
theorem DebugPointCloudManager.Records.replace (hs : s.Records crc_16 before r)
    {front back : List DebugPointCloudHandler} {h h' : DebugPointCloudHandler} {files : Files}
    (hsplit : s.objects = front ++ h :: back) (hrecorded : h'.Recorded crc_16)
    (hframe : DebugPointCloudHandler.Frame h h') (hplace : h'.place ≠ .ended → h.place ≠ .ended)
    (ht : t = { s with objects := front ++ h' :: back, files })
    (hfiles : ∀ full_path, files full_path = before full_path ++ t.content crc_16 full_path)
    {r' : Recorder} (henabled : r'.enabled = r.enabled) (hknown : r'.known = r.known)
    (hstored : ∀ handle, t.stored handle = (r'.recorded handle).flatten) :
    t.Records crc_16 before r' := by
  subst ht
  have hmem : ∀ o ∈ front ++ h' :: back, o = h' ∨ o ∈ s.objects := by
    intro o ho
    rw [hsplit]
    simp only [List.mem_append, List.mem_cons] at ho ⊢
    tauto
  have hheld : h ∈ s.objects := by simp [hsplit]
  refine
    { enabled := hs.enabled.trans henabled.symm
      known := by rw [hknown]; exact hs.known
      recorded := hstored
      handlers := ?_
      files := hfiles
      file_path := ?_
      devices := ?_
      current := ?_
      live := ?_ }
  · intro o ho
    rcases hmem o ho with rfl | hold
    · exact hrecorded
    · exact hs.handlers o hold
  · intro o ho
    rcases hmem o ho with rfl | hold
    · rw [hframe.file_path]
      exact hs.file_path h hheld
    · exact hs.file_path o hold
  · intro o ho
    rcases hmem o ho with rfl | hold
    · rw [hframe.handle, hframe.sn, hframe.dev_type]
      exact hs.devices h hheld
    · exact hs.devices o hold
  · intro handle object hlookup
    have hcurrent := hs.current handle object hlookup
    rw [current_iff] at hcurrent ⊢
    rw [hsplit] at hcurrent
    simpa [hframe.handle] using hcurrent
  · intro object o hobject ho
    by_cases hat : object = front.length
    · subst hat
      obtain rfl : h' = o := by simpa using hobject
      rw [hframe.handle]
      exact hs.live front.length h (by simp [hsplit]) (hplace ho)
    · refine hs.live object o ?_ ho
      rw [hsplit]
      rw [← hobject]
      rcases Nat.lt_or_gt_of_ne hat with hlt | hgt
      · rw [List.getElem?_append_left hlt, List.getElem?_append_left hlt]
      · rw [List.getElem?_append_right (by omega), List.getElem?_append_right (by omega)]
        obtain ⟨n, hn⟩ : ∃ n, object - front.length = n + 1 := ⟨object - front.length - 1, by omega⟩
        rw [hn, List.getElem?_cons_succ, List.getElem?_cons_succ]

/-- What the devices have sent is not changed by a handler that keeps what it has been given. -/
theorem DebugPointCloudManager.stored_of_same {front back : List DebugPointCloudHandler}
    {h : DebugPointCloudHandler} {files : Files} (hsplit : s.objects = front ++ h :: back)
    (h' : DebugPointCloudHandler) (hhandle : h'.handle = h.handle)
    (hposted : h'.data.posted = h.data.posted) (handle : UInt32) :
    ({ s with objects := front ++ h' :: back, files } : DebugPointCloudManager).stored handle =
      s.stored handle := by
  rw [stored, stored, hsplit]
  simp only [List.filter_append, List.filter_cons, hhandle, List.flatMap_append]
  split
  · rw [List.flatMap_cons, List.flatMap_cons, hposted]
  · rfl

theorem DebugPointCloudManager.Records.disable (hs : s.Records crc_16 before r) (object : Nat) :
    (s.disable object).Records crc_16 before r := by
  rw [DebugPointCloudManager.disable]
  by_cases hlt : object < s.objects.length
  case neg =>
    rw [List.modify_eq_self (by omega)]
    exact hs
  case pos =>
    obtain ⟨front, h, back, hsplit, -, hmodify⟩ :=
      List.exists_of_modify DebugPointCloudHandler.disable hlt
    rw [hmodify]
    refine hs.replace hsplit (hs.handlers h (by simp [hsplit])).disable ⟨rfl, rfl, rfl, rfl, rfl⟩ id rfl
      (hs.files_of_same hsplit rfl rfl) rfl rfl fun handle => ?_
    rw [← hs.recorded handle]
    exact stored_of_same hsplit h.disable rfl rfl handle

/-- A step of the thread of one handler. -/
theorem DebugPointCloudManager.Records.write_data (hs : s.Records crc_16 before r) (object : Nat)
    (timed_out : Bool) (opened : Option String) :
    (s.write_data crc_16 object timed_out opened).Records crc_16 before r := by
  rw [DebugPointCloudManager.write_data]
  split
  case h_1 => exact hs
  case h_2 h hobject =>
    obtain ⟨hlt, hget⟩ := List.getElem?_eq_some_iff.mp hobject
    by_cases hended : h.place = .ended
    case pos =>
      rw [DebugPointCloudHandler.write_data_of_ended hended]
      simp only
      rw [← hget, List.set_getElem_self hlt]
      exact hs
    case neg =>
      obtain ⟨front, o, back, hsplit, hlength, -, hlast⟩ :=
        hs.current h.handle object (hs.live object h hobject hended)
      obtain rfl : o = h := by simpa [hsplit, ← hlength] using hobject
      have hmem : o ∈ s.objects := by simp [hsplit]
      obtain ⟨hrecorded, happends⟩ := (hs.handlers o hmem).write_data s.files timed_out opened
      obtain ⟨hframe, -, hposted⟩ := o.write_data_frame crc_16 s.files timed_out opened
      have hset : s.objects.set object (o.write_data crc_16 s.files timed_out opened).1 =
          front ++ (o.write_data crc_16 s.files timed_out opened).1 :: back := by
        simp [hsplit, ← hlength]
      simp only
      rw [hset]
      refine hs.replace hsplit hrecorded hframe (fun _ => hended) rfl
        (hs.files_of_appends hsplit hlast hframe hrecorded happends) rfl rfl fun handle => ?_
      rw [← hs.recorded handle]
      exact stored_of_same hsplit _ hframe.handle hposted handle

/-- A datagram that is given to the handler of its device is the next one of the record. -/
theorem DebugPointCloudManager.Records.store_data (hs : s.Records crc_16 before r) {handle : UInt32}
    {object : Nat} (hcurrent : s.Current handle object) (buf : List UInt8) :
    (s.store_data object buf).Records crc_16 before
      { r with recorded := Function.update r.recorded handle (r.recorded handle ++ [buf]) } := by
  obtain ⟨front, h, back, hsplit, hlength, hhandle, hlast⟩ := hcurrent
  have hmem : h ∈ s.objects := by simp [hsplit]
  have hlt : object < s.objects.length := by
    rw [hsplit, ← hlength]
    simp
  obtain ⟨front', h', back', hsplit', hlength', hmodify⟩ :=
    List.exists_of_modify (fun o : DebugPointCloudHandler => (o.store_data (some buf)).2) hlt
  obtain ⟨rfl, htail⟩ := List.append_inj (hsplit.symm.trans hsplit') (hlength.trans hlength'.symm)
  obtain ⟨rfl, rfl⟩ := List.cons.inj htail
  rw [DebugPointCloudManager.store_data, hmodify]
  have hback : back.filter (·.handle = handle) = [] := by simpa using hlast
  refine hs.replace hsplit ((hs.handlers h hmem).store_data (some buf)) ⟨rfl, rfl, rfl, rfl, rfl⟩ id rfl
    (hs.files_of_same hsplit rfl rfl) rfl rfl fun other => ?_
  have hrecorded := hs.recorded other
  rw [stored, hsplit] at hrecorded
  rw [stored]
  simp only [List.filter_append, List.filter_cons, List.flatMap_append] at hrecorded ⊢
  by_cases hother : other = handle
  · subst hother
    rw [Function.update_self, List.flatten_append, ← hrecorded]
    simp [hhandle, hback, DebugPointCloudHandler.store_data, SwapQueue.post]
  · rw [Function.update_of_ne hother, ← hrecorded]
    have hne : h.handle ≠ other := by
      rw [hhandle]
      exact Ne.symm hother
    simp [hne, DebugPointCloudHandler.store_data]

theorem DebugPointCloudManager.write_data_handlers (s : DebugPointCloudManager) (object : Nat)
    (timed_out : Bool) (opened : Option String) :
    (s.write_data crc_16 object timed_out opened).handlers = s.handlers ∧
      (s.write_data crc_16 object timed_out opened).path = s.path := by
  rw [DebugPointCloudManager.write_data]
  split <;> exact ⟨rfl, rfl⟩

theorem DebugPointCloudManager.write_data_objects (s : DebugPointCloudManager) {object other : Nat}
    (hother : other ≠ object) (timed_out : Bool) (opened : Option String) :
    (s.write_data crc_16 object timed_out opened).objects[other]? = s.objects[other]? := by
  rw [DebugPointCloudManager.write_data]
  split
  · rfl
  · rw [List.getElem?_set_ne (Ne.symm hother)]

theorem DebugPointCloudManager.write_data_lookup (s : DebugPointCloudManager) (object : Nat)
    (timed_out : Bool) (opened : Option String) :
    (s.write_data crc_16 object timed_out opened).objects[object]? =
      s.objects[object]?.map fun h => (h.write_data crc_16 s.files timed_out opened).1 := by
  rw [DebugPointCloudManager.write_data]
  split
  case h_1 hnone => rw [hnone, Option.map_none]
  case h_2 h hobject =>
    obtain ⟨hlt, -⟩ := List.getElem?_eq_some_iff.mp hobject
    rw [hobject, Option.map_some]
    exact List.getElem?_set_self hlt

/-- A handler that is destroyed is recorded as before, and the others are not looked at. -/
theorem DebugPointCloudManager.Records.destroy (hs : s.Records crc_16 before r)
    (opened : Nat → Option String) (object : Nat) :
    (s.destroy crc_16 opened object).Records crc_16 before r ∧
      (s.destroy crc_16 opened object).handlers = s.handlers ∧
      (s.destroy crc_16 opened object).path = s.path := by
  rw [DebugPointCloudManager.destroy]
  refine ⟨((hs.disable object).write_data object false _).write_data object false _, ?_, ?_⟩
  · rw [(write_data_handlers _ _ _ _).1, (write_data_handlers _ _ _ _).1]
    rfl
  · rw [(write_data_handlers _ _ _ _).2, (write_data_handlers _ _ _ _).2]
    rfl

/-- All threads have ended but those of handlers that are still to be destroyed. -/
def DebugPointCloudManager.Settled (s : DebugPointCloudManager) (pointers : List Nat) : Prop :=
  ∀ (object : Nat) (h : DebugPointCloudHandler), s.objects[object]? = some h →
    h.place = .ended ∨ object ∈ pointers

theorem DebugPointCloudManager.Settled.destroy {object : Nat} {pointers : List Nat}
    (hs : s.Settled (object :: pointers)) (opened : Nat → Option String) :
    (s.destroy crc_16 opened object).Settled pointers := by
  intro other h hlookup
  by_cases hother : other = object
  case neg =>
    have hdisable : (s.disable object).objects[other]? = s.objects[other]? := by
      simp [DebugPointCloudManager.disable, Ne.symm hother]
    rw [DebugPointCloudManager.destroy, write_data_objects _ hother, write_data_objects _ hother,
      hdisable] at hlookup
    rcases hs other h hlookup with hended | hmem
    · exact .inl hended
    · exact .inr ((List.mem_cons.mp hmem).resolve_left hother)
  case pos =>
    subst hother
    have hdisable : (s.disable other).objects[other]? =
        s.objects[other]?.map DebugPointCloudHandler.disable := by
      simp [DebugPointCloudManager.disable]
    rw [DebugPointCloudManager.destroy, write_data_lookup, write_data_lookup, hdisable] at hlookup
    simp only [Option.map_map, Option.map_eq_some_iff] at hlookup
    obtain ⟨o, -, rfl⟩ := hlookup
    exact .inl (DebugPointCloudHandler.ended_of_disabled rfl)

theorem DebugPointCloudManager.Records.disable_all (hs : s.Records crc_16 before r)
    (pointers : List Nat) :
    (pointers.foldl DebugPointCloudManager.disable s).Records crc_16 before r ∧
      (pointers.foldl DebugPointCloudManager.disable s).handlers = s.handlers ∧
      (pointers.foldl DebugPointCloudManager.disable s).path = s.path := by
  induction pointers generalizing s with
  | nil => exact ⟨hs, rfl, rfl⟩
  | cons object pointers ih => exact ih (hs.disable object)

/-- When the handlers that are left have been destroyed, no thread runs. -/
theorem DebugPointCloudManager.Records.destroy_all {pointers : List Nat}
    (hs : s.Records crc_16 before r) (hsettled : s.Settled pointers) (opened : Nat → Option String) :
    (pointers.foldl (DebugPointCloudManager.destroy crc_16 opened) s).Records crc_16 before r ∧
      (pointers.foldl (DebugPointCloudManager.destroy crc_16 opened) s).path = s.path ∧
      (pointers.foldl (DebugPointCloudManager.destroy crc_16 opened) s).Settled [] := by
  induction pointers generalizing s with
  | nil => exact ⟨hs, rfl, hsettled⟩
  | cons object pointers ih =>
    obtain ⟨hdestroyed, -, hpath⟩ := hs.destroy opened object
    rw [List.foldl_cons, ← hpath]
    exact ih hdestroyed (hsettled.destroy opened)

theorem DebugPointCloudManager.Records.set_enable (hs : s.Records crc_16 before r) (enable : Bool)
    (opened : Nat → Option String) :
    (s.set_enable crc_16 enable opened).Records crc_16 before { r with enabled := enable } ∧
      (s.set_enable crc_16 enable opened).path = s.path := by
  cases enable with
  | true => exact ⟨{ hs with enabled := rfl }, rfl⟩
  | false =>
    have hoff : ({ s with enable := false } : DebugPointCloudManager).Records crc_16 before
        { r with enabled := false } := { hs with enabled := rfl }
    obtain ⟨hdisabled, hhandlers, hpath⟩ := hoff.disable_all (s.handlers.toList.map (·.2))
    have hsettled : ((s.handlers.toList.map (·.2)).foldl DebugPointCloudManager.disable
        { s with enable := false }).Settled (s.handlers.toList.map (·.2)) := by
      intro object h hlookup
      by_cases hended : h.place = .ended
      · exact .inl hended
      · have hlive := hdisabled.live object h hlookup hended
        rw [hhandlers] at hlive
        refine .inr (List.mem_map.mpr ⟨(h.handle, object), ?_, rfl⟩)
        exact Std.TreeMap.mem_toList_iff_getElem?_eq_some.mpr hlive
    obtain ⟨hcleared, hkept, hended⟩ := hdisabled.destroy_all hsettled opened
    refine ⟨{ hcleared with current := ?_, live := fun object h hlookup hrunning => ?_ }, ?_⟩
    · intro handle object hlookup
      simp [DebugPointCloudManager.set_enable] at hlookup
    · rcases hended object h hlookup with hend | hmem
      · exact absurd hend hrunning
      · cases hmem
    · exact hkept.trans hpath

/-- A detection is kept only when the lidar is new, and then it is its first one. -/
theorem DebugPointCloudManager.Records.add_device (hs : s.Records crc_16 before r) {handle : UInt32}
    {detection_data : DetectionData} (hadd : s.add_device handle detection_data = .ok t) :
    t.Records crc_16 before { r with known := Function.update r.known handle true } := by
  rw [DebugPointCloudManager.add_device] at hadd
  split at hadd
  case isTrue hdetected =>
    cases hadd
    have hknown : Function.update r.known handle true = r.known := by
      rw [Function.update_eq_self_iff]
      exact ((hs.known handle).mp hdetected).symm
    rw [hknown]
    exact hs
  case isFalse hnew =>
    obtain ⟨sn, -, hinfo⟩ := bind_eq_ok_iff.mp hadd
    cases hinfo
    refine { hs with known := ?_, devices := ?_ }
    · intro other
      rw [mem_insert_iff, hs.known other]
      by_cases hother : other = handle
      · subst hother
        simp
      · simp [hother]
    · intro h hh
      obtain ⟨info, hlookup, hinfo⟩ := hs.devices h hh
      refine ⟨info, ?_, hinfo⟩
      have hne : handle ≠ h.handle := by
        rintro rfl
        exact hnew (mem_iff_lookup.mpr ⟨info, hlookup⟩)
      simp only [lookup_insert, if_neg hne]
      exact hlookup

/-- A handler that has just been made is the current one of its device, and keeps nothing yet. -/
theorem DebugPointCloudManager.Records.made (hs : s.Records crc_16 before r) {handle : UInt32}
    {info : LidarDeviceInfo} (hlookup : s.devices_info[handle]? = some info)
    (hnone : s.handlers[handle]? = none) {made : DebugPointCloudHandler}
    (hhandle : made.handle = handle) (hsn : made.sn = info.sn) (hdev_type : made.dev_type = info.dev_type)
    (hfile_path : pop_slash s.path = .ok made.file_path) (hdata : made.data = SwapQueue.empty UInt8)
    (hfull_path : made.full_path = none) (hrecorded : made.Recorded crc_16) :
    ({ s with
      handlers := s.handlers.insert handle s.objects.length
      objects := s.objects ++ [made] } : DebugPointCloudManager).Records crc_16 before r := by
  have hmem : ∀ h ∈ s.objects ++ [made], h ∈ s.objects ∨ h = made := by
    intro h hh
    rcases List.mem_append.mp hh with hold | hnew
    · exact .inl hold
    · exact .inr (List.mem_singleton.mp hnew)
  refine
    { hs with
      recorded := ?_
      handlers := ?_
      files := ?_
      file_path := ?_
      devices := ?_
      current := ?_
      live := ?_ }
  · intro other
    rw [← hs.recorded other, stored, stored, List.filter_append, List.flatMap_append]
    by_cases hother : made.handle = other <;> simp [hother, hdata, SwapQueue.empty]
  · intro h hh
    rcases hmem h hh with hold | rfl
    · exact hs.handlers h hold
    · exact hrecorded
  · intro full_path
    rw [hs.files full_path, content, content, List.filter_append]
    simp [hfull_path]
  · intro h hh
    rcases hmem h hh with hold | rfl
    · exact hs.file_path h hold
    · exact hfile_path
  · intro h hh
    rcases hmem h hh with hold | rfl
    · exact hs.devices h hold
    · rw [hhandle]
      exact ⟨info, hlookup, hsn, hdev_type⟩
  · intro other object hobject
    rw [lookup_insert] at hobject
    split at hobject
    case isTrue heq =>
      subst heq
      cases hobject
      exact ⟨s.objects, made, [], rfl, rfl, hhandle, by simp⟩
    case isFalse hne =>
      obtain ⟨front, h, back, hsplit, hlength, hh, hlast⟩ := hs.current other object hobject
      refine ⟨front, h, back ++ [made], by simp [hsplit], hlength, hh, ?_⟩
      intro later hlater
      rcases List.mem_append.mp hlater with hold | hnew
      · exact hlast later hold
      · obtain rfl := List.mem_singleton.mp hnew
        rw [hhandle]
        exact hne
  · intro object h hobject hrunning
    rw [lookup_insert]
    rcases Nat.lt_trichotomy object s.objects.length with hlt | rfl | hgt
    · rw [List.getElem?_append_left hlt] at hobject
      have hlive := hs.live object h hobject hrunning
      rw [if_neg fun heq => by rw [← heq, hnone] at hlive; cases hlive]
      exact hlive
    · obtain rfl : made = h := by simpa using hobject
      rw [if_pos hhandle.symm]
    · rw [List.getElem?_eq_none (by simp; omega)] at hobject
      cases hobject

/-- A datagram, where there is a path to store it under. -/
theorem DebugPointCloudManager.Records.handler (hs : s.Records crc_16 before r) (hpath : s.path ≠ [])
    (handle : UInt32) (buf : List UInt8) (behind_sn : Vector UInt8 15) :
    ∃ t, s.handler handle buf behind_sn = .ok t ∧ t.path = s.path ∧
      t.Records crc_16 before (r.step (.handler handle buf behind_sn)) := by
  rw [DebugPointCloudManager.handler]
  by_cases henable : s.enable = true
  case neg =>
    rw [if_neg henable]
    have hidle : r.step (.handler handle buf behind_sn) = r := by
      simp [Recorder.step, ← hs.enabled, henable]
    rw [hidle]
    exact ⟨s, rfl, rfl, hs⟩
  case pos =>
    rw [if_pos henable]
    have hrecord : r.known handle = true → r.step (.handler handle buf behind_sn) =
        { r with recorded := Function.update r.recorded handle (r.recorded handle ++ [buf]) } := by
      intro hknown
      rw [Recorder.step, if_pos (by rw [← hs.enabled, henable, hknown]; rfl)]
    cases hobject : s.handlers[handle]? with
    | some object =>
      have hcurrent := hs.current handle object hobject
      have hknown : r.known handle = true := by
        obtain ⟨front, h, back, hsplit, -, rfl, -⟩ := hcurrent
        obtain ⟨info, hlookup, -⟩ := hs.devices h (by simp [hsplit])
        exact (hs.known h.handle).mp (mem_iff_lookup.mpr ⟨info, hlookup⟩)
      rw [hrecord hknown]
      exact ⟨_, rfl, rfl, hs.store_data hcurrent buf⟩
    | none =>
      cases hlookup : s.devices_info[handle]? with
      | none =>
        have hunknown : ¬ r.known handle = true := by
          rw [← hs.known handle, mem_iff_lookup]
          simp [hlookup]
        have hidle : r.step (.handler handle buf behind_sn) = r := by
          simp [Recorder.step, hunknown]
        rw [hidle]
        exact ⟨s, rfl, rfl, hs⟩
      | some info =>
        have hknown : r.known handle = true :=
          (hs.known handle).mp (mem_iff_lookup.mpr ⟨info, hlookup⟩)
        obtain ⟨made, hmade, hhandle, hsn, hdev_type, hfile_path, hdata, hfull_path, hrecorded⟩ :=
          DebugPointCloudHandler.new_eq_ok handle info.sn behind_sn info.dev_type hpath
        have hnew := hs.made hlookup hobject hhandle hsn hdev_type hfile_path hdata hfull_path
          (hrecorded crc_16)
        have hcurrent := hnew.current handle s.objects.length (by simp)
        rw [hrecord hknown]
        simp only [hmade, ok_bind]
        exact ⟨_, rfl, rfl, hnew.store_data hcurrent buf⟩

/-- A lidar whose serial number is a string of the buffer that its answer was received into. -/
def DebugPointCloudEvent.Terminated : DebugPointCloudEvent → Prop
  | .add_device _ detection_data => ∃ sn, detection_data.sn_string = .ok sn
  | _ => True

theorem DebugPointCloudManager.add_device_completes (s : DebugPointCloudManager) (handle : UInt32)
    {detection_data : DetectionData} (hsn : ∃ sn, detection_data.sn_string = .ok sn) :
    ∃ t, s.add_device handle detection_data = .ok t ∧ t.path = s.path ∧ t.enable = s.enable ∧
      t.handlers = s.handlers := by
  obtain ⟨sn, hsn⟩ := hsn
  rw [add_device]
  split
  · exact ⟨s, rfl, rfl, rfl, rfl⟩
  · rw [hsn]
    exact ⟨_, rfl, rfl, rfl, rfl⟩

theorem DebugPointCloudManager.Records.step (hs : s.Records crc_16 before r) (hpath : s.path ≠ [])
    {event : DebugPointCloudEvent} (hterminated : event.Terminated) :
    ∃ t, s.step crc_16 event = .ok t ∧ t.path = s.path ∧ t.Records crc_16 before (r.step event) := by
  cases event with
  | add_device handle detection_data =>
    obtain ⟨t, hadd, hkept, -, -⟩ := s.add_device_completes handle hterminated
    exact ⟨t, hadd, hkept, hs.add_device hadd⟩
  | handler handle buf behind_sn => exact hs.handler hpath handle buf behind_sn
  | enable enable opened =>
    obtain ⟨hkept, hpath⟩ := hs.set_enable enable opened
    exact ⟨_, rfl, hpath, hkept⟩
  | write_data object timed_out opened =>
    exact ⟨_, rfl, (s.write_data_handlers object timed_out opened).2,
      hs.write_data object timed_out opened⟩

theorem DebugPointCloudManager.Records.run {events : List DebugPointCloudEvent}
    (hs : s.Records crc_16 before r) (hpath : s.path ≠ []) (hterminated : ∀ e ∈ events, e.Terminated) :
    ∃ t, exec (DebugPointCloudManager.step crc_16) s events = .ok t ∧
      t.Records crc_16 before (events.foldl Recorder.step r) := by
  induction events generalizing s r with
  | nil => exact ⟨s, rfl, hs⟩
  | cons event events ih =>
    obtain ⟨u, hone, hkept, hu⟩ := hs.step hpath (hterminated event List.mem_cons_self)
    have hrest : ∀ e ∈ events, e.Terminated := fun e he => hterminated e (List.mem_cons_of_mem _ he)
    obtain ⟨t, hrun, ht⟩ := ih hu (by rw [hkept]; exact hpath) hrest
    exact ⟨t, exec_cons_eq_ok_iff.mpr ⟨u, hone, hrun⟩, ht⟩

theorem DebugPointCloudManager.new_records (crc_16 : FastCRC) (before : Files) (path : List UInt8) :
    ({ new with path, files := before } : DebugPointCloudManager).Records crc_16 before
      Recorder.new := by
  constructor <;> simp [new, Recorder.new, stored, content]

end Manager

/-- Whatever the order of detections, datagrams, switches and steps of the threads, the manager does
what the recorder does: what a lidar has sent while the recorder was enabled has been given to its
handlers, in order and without a byte lost or repeated. A file belongs to one lidar; behind what it
held before, it has for each handler that has opened it the header of the lidar and the beginning of
what that handler was given, and the rest follows as long as the handler is enabled. -/
theorem debug_point_clouds_recorded (crc_16 : FastCRC) (before : Files) {store_path : List UInt8}
    {s₀ : DebugPointCloudManager} {events : List DebugPointCloudEvent}
    (hstore : DebugPointCloudManager.new.set_store_path store_path = .ok s₀) (hpath : s₀.path ≠ [])
    (hterminated : ∀ e ∈ events, e.Terminated) :
    ∃ s, exec (DebugPointCloudManager.step crc_16) { s₀ with files := before } events = .ok s ∧
      s.Records crc_16 before (Recorder.after events) ∧
      (∀ h ∈ s.objects, ∀ o ∈ s.objects, ∀ full_path, h.full_path = some full_path →
        o.full_path = some full_path → h.handle = o.handle) ∧
      ∀ h ∈ s.objects, h.Flushes crc_16 s.files := by
  have hnew : ({ s₀ with files := before } : DebugPointCloudManager).Records crc_16 before
      Recorder.new := by
    obtain ⟨path, -, hmade⟩ := bind_eq_ok_iff.mp hstore
    cases hmade
    exact DebugPointCloudManager.new_records crc_16 before path
  obtain ⟨s, hrun, hs⟩ := hnew.run hpath hterminated
  refine ⟨s, hrun, hs, ?_, fun h hh => (hs.handlers h hh).flushes s.files⟩
  intro h hh o ho full_path hfull_path hother
  exact hs.handle_of_full_path hh ho hfull_path hother

/-- The answer of a lidar, the serial number of which ends inside its field. -/
def detected_lidar : DetectionData where
  ret_code := 0
  dev_type := 9
  sn := Vector.replicate 16 0
  lidar_ip := default_lidar_ip
  cmd_port := 56100
  behind := []

/-- The thread of a handler comes from the test of its loop to the end of a write. -/
def written_at (object : Nat) (time : String) : List DebugPointCloudEvent :=
  List.replicate 3 (.write_data object false (some time))

/-- A lidar is detected and sends a datagram before the recording is enabled and one after, which is
written; within the same second the recording is disabled and enabled, and another datagram written. -/
def recorded_events : List DebugPointCloudEvent :=
  [.add_device 1 detected_lidar, .handler 1 [7] (Vector.replicate 15 0), .enable true fun _ => none,
    .handler 1 [8, 9] (Vector.replicate 15 0)] ++ written_at 0 "2022_01_01_00_00_00" ++
  [.enable false fun _ => none, .enable true fun _ => none,
    .handler 1 [10] (Vector.replicate 15 0)] ++ written_at 1 "2022_01_01_00_00_00"

theorem recorded_events_terminated : ∀ e ∈ recorded_events, e.Terminated := by
  have hsn : ∃ sn, detected_lidar.sn_string = .ok sn := ⟨[], rfl⟩
  simp [recorded_events, written_at, DebugPointCloudEvent.Terminated, hsn]

/-- All but the first datagram are recorded, by two handlers that write one file. -/
theorem debug_point_clouds_recorded_sample :
    (Recorder.after recorded_events).recorded 1 = [[8, 9], [10]] ∧
      (exec (DebugPointCloudManager.step fast_crc)
        { DebugPointCloudManager.new with path := [46], files := fun _ => [] }
        recorded_events).toOption.map (fun s => (s.objects.map (·.data.taken),
          (s.objects.map (·.full_path)).dedup.length)) = some ([[8, 9], [10]], 1) ∧
      ∃ s, exec (DebugPointCloudManager.step fast_crc)
          { DebugPointCloudManager.new with path := [46], files := fun _ => [] } recorded_events =
          .ok s ∧
        s.Records fast_crc (fun _ => []) (Recorder.after recorded_events) ∧
        (∀ h ∈ s.objects, ∀ o ∈ s.objects, ∀ full_path, h.full_path = some full_path →
          o.full_path = some full_path → h.handle = o.handle) ∧
        ∀ h ∈ s.objects, h.Flushes fast_crc s.files := by
  have hstore : DebugPointCloudManager.new.set_store_path [46, 47] =
      .ok { DebugPointCloudManager.new with path := [46] } := rfl
  exact ⟨rfl, by decide +kernel,
    debug_point_clouds_recorded fast_crc (fun _ => []) hstore (by simp) recorded_events_terminated⟩

section NoPath

variable {crc_16 : FastCRC} {s : DebugPointCloudManager} {r : Recorder}

/-- A manager that has no path to store under and has not made a handler. -/
structure DebugPointCloudManager.Pathless (s : DebugPointCloudManager) (r : Recorder) : Prop where
  path : s.path = []
  handlers : s.handlers.isEmpty = true
  enabled : s.enable = r.enabled
  known : ∀ handle, handle ∈ s.devices_info ↔ r.known handle = true

theorem Recorder.recorded_grows (r : Recorder) (events : List DebugPointCloudEvent)
    (handle : UInt32) : r.recorded handle <+: (events.foldl step r).recorded handle := by
  induction events generalizing r with
  | nil => exact List.prefix_refl _
  | cons event events ih =>
    refine List.IsPrefix.trans ?_ (ih (r.step event))
    cases event with
    | handler other buf behind_sn =>
      rw [step]
      split
      · by_cases heq : handle = other
        · subst heq
          simp
        · simp [heq]
      · exact List.prefix_refl _
    | _ => exact List.prefix_refl _

/-- What a step does without a path: a datagram that the recorder keeps stops the manager. -/
theorem DebugPointCloudManager.Pathless.step (hs : s.Pathless r) {event : DebugPointCloudEvent}
    (hterminated : event.Terminated) :
    (∃ t, s.step crc_16 event = .ok t ∧ t.Pathless (r.step event) ∧
      (r.step event).recorded = r.recorded) ∨
    (s.step crc_16 event = .error .precondition ∧
      ∃ handle buf, (r.step event).recorded handle = r.recorded handle ++ [buf]) := by
  cases event with
  | add_device handle detection_data =>
    obtain ⟨t, hadd, hpath, henable, hhandlers⟩ := s.add_device_completes handle hterminated
    refine .inl ⟨t, hadd, ?_, rfl⟩
    refine
      { path := hpath.trans hs.path
        handlers := by rw [hhandlers]; exact hs.handlers
        enabled := henable.trans hs.enabled
        known := fun other => ?_ }
    rw [DebugPointCloudManager.add_device] at hadd
    simp only [Recorder.step, Function.update_apply]
    split at hadd
    · next hdetected =>
      cases hadd
      by_cases hother : other = handle
      · subst hother
        simp [hdetected]
      · simp [hother, hs.known other]
    · obtain ⟨sn, -, hinfo⟩ := bind_eq_ok_iff.mp hadd
      cases hinfo
      rw [mem_insert_iff, hs.known other]
      by_cases hother : other = handle <;> simp [hother]
  | handler handle buf behind_sn =>
    have hnone : s.handlers[handle]? = none := Std.TreeMap.getElem?_of_isEmpty hs.handlers
    have hstep : s.step crc_16 (.handler handle buf behind_sn) =
        s.handler handle buf behind_sn := rfl
    rw [hstep, DebugPointCloudManager.handler, Recorder.step]
    by_cases hkept : (r.enabled && r.known handle) = true
    · obtain ⟨henabled, hknown⟩ := Bool.and_eq_true_iff.mp hkept
      obtain ⟨info, hlookup⟩ := mem_iff_lookup.mp ((hs.known handle).mpr hknown)
      rw [if_pos hkept, if_pos (hs.enabled.trans henabled), hnone]
      refine .inr ⟨?_, handle, buf, by simp⟩
      have hempty : pop_slash [] = .error .precondition := rfl
      simp [hlookup, DebugPointCloudHandler.new, hs.path, hempty]
    · rw [if_neg hkept]
      refine .inl ⟨s, ?_, hs, rfl⟩
      split
      · next henable =>
        have hunknown : s.devices_info[handle]? = none := by
          have hnot : handle ∉ s.devices_info := fun hmem =>
            hkept (Bool.and_eq_true_iff.mpr ⟨hs.enabled ▸ henable, (hs.known handle).mp hmem⟩)
          exact Std.TreeMap.getElem?_eq_none hnot
        simp only [hnone, hunknown]
      · rfl
  | enable enable opened =>
    refine .inl ⟨_, rfl, ?_, rfl⟩
    cases enable with
    | true => exact { hs with enabled := rfl }
    | false =>
      have hpointers : s.handlers.toList = [] := by
        rw [← List.isEmpty_iff, Std.TreeMap.isEmpty_toList, hs.handlers]
      have hoff : s.set_enable crc_16 false opened = { s with enable := false, handlers := ∅ } := by
        simp [set_enable, hpointers]
      rw [hoff]
      exact { hs with enabled := rfl, handlers := by simp }
  | write_data object timed_out opened =>
    refine .inl ⟨_, rfl, ?_, rfl⟩
    rw [DebugPointCloudManager.write_data]
    split
    · exact { hs with }
    · exact { hs with }

theorem DebugPointCloudManager.Pathless.completes_iff (hs : s.Pathless r)
    {events : List DebugPointCloudEvent} (hterminated : ∀ e ∈ events, e.Terminated) :
    (∃ t, exec (DebugPointCloudManager.step crc_16) s events = .ok t) ↔
      ∀ handle, (events.foldl Recorder.step r).recorded handle = r.recorded handle := by
  induction events generalizing s r with
  | nil => simp [exec]
  | cons event events ih =>
    have hrest : ∀ e ∈ events, e.Terminated := fun e he => hterminated e (List.mem_cons_of_mem _ he)
    rw [exec_cons, List.foldl_cons]
    rcases hs.step (hterminated event List.mem_cons_self) with
      ⟨t, hone, ht, hsame⟩ | ⟨hone, handle, buf, hkept⟩
    · rw [hone, ok_bind, ih ht hrest, hsame]
    · rw [hone, error_bind]
      refine iff_of_false (by simp) fun hall => ?_
      have hlength := ((r.step event).recorded_grows events handle).length_le
      rw [hall handle, hkept, List.length_append, List.length_singleton] at hlength
      omega

end NoPath

/-- A manager that was given no path, or `/`, comes through a run just if the recorder keeps nothing
in it: the first datagram to record makes it look at the last character of an empty path. -/
theorem debug_point_cloud_without_path (crc_16 : FastCRC) {events : List DebugPointCloudEvent}
    (hterminated : ∀ e ∈ events, e.Terminated) :
    DebugPointCloudManager.new.set_store_path [47] = .ok DebugPointCloudManager.new ∧
      ((∃ s, exec (DebugPointCloudManager.step crc_16) DebugPointCloudManager.new events = .ok s) ↔
        ∀ handle, (Recorder.after events).recorded handle = []) := by
  have hnew : DebugPointCloudManager.new.Pathless Recorder.new := by
    constructor <;> simp [DebugPointCloudManager.new, Recorder.new]
  exact ⟨rfl, hnew.completes_iff hterminated⟩

/-- The same datagrams stop a manager that stores under `/`. -/
theorem debug_point_cloud_without_path_sample :
    ¬ ∃ s, exec (DebugPointCloudManager.step fast_crc) DebugPointCloudManager.new recorded_events =
      .ok s := by
  rw [(debug_point_cloud_without_path fast_crc recorded_events_terminated).2]
  exact fun hall => absurd (hall 1) (by decide)

end livox_lidar
