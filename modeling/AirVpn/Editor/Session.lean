import AirVpn.Lib.Simulation
import AirVpn.Editor.ServerCombo
import AirVpn.Model.Session

/-! # The dialog over a whole session

The user enters and clicks, tasks end in whatever order and with whatever result, and the
editor may be disposed of before they do. A button is insensitive exactly as long as
its task runs, nothing is used after it is gone, what the user has entered is not changed
behind his back, and it can be saved at any time.
-/

namespace AirVpn.Editor.Session

open Machine Returned
open ServerList (GtkComboBoxText nmAirvpnServerListFetch nmAirvpnDeviceListFetch)

variable {load : List Char → Except GError (Option JsonNode)}
  {collate : List String → List String} {nftFound : Bool} {secretFlags : SecretFlags}
  {sVpn : Option NMSettingVpn} {s s' : Session}

/-! ## The threads -/

/-- No error of json-glib is the one of a cancelled operation. -/
def LoadErrors (load : List Char → Except GError (Option JsonNode)) : Prop :=
  ∀ text e, load text = .error e → e.code ≠ .ioCancelled

/-- A thread returns a value or an error, and the latter is not that of a cancelled
operation. -/
structure Reports {α : Type} (r : GReturned α) : Prop where
  clean : r.Clean
  notCancelled : ∀ e, r.error = some e → e.code ≠ .ioCancelled

theorem reports_ok {α : Type} (a : α) : Reports (ok a) := ⟨rfl, nofun⟩

theorem reports_fail {α : Type} {code : ErrorCode} {message : String} (h : code ≠ .ioCancelled) :
    Reports (fail ⟨code, message⟩ : GReturned α) := ⟨rfl, fun e he => by cases he; exact h⟩

theorem Reports.bind {α β : Type} {r : GReturned α} (hr : Reports r) {k : α → GReturned β}
    (hk : ∀ a, Reports (k a)) : Reports (r.bind k) :=
  ⟨hr.clean.bind fun a => (hk a).clean,
    forall_error_bind hr.notCancelled fun a => (hk a).notCancelled⟩

theorem Reports.returns {α : Type} {r : GReturned α} (h : Reports r) :
    ∃ result, taskReturn r = some result ∧ ∀ e, result = .error e → e.code ≠ .ioCancelled := by
  obtain ⟨x, rfl⟩ := clean_iff.mp h.clean
  cases x with
  | error e =>
      refine ⟨.error e, rfl, fun e' he => ?_⟩
      exact h.notCancelled e' (congrArg some (Except.error.inj he))
  | ok a => exact ⟨.ok a, rfl, nofun⟩

theorem reports_httpGet (curl : Curl) : Reports (ServerList.httpGet curl) := by
  unfold ServerList.httpGet
  split
  · exact reports_fail (by decide)
  · split
    · exact reports_fail (by decide)
    · split
      · exact reports_fail (by decide)
      · exact reports_ok _

theorem reports_deviceListFetch (hload : LoadErrors load) (network : Network) (apiKey : String) :
    Reports (nmAirvpnDeviceListFetch load network apiKey) := by
  refine (reports_httpGet _).bind fun json => Reports.bind ?_ fun _ => Reports.bind ?_ fun _ => ?_
  · unfold ServerList.checkAuthorized
    split
    · exact reports_fail (by decide)
    · exact reports_ok _
  · cases h : load (cString json) with
    | error e => exact ⟨rfl, fun e' he => Option.some.inj he ▸ hload _ _ h⟩
    | ok root => exact reports_ok root
  · split
    · exact reports_fail (by decide)
    · exact reports_ok _

/-! ## What each event does -/

theorem edit_eq (e : Edit) (s : Session) :
    s.edit e =
      { s with
        dialog := e.enter s.dialog
        spinsSensitive := (s.edit e).spinsSensitive
        allowLanSensitive := (s.edit e).allowLanSensitive } := by
  unfold edit
  split <;> rfl

@[simp] theorem setButton_self (which : Fetcher) (button : FetchButton) (s : Session) :
    (s.setButton which button).buttons which = button := Function.update_self ..

theorem setButton_other {which other : Fetcher} (h : other ≠ which) (button : FetchButton)
    (s : Session) : (s.setButton which button).buttons other = s.buttons other :=
  Function.update_of_ne h ..

inductive Clicked (s : Session) (which : Fetcher) : Session → Prop
  | ignored : Clicked s which s
  | refused (tooltip : String) :
      Clicked s which (s.setButton which { s.buttons which with tooltip := tooltip })
  | started (taskData : String) : (s.buttons which).cancellable = none →
      Clicked s which (startTask which taskData s)

theorem click_cases (s : Session) (which : Fetcher) : Clicked s which (s.click which) := by
  cases which with
  | refresh =>
      show Clicked s .refresh (refreshButtonClickedCb s)
      unfold refreshButtonClickedCb
      split
      · exact .ignored
      · next h => exact .started "" (by simpa using h)
  | devices =>
      show Clicked s .devices (devicesButtonClickedCb s)
      unfold devicesButtonClickedCb
      split
      · exact .ignored
      · next h =>
          split
          · exact .refused _
          · next apiKey _ => exact .started apiKey (by simpa using h)

structure Enabled (load : List Char → Except GError (Option JsonNode))
    (collate : List String → List String) (which : Fetcher) (s s' : Session) : Prop where
  tasks : s'.tasks = s.tasks
  nextTask : s'.nextTask = s.nextTask
  disposed : s'.disposed = s.disposed
  dangling : s'.dangling = (s.dangling || s.disposed)
  cancellable : (s'.buttons which).cancellable = none
  sensitive : (s'.buttons which).sensitive = true
  others : ∀ other, other ≠ which → s'.buttons other = s.buttons other
  dialog : s'.dialog = s.dialog ∨
    ∃ json, s'.dialog = Editor.refillServerCombo load collate (some json) s.dialog
  greyed : s'.spinsSensitive = s.spinsSensitive ∧ s'.killSwitchSensitive = s.killSwitchSensitive ∧
    s'.allowLanSensitive = s.allowLanSensitive

theorem enabled_enable (load : List Char → Except GError (Option JsonNode))
    (collate : List String → List String) (which : Fetcher) (s : Session) :
    Enabled load collate which s (enable which s) :=
  ⟨rfl, rfl, rfl, rfl, by simp [enable], by simp [enable], fun _ h => setButton_other h _ s,
    .inl rfl, rfl, rfl, rfl⟩

theorem refreshDoneCb_cases {task : GTask} {result : Except GError (List Char)}
    (hresult : ∀ e, result = .error e → e.code ≠ .ioCancelled) (s : Session) :
    (task.cancelled = true ∧
      refreshDoneCb load collate (gTaskPropagatePointer task result) s = s) ∨
    (task.cancelled = false ∧ Enabled load collate .refresh s
      (refreshDoneCb load collate (gTaskPropagatePointer task result) s)) := by
  unfold gTaskPropagatePointer
  cases task.cancelled with
  | true => exact .inl ⟨rfl, rfl⟩
  | false =>
      refine .inr ⟨rfl, ?_⟩
      have h := enabled_enable load collate .refresh s
      cases result with
      | error e =>
          have hcode := hresult e rfl
          simpa [refreshDoneCb, hcode] using h
      | ok json => exact { h with dialog := .inr ⟨json, rfl⟩ }

theorem devicesDoneCb_cases {task : GTask} {result : Except GError (List String)}
    (hresult : ∀ e, result = .error e → e.code ≠ .ioCancelled) (s : Session) :
    (task.cancelled = true ∧ devicesDoneCb (gTaskPropagatePointer task result) s = s) ∨
    (task.cancelled = false ∧ Enabled load collate .devices s
      (devicesDoneCb (gTaskPropagatePointer task result) s)) := by
  unfold gTaskPropagatePointer
  cases task.cancelled with
  | true => exact .inl ⟨rfl, rfl⟩
  | false =>
      refine .inr ⟨rfl, ?_⟩
      have h := enabled_enable load collate .devices s
      cases result with
      | error e =>
          have hcode := hresult e rfl
          simp only [devicesDoneCb, Bool.false_eq_true, hcode, ↓reduceIte]
          refine ⟨rfl, rfl, rfl, rfl, ?_, ?_, fun other hne => ?_, .inl rfl, rfl, rfl, rfl⟩
          · rw [setButton_self]
            exact h.cancellable
          · rw [setButton_self]
            exact h.sensitive
          · rw [setButton_other hne]
            exact h.others other hne
      | ok names => exact { h with }

theorem complete_cases (hload : LoadErrors load) (collate : List String → List String)
    (task : GTask) (network : Network) (s : Session) :
    ∃ s', complete load collate task network s = some s' ∧
      ((task.cancelled = true ∧ s' = s) ∨
        (task.cancelled = false ∧ Enabled load collate task.button s s')) := by
  unfold complete
  split
  · next hbutton =>
      obtain ⟨result, hreturn, hcode⟩ := (reports_httpGet _).returns
      rw [refreshThreadCb, nmAirvpnServerListFetch, hreturn, hbutton]
      exact ⟨_, rfl, refreshDoneCb_cases hcode s⟩
  · next hbutton =>
      obtain ⟨result, hreturn, hcode⟩ :=
        (reports_deviceListFetch hload network task.taskData).returns
      rw [devicesThreadCb, hreturn, hbutton]
      exact ⟨_, rfl, devicesDoneCb_cases hcode s⟩

inductive Stepped (load : List Char → Except GError (Option JsonNode))
    (collate : List String → List String) (s : Session) : Event → Session → Prop
  | edits {e : Edit} : s.disposed = false → e.possible s = true →
      Stepped load collate s (.edits e) (s.edit e)
  | clicks {which : Fetcher} {s' : Session} : s.disposed = false →
      (s.buttons which).sensitive = true → Clicked s which s' →
      Stepped load collate s (.clicks which) s'
  | cancelled {task : GTask} (network : Network) : task ∈ s.tasks → task.cancelled = true →
      Stepped load collate s (.completes task.id network)
        { s with tasks := s.tasks.filter (·.id ≠ task.id) }
  | enabled {task : GTask} (network : Network) {s' : Session} : task ∈ s.tasks →
      task.cancelled = false →
      Enabled load collate task.button { s with tasks := s.tasks.filter (·.id ≠ task.id) } s' →
      Stepped load collate s (.completes task.id network) s'
  | disposes : Stepped load collate s .disposes (dispose s)

theorem step_cases (hload : LoadErrors load) {e : Event} (h : step load collate s e = some s') :
    Stepped load collate s e s' := by
  cases e with
  | edits e =>
      simp only [step, Bool.and_eq_true, Bool.not_eq_true', Option.ite_none_right_eq_some,
        Option.some.injEq] at h
      exact h.2 ▸ .edits h.1.1 h.1.2
  | clicks which =>
      simp only [step, Bool.and_eq_true, Bool.not_eq_true', Option.ite_none_right_eq_some,
        Option.some.injEq] at h
      exact .clicks h.1.1 h.1.2 (h.2 ▸ click_cases s which)
  | completes id network =>
      obtain ⟨task, hfind, hcomplete⟩ := Option.bind_eq_some_iff.mp h
      have hid : task.id = id := by simpa using List.find?_some hfind
      subst hid
      have hmem := List.mem_of_find?_eq_some hfind
      obtain ⟨s'', heq, hcases⟩ := complete_cases hload collate task network
        { s with tasks := s.tasks.filter (·.id ≠ task.id) }
      cases heq.symm.trans hcomplete
      rcases hcases with ⟨hcancelled, rfl⟩ | ⟨hlive, henabled⟩
      · exact .cancelled network hmem hcancelled
      · exact .enabled network hmem hlive henabled
  | disposes => exact Option.some.inj h ▸ .disposes

/-! ## The tasks and their buttons -/

structure Tidy (s : Session) : Prop where
  fresh : ∀ t ∈ s.tasks, t.id < s.nextTask
  nodup : (s.tasks.map (·.id)).Nodup
  live : ∀ t ∈ s.tasks, t.cancelled = false → (s.buttons t.button).cancellable = some t.id
  waits : ∀ which id, (s.buttons which).cancellable = some id →
    ∃ t ∈ s.tasks, t.id = id ∧ t.button = which ∧ t.cancelled = false
  sensitive : s.disposed = false → ∀ which,
    (s.buttons which).sensitive = (s.buttons which).cancellable.isNone
  closed : s.disposed = true → ∀ which, (s.buttons which).cancellable = none
  safe : s.dangling = false

namespace Tidy

theorem task_unique (h : Tidy s) {t u : GTask} (ht : t ∈ s.tasks) (hu : u ∈ s.tasks)
    (hid : t.id = u.id) : t = u := List.inj_on_of_nodup_map h.nodup ht hu hid

theorem frame (h : Tidy s) (htasks : s'.tasks = s.tasks)
    (hcancellable : ∀ which, (s'.buttons which).cancellable = (s.buttons which).cancellable)
    (hsensitive : ∀ which, (s'.buttons which).sensitive = (s.buttons which).sensitive)
    (hnext : s'.nextTask = s.nextTask) (hdisposed : s'.disposed = s.disposed)
    (hdangling : s'.dangling = s.dangling) : Tidy s' := by
  obtain ⟨fresh, nodup, live, waits, sensitive, closed, safe⟩ := h
  constructor <;> simp only [htasks, hcancellable, hsensitive, hnext, hdisposed, hdangling] <;>
    assumption

theorem setTooltip (h : Tidy s) (which : Fetcher) (tooltip : String) :
    Tidy (s.setButton which { s.buttons which with tooltip := tooltip }) := by
  refine h.frame rfl (fun other => ?_) (fun other => ?_) rfl rfl rfl
  all_goals
    by_cases hother : other = which
    · rw [hother, setButton_self]
    · rw [setButton_other hother]

theorem startTask (h : Tidy s) {which : Fetcher} (hopen : s.disposed = false)
    (hnone : (s.buttons which).cancellable = none) (taskData : String) :
    Tidy (startTask which taskData s) := by
  have hself : (Session.startTask which taskData s).buttons which =
      { s.buttons which with cancellable := some s.nextTask, sensitive := false } :=
    Function.update_self ..
  have hother : ∀ other, other ≠ which →
      (Session.startTask which taskData s).buttons other = s.buttons other :=
    fun other hne => Function.update_of_ne hne ..
  have hmem : ∀ t, t ∈ (Session.startTask which taskData s).tasks ↔
      t ∈ s.tasks ∨ t = ⟨s.nextTask, which, taskData, false⟩ := by
    intro t
    simp [Session.startTask]
  refine ⟨fun t ht => ?fresh, ?nodup, fun t ht hlive => ?live, fun other id hid => ?waits,
    fun _ other => ?sensitive, fun hclosed => ?closed, h.safe⟩
  case fresh =>
    rcases (hmem t).mp ht with ht | rfl
    · exact Nat.lt_succ_of_lt (h.fresh t ht)
    · exact Nat.lt_succ_self _
  case nodup =>
    have htasks : (Session.startTask which taskData s).tasks =
        s.tasks ++ [⟨s.nextTask, which, taskData, false⟩] := rfl
    rw [htasks, List.map_append, List.nodup_append]
    refine ⟨h.nodup, List.nodup_singleton _, fun a ha b hb => ?_⟩
    obtain ⟨t, ht, rfl⟩ := List.mem_map.mp ha
    rw [List.mem_singleton.mp hb]
    exact Nat.ne_of_lt (h.fresh t ht)
  case live =>
    rcases (hmem t).mp ht with ht | rfl
    · have hbutton := h.live t ht hlive
      have hne : t.button ≠ which := by
        rintro rfl
        rw [hnone] at hbutton
        cases hbutton
      rw [hother _ hne]
      exact hbutton
    · rw [hself]
  case waits =>
    by_cases hwhich : other = which
    · subst hwhich
      rw [hself] at hid
      exact ⟨_, (hmem _).mpr (.inr rfl), Option.some.inj hid, rfl, rfl⟩
    · rw [hother other hwhich] at hid
      obtain ⟨t, ht, htid, hbutton, hlive⟩ := h.waits other id hid
      exact ⟨t, (hmem t).mpr (.inl ht), htid, hbutton, hlive⟩
  case sensitive =>
    by_cases hwhich : other = which
    · rw [hwhich, hself]
      rfl
    · rw [hother other hwhich]
      exact h.sensitive hopen other
  case closed => exact absurd (hopen.symm.trans hclosed) Bool.false_ne_true

theorem dropCancelled (h : Tidy s) {task : GTask} (ht : task ∈ s.tasks)
    (hcancelled : task.cancelled = true) :
    Tidy { s with tasks := s.tasks.filter (·.id ≠ task.id) } := by
  have hmem : ∀ t, t ∈ s.tasks.filter (·.id ≠ task.id) → t ∈ s.tasks := fun t htask =>
    List.mem_of_mem_filter htask
  refine ⟨fun t htask => h.fresh t (hmem t htask), h.nodup.sublist (List.filter_sublist.map _),
    fun t htask => h.live t (hmem t htask), fun which id hid => ?_, h.sensitive, h.closed, h.safe⟩
  obtain ⟨t, htask, htid, hbutton, hlive⟩ := h.waits which id hid
  refine ⟨t, List.mem_filter.mpr ⟨htask, ?_⟩, htid, hbutton, hlive⟩
  have hne : t.id ≠ task.id := fun heq => by
    rw [h.task_unique htask ht heq, hcancelled] at hlive
    cases hlive
  simpa using hne

theorem enable (h : Tidy s) {task : GTask} (ht : task ∈ s.tasks) (hlive : task.cancelled = false)
    (he : Enabled load collate task.button
      { s with tasks := s.tasks.filter (·.id ≠ task.id) } s') : Tidy s' := by
  have hown := h.live task ht hlive
  have hopen : s.disposed = false := by
    by_contra hclosed
    rw [h.closed (by simpa using hclosed)] at hown
    cases hown
  have hmem : ∀ t, t ∈ s'.tasks ↔ t ∈ s.tasks ∧ t.id ≠ task.id := by
    intro t
    rw [he.tasks]
    simp
  refine ⟨fun t htask => ?fresh, ?nodup, fun t htask hl => ?live, fun which id hid => ?waits,
    fun _ which => ?sensitive, fun hclosed => ?closed, ?safe⟩
  case fresh =>
    rw [he.nextTask]
    exact h.fresh t ((hmem t).mp htask).1
  case nodup =>
    rw [he.tasks]
    exact h.nodup.sublist (List.filter_sublist.map _)
  case live =>
    obtain ⟨htask, hne⟩ := (hmem t).mp htask
    have hbutton := h.live t htask hl
    have hother : t.button ≠ task.button := fun heq => by
      rw [heq, hown] at hbutton
      exact hne (Option.some.inj hbutton).symm
    rw [he.others _ hother]
    exact hbutton
  case waits =>
    have hother : which ≠ task.button := by
      rintro rfl
      rw [he.cancellable] at hid
      cases hid
    rw [he.others which hother] at hid
    obtain ⟨t, htask, htid, hbutton, hl⟩ := h.waits which id hid
    refine ⟨t, (hmem t).mpr ⟨htask, fun heq => hother ?_⟩, htid, hbutton, hl⟩
    rw [← hbutton, h.task_unique htask ht heq]
  case sensitive =>
    by_cases hwhich : which = task.button
    · rw [hwhich, he.sensitive, he.cancellable]
      rfl
    · rw [he.others which hwhich]
      exact h.sensitive hopen which
  case closed =>
    rw [he.disposed] at hclosed
    exact absurd (hopen.symm.trans hclosed) Bool.false_ne_true
  case safe => rw [he.dangling, h.safe, hopen]; rfl

/-! ### Disposal -/

theorem mem_cancelTask {cancellable : Option Nat} {tasks : List GTask} {t : GTask}
    (ht : t ∈ cancelTask cancellable tasks) :
    ∃ u ∈ tasks, t.id = u.id ∧ t.button = u.button ∧
      (t.cancelled = false → u.cancelled = false ∧ cancellable ≠ some u.id) := by
  obtain ⟨u, hu, rfl⟩ := List.mem_map.mp ht
  refine ⟨u, hu, ?_⟩
  split
  · exact ⟨rfl, rfl, fun h => by cases h⟩
  · next hne => exact ⟨rfl, rfl, fun h => ⟨h, hne⟩⟩

theorem map_id_cancelTask (cancellable : Option Nat) (tasks : List GTask) :
    (cancelTask cancellable tasks).map (·.id) = tasks.map (·.id) := by
  unfold cancelTask
  rw [List.map_map]
  refine List.map_congr_left fun t _ => ?_
  show (if _ then _ else t : GTask).id = t.id
  split <;> rfl

theorem dispose_cancelled (h : Tidy s) : ∀ t ∈ (dispose s).tasks, t.cancelled = true := by
  intro t ht
  by_contra hlive
  obtain ⟨u, hu, hid, hbutton, hkept⟩ := mem_cancelTask ht
  obtain ⟨hu', hdevices⟩ := hkept (by simpa using hlive)
  obtain ⟨v, hv, hid', hbutton', hkept'⟩ := mem_cancelTask hu
  obtain ⟨hv', hrefresh⟩ := hkept' hu'
  have hbutton := h.live v hv hv'
  cases hwhich : v.button with
  | refresh =>
      rw [hwhich] at hbutton
      exact hrefresh hbutton
  | devices =>
      rw [hwhich] at hbutton
      exact hdevices (hbutton.trans (congrArg some hid'.symm))

theorem dispose (h : Tidy s) : Tidy (dispose s) := by
  have hcancelled := h.dispose_cancelled
  refine ⟨fun t ht => ?_, ?_, fun t ht hlive => ?_, nofun, nofun, fun _ _ => rfl, h.safe⟩
  · obtain ⟨u, hu, hid, -⟩ := mem_cancelTask ht
    obtain ⟨v, hv, hid', -⟩ := mem_cancelTask hu
    rw [hid, hid']
    exact h.fresh v hv
  · show ((cancelTask _ (cancelTask _ s.tasks)).map (·.id)).Nodup
    rw [map_id_cancelTask, map_id_cancelTask]
    exact h.nodup
  · rw [hcancelled t ht] at hlive
    cases hlive

end Tidy

theorem tidy_step (hload : LoadErrors load) {e : Event} (h : Tidy s)
    (hs : step load collate s e = some s') : Tidy s' := by
  cases step_cases hload hs with
  | edits _ _ =>
      rw [edit_eq]
      exact h.frame rfl (fun _ => rfl) (fun _ => rfl) rfl rfl rfl
  | clicks hopen _ hclicked =>
      cases hclicked with
      | ignored => exact h
      | refused tooltip => exact h.setTooltip _ tooltip
      | started taskData hnone => exact h.startTask hopen hnone taskData
  | cancelled _ ht hcancelled => exact h.dropCancelled ht hcancelled
  | enabled _ ht hlive he => exact h.enable ht hlive he
  | disposes => exact h.dispose

theorem tidy_new (nftFound : Bool) (secretFlags : SecretFlags) (sVpn : Option NMSettingVpn) :
    Tidy (nmAirvpnEditorNew nftFound secretFlags sVpn) := by
  have hempty : ∀ dialog : Dialog, Tidy
      { dialog := dialog, deviceRows := [], buttons := initialButtons, spinsSensitive := true
        killSwitchSensitive := nftFound, allowLanSensitive := false, tasks := [], nextTask := 0
        disposed := false, dangling := false } := fun dialog =>
    { fresh := nofun
      nodup := List.nodup_nil
      live := nofun
      waits := fun which id hid => by cases which <;> cases hid
      sensitive := fun _ which => by cases which <;> rfl
      closed := nofun
      safe := rfl }
  have hstart := hempty (initEditorPlugin nftFound secretFlags sVpn)
  have hidle : (initialButtons Fetcher.refresh).cancellable = none := rfl
  exact (hstart.startTask rfl hidle "").frame rfl (fun _ => rfl) (fun _ => rfl) rfl rfl rfl

theorem tidy_inductive (hload : LoadErrors load) (collate : List String → List String)
    (nftFound : Bool) (secretFlags : SecretFlags) (sVpn : Option NMSettingVpn) :
    Inductive (step load collate) (nmAirvpnEditorNew nftFound secretFlags sVpn) Tidy :=
  ⟨tidy_new nftFound secretFlags sVpn, fun h hs => tidy_step hload h hs⟩

/-! ### Over whole sessions -/

def running (s : Session) (which : Fetcher) : List GTask :=
  s.tasks.filter fun t => t.button = which && !t.cancelled

theorem mem_running {which : Fetcher} {t : GTask} :
    t ∈ running s which ↔ t ∈ s.tasks ∧ t.button = which ∧ t.cancelled = false := by
  simp [running]

theorem Tidy.running_eq (h : Tidy s) (which : Fetcher) :
    (running s which).length = if (s.buttons which).cancellable.isSome then 1 else 0 := by
  cases hc : (s.buttons which).cancellable with
  | none =>
      have hnil : running s which = [] := List.eq_nil_iff_forall_not_mem.mpr fun t ht => by
        obtain ⟨htask, rfl, hlive⟩ := mem_running.mp ht
        cases hc.symm.trans (h.live t htask hlive)
      rw [hnil]
      rfl
  | some id =>
      obtain ⟨t, ht, rfl, rfl, hlive⟩ := h.waits which id hc
      have hall : ∀ u ∈ running s t.button, u = t := fun u hu => by
        obtain ⟨htask, hbutton, hlive'⟩ := mem_running.mp hu
        have hid := h.live u htask hlive'
        rw [hbutton, hc] at hid
        exact h.task_unique htask ht (Option.some.inj hid).symm
      have hnodup : (running s t.button).Nodup := h.nodup.of_map.filter _
      rw [List.eq_replicate_of_mem hall] at hnodup
      have hle := List.nodup_replicate.mp hnodup
      have hpos := List.length_pos_of_mem (mem_running.mpr ⟨ht, rfl, hlive⟩)
      exact Nat.le_antisymm hle hpos

/-- A button can be clicked exactly while none of its tasks runs, and every task
comes to its end, whatever the network answers. -/
structure Orderly (load : List Char → Except GError (Option JsonNode))
    (collate : List String → List String) (s : Session) : Prop where
  safe : s.dangling = false
  running : ∀ which,
    (running s which).length = if s.disposed || (s.buttons which).sensitive then 0 else 1
  ends : ∀ t ∈ s.tasks, ∀ network, (step load collate s (.completes t.id network)).isSome

/-- What is disposed of stays as it is, but for the tasks that end. -/
def Closed (t : Transition Session Event) : Prop :=
  t.before.disposed = true → t.after = { t.before with tasks := t.after.tasks }

theorem Tidy.orderly (hload : LoadErrors load) (collate : List String → List String)
    (h : Tidy s) : Orderly load collate s := by
  refine ⟨h.safe, fun which => ?_, fun t ht network => ?_⟩
  · rw [h.running_eq]
    cases hdisposed : s.disposed with
    | true => simp [h.closed hdisposed]
    | false =>
        rw [h.sensitive hdisposed]
        cases (s.buttons which).cancellable <;> rfl
  · have hfind : (s.tasks.find? (·.id = t.id)).isSome = true :=
      List.find?_isSome.mpr ⟨t, ht, by simp⟩
    obtain ⟨task, htask⟩ := Option.isSome_iff_exists.mp hfind
    obtain ⟨s', hs', -⟩ := complete_cases hload collate task network
      { s with tasks := s.tasks.filter (·.id ≠ t.id) }
    simp only [step, htask, Option.bind_some, hs']
    rfl

theorem closed_step (hload : LoadErrors load) {e : Event} (h : Tidy s)
    (hs : step load collate s e = some s') : Closed ⟨s, e, s'⟩ := by
  intro hdisposed
  have hnone := h.closed hdisposed
  cases step_cases hload hs with
  | edits hopen _ => exact absurd (hopen.symm.trans hdisposed) Bool.false_ne_true
  | clicks hopen _ _ => exact absurd (hopen.symm.trans hdisposed) Bool.false_ne_true
  | cancelled _ _ _ => rfl
  | enabled _ ht hlive _ => cases (hnone _).symm.trans (h.live _ ht hlive)
  | disposes =>
      have hbuttons : (dispose s).buttons = s.buttons := funext fun which => by
        show ({ s.buttons which with cancellable := none } : FetchButton) = s.buttons which
        rw [← hnone which]
      exact Session.ext rfl rfl hbuttons rfl rfl rfl rfl rfl hdisposed.symm rfl

/-- In every session the buttons follow their tasks, none of them uses the editor after it
is gone, and nothing else happens to it then. -/
theorem session_orderly (hload : LoadErrors load) (collate : List String → List String)
    (nftFound : Bool) (secretFlags : SecretFlags) (sVpn : Option NMSettingVpn)
    (events : List Event) :
    Orderly load collate
        (final (step load collate) (nmAirvpnEditorNew nftFound secretFlags sVpn) events) ∧
      Always Closed
        (run (step load collate) (nmAirvpnEditorNew nftFound secretFlags sVpn) events) := by
  have hinv := tidy_inductive hload collate nftFound secretFlags sVpn
  exact ⟨(hinv.final events).orderly hload collate,
    hinv.always (fun t h hs => closed_step hload h hs) events⟩

theorem loadErrors_sample : LoadErrors sampleStatusLoad := by
  intro text e h
  unfold sampleStatusLoad at h
  split at h
  · cases h
  · cases h
    decide

def sampleNetwork : Network := fun _ _ => ⟨true, true, [sampleStatus.toList], "", 200⟩

/-- The devices are fetched and a server is picked from what the first refresh has
brought; the editor is disposed of while the second one runs. -/
def sampleSession : List Event :=
  [.edits (.apiKeyEntry "key"), .clicks .devices, .completes 0 sampleNetwork,
    .edits (.serverCombo "Achernar"), .completes 1 sampleNetwork, .clicks .refresh, .disposes,
    .completes 2 sampleNetwork]

theorem session_orderly_sample :
    let s₀ := nmAirvpnEditorNew true .none none
    (run (step sampleStatusLoad id) s₀ sampleSession).length = 8 ∧
      Orderly sampleStatusLoad id (final (step sampleStatusLoad id) s₀ sampleSession) ∧
      Always Closed (run (step sampleStatusLoad id) s₀ sampleSession) :=
  ⟨by decide +kernel, session_orderly loadErrors_sample id true .none none sampleSession⟩

end AirVpn.Editor.Session
