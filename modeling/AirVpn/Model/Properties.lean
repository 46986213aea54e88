import AirVpn.Model.Glib

/-! # Connection settings and their validation

`nm-service-defines.h` and `nm-airvpn-properties.c`. The data items and the
secrets of a VPN setting are maps from names to strings; their iteration order
is the order of the list, and every order is a list.
-/

namespace AirVpn

/-! ## Names and defaults -/

def keyServer : String := "server"
def keyDevice : String := "device"
def keyProtocol : String := "protocol"
def keyPort : String := "port"
def keyCustomDirectives : String := "custom-directives"
def keyKeepalive : String := "keepalive"
def keyPingInterval : String := "ping-interval"
def keyPingRestart : String := "ping-restart"
def keyKillSwitch : String := "kill-switch"
def keyAllowLan : String := "allow-lan"
def keyApiKey : String := "api-key"

def protocolUdp : String := "udp"
def protocolTcp : String := "tcp"
def defaultPort : String := "443"
def defaultPingInterval : String := "10"
def defaultPingRestart : String := "60"

def apiSettingsUrl : String := "https://airvpn.org/apisettings/"

/-! ## Settings -/

/-- The data items and secrets of an `NMSettingVpn`. They are hash tables, so
no name occurs twice. -/
structure NMSettingVpn where
  data : List (String × String)
  secrets : List (String × String)
  data_nodup : (data.map Prod.fst).Nodup := by decide
  secrets_nodup : (secrets.map Prod.fst).Nodup := by decide
  deriving DecidableEq

theorem lookup_eq_some_iff_mem {items : List (String × String)} {key value : String}
    (h : (items.map Prod.fst).Nodup) : items.lookup key = some value ↔ (key, value) ∈ items := by
  induction items with
  | nil => simp
  | cons item items ih =>
      obtain ⟨name, v⟩ := item
      obtain ⟨hname, hrest⟩ := List.nodup_cons.mp h
      by_cases hkey : key = name
      · subst hkey
        have hnot : (key, value) ∉ items := fun hm => hname (List.mem_map.mpr ⟨_, hm, rfl⟩)
        simp [hnot, eq_comm]
      · have hbeq : (key == name) = false := beq_false_of_ne hkey
        simp [List.lookup_cons, hbeq, ih hrest, hkey]

namespace NMSettingVpn

def getDataItem (s : NMSettingVpn) (key : String) : Option String := s.data.lookup key

def getSecret (s : NMSettingVpn) (key : String) : Option String := s.secrets.lookup key

theorem getDataItem_eq_some {s : NMSettingVpn} {key value : String} :
    s.getDataItem key = some value ↔ (key, value) ∈ s.data :=
  lookup_eq_some_iff_mem s.data_nodup

end NMSettingVpn

/-! ## Validation against a table of names -/

structure ValidProperty where
  name : String
  required : Bool

def validProperties : List ValidProperty :=
  [⟨keyServer, true⟩, ⟨keyDevice, false⟩, ⟨keyProtocol, false⟩, ⟨keyPort, false⟩,
   ⟨keyCustomDirectives, false⟩, ⟨keyKeepalive, false⟩, ⟨keyPingInterval, false⟩,
   ⟨keyPingRestart, false⟩, ⟨keyKillSwitch, false⟩, ⟨keyAllowLan, false⟩]

def validSecrets : List ValidProperty := [⟨keyApiKey, true⟩]

def invalidConnection (message : String) : GError := ⟨.invalidConnection, message⟩

def validateOneProperty (table : List ValidProperty) (key : String) : Except GError Unit :=
  if table.any (·.name = key) then .ok ()
  else .error (invalidConnection ("invalid or unknown property “" ++ key ++ "”"))

/-- The error so far and the names of the table seen so far (`info.have`). -/
structure ValidateInfo where
  error : Option GError
  seen : List String

/-- The callback over the items. Secret flags are items named
`<secret>-flags`. -/
def validateHelper (table : List ValidProperty) (info : ValidateInfo) (item : String × String) :
    ValidateInfo :=
  if info.error.isSome then info
  else if gStrHasSuffix item.1.toList "-flags".toList then info
  else
    { seen := if table.any (·.name = item.1) then item.1 :: info.seen else info.seen
      error :=
        match validateOneProperty table item.1 with
        | .ok () => none
        | .error e => some e }

def validateProperties (table : List ValidProperty) (items : List (String × String)) :
    Except GError Unit :=
  let info := items.foldl (validateHelper table) ⟨none, []⟩
  match info.error with
  | some e => .error e
  | none =>
      match table.find? fun p => p.required && !info.seen.contains p.name with
      | some p => .error (invalidConnection ("missing required property “" ++ p.name ++ "”"))
      | none => .ok ()

/-! ## Validation of the values -/

def checkItem (s : NMSettingVpn) (key : String) (accepts : String → Bool) (message : String) :
    Except GError Unit :=
  match s.getDataItem key with
  | none => .ok ()
  | some value =>
      if accepts value then .ok ()
      else .error (invalidConnection ("property “" ++ key ++ "” " ++ message))

def isProtocol (value : String) : Bool := value = protocolUdp || value = protocolTcp

def isYesNo (value : String) : Bool := value = "yes" || value = "no"

/-- `0 < strtol (value) <= bound`. -/
def isBetween (bound : Int) (value : String) : Bool :=
  0 < strtol value.toList && strtol value.toList ≤ bound

def checkProtocol (s : NMSettingVpn) : Except GError Unit :=
  checkItem s keyProtocol isProtocol "must be “udp” or “tcp”"

def checkPort (s : NMSettingVpn) : Except GError Unit :=
  checkItem s keyPort (isBetween 65535) "is not a valid port"

def checkBool (s : NMSettingVpn) (key : String) : Except GError Unit :=
  checkItem s key isYesNo "must be “yes” or “no”"

def checkSeconds (s : NMSettingVpn) (key : String) : Except GError Unit :=
  checkItem s key (isBetween 3600) "must be between 1 and 3600 seconds"

def nmAirvpnPropertiesValidate (s : NMSettingVpn) : Except GError Unit := do
  validateProperties validProperties s.data
  checkProtocol s
  checkPort s
  checkBool s keyKeepalive
  checkBool s keyKillSwitch
  checkBool s keyAllowLan
  checkSeconds s keyPingInterval
  checkSeconds s keyPingRestart

def nmAirvpnPropertiesValidateSecrets (s : NMSettingVpn) : Except GError Unit :=
  validateProperties validSecrets s.secrets

/-! ## What passes -/

def isFlags (key : String) : Bool := gStrHasSuffix key.toList "-flags".toList

theorem validateHelper_error {table : List ValidProperty} {info : ValidateInfo}
    (h : info.error.isSome = true) (item : String × String) :
    validateHelper table info item = info := if_pos h

theorem validateHelper_cases (table : List ValidProperty) {info : ValidateInfo}
    (h : info.error = none) (item : String × String) :
    (isFlags item.1 = true ∧ validateHelper table info item = info) ∨
      (isFlags item.1 = false ∧ table.any (·.name = item.1) = true ∧
        validateHelper table info item = ⟨none, item.1 :: info.seen⟩) ∨
      (isFlags item.1 = false ∧ table.any (·.name = item.1) = false ∧
        (validateHelper table info item).error =
          some (invalidConnection ("invalid or unknown property “" ++ item.1 ++ "”"))) := by
  unfold validateHelper validateOneProperty isFlags
  cases hf : gStrHasSuffix item.1.toList "-flags".toList with
  | true => exact .inl ⟨rfl, by simp [h]⟩
  | false =>
      cases ht : table.any (·.name = item.1) with
      | true => exact .inr (.inl ⟨rfl, rfl, by simp [h]⟩)
      | false => exact .inr (.inr ⟨rfl, rfl, by simp [h]⟩)

theorem validateFold_ok (table : List ValidProperty) (items : List (String × String))
    (info : ValidateInfo) (h : info.error = none)
    (hitems : ∀ item ∈ items, isFlags item.1 = true ∨ table.any (·.name = item.1) = true) :
    (items.foldl (validateHelper table) info).error = none ∧
      ∀ name, name ∈ (items.foldl (validateHelper table) info).seen ↔
        name ∈ info.seen ∨ ∃ item ∈ items, item.1 = name ∧ isFlags name = false := by
  induction items generalizing info with
  | nil => simp [h]
  | cons item items ih =>
      have hrest := fun i hi => hitems i (List.mem_cons_of_mem item hi)
      rw [List.foldl_cons]
      rcases validateHelper_cases table h item with ⟨hf, heq⟩ | ⟨hf, _, heq⟩ | ⟨hf, ht, _⟩
      · obtain ⟨herror, hseen⟩ := ih info h hrest
        rw [heq]
        refine ⟨herror, fun name => ?_⟩
        rw [hseen]
        constructor
        · rintro (hs | ⟨i, hi, hn⟩)
          · exact .inl hs
          · exact .inr ⟨i, List.mem_cons_of_mem _ hi, hn⟩
        · rintro (hs | ⟨i, hi, rfl, hn⟩)
          · exact .inl hs
          · rcases List.mem_cons.mp hi with rfl | hi
            · exact absurd (hf.symm.trans hn) (by decide)
            · exact .inr ⟨i, hi, rfl, hn⟩
      · rw [heq]
        obtain ⟨herror, hseen⟩ := ih ⟨none, item.1 :: info.seen⟩ rfl hrest
        refine ⟨herror, fun name => ?_⟩
        rw [hseen]
        simp only [List.mem_cons]
        constructor
        · rintro ((rfl | hs) | ⟨i, hi, hn⟩)
          · exact .inr ⟨item, .inl rfl, rfl, hf⟩
          · exact .inl hs
          · exact .inr ⟨i, .inr hi, hn⟩
        · rintro (hs | ⟨i, rfl | hi, rfl, hn⟩)
          · exact .inl (.inr hs)
          · exact .inl (.inl rfl)
          · exact .inr ⟨i, hi, rfl, hn⟩
      · rcases hitems item List.mem_cons_self with h' | h'
        · exact absurd (hf.symm.trans h') (by decide)
        · exact absurd (ht.symm.trans h') (by decide)

theorem validateFold_error (table : List ValidProperty) (items : List (String × String))
    {info : ValidateInfo} (h : info.error.isSome = true) :
    items.foldl (validateHelper table) info = info := by
  induction items with
  | nil => rfl
  | cons item items ih => rw [List.foldl_cons, validateHelper_error h, ih]

/-- What is said of an item that is not listed, or of a required one that is not there. -/
inductive Complaint (table : List ValidProperty) : GError → Prop
  | unknown (name : String) :
      Complaint table (invalidConnection ("invalid or unknown property “" ++ name ++ "”"))
  | missing {p : ValidProperty} (hp : p ∈ table) (hrequired : p.required = true) :
      Complaint table (invalidConnection ("missing required property “" ++ p.name ++ "”"))

theorem validateFold_unknown (table : List ValidProperty) (items : List (String × String))
    (info : ValidateInfo) (h : info.error = none) {item : String × String} (hitem : item ∈ items)
    (hf : isFlags item.1 = false) (ht : table.any (·.name = item.1) = false) :
    ∃ e, (items.foldl (validateHelper table) info).error = some e ∧ Complaint table e := by
  induction items generalizing info with
  | nil => cases hitem
  | cons first items ih =>
      rw [List.foldl_cons]
      rcases validateHelper_cases table h first with ⟨hf', heq⟩ | ⟨_, ht', heq⟩ | ⟨_, _, herror⟩
      · rw [heq]
        rcases List.mem_cons.mp hitem with rfl | hitem
        · exact absurd (hf.symm.trans hf') (by decide)
        · exact ih info h hitem
      · rw [heq]
        rcases List.mem_cons.mp hitem with rfl | hitem
        · exact absurd (ht.symm.trans ht') (by decide)
        · exact ih _ rfl hitem
      · rw [validateFold_error table items (by simp [herror])]
        exact ⟨_, herror, .unknown first.1⟩

/-- The items are listed or passed over, and the required ones are there. -/
structure Listed (table : List ValidProperty) (items : List (String × String)) : Prop where
  known : ∀ item ∈ items, isFlags item.1 = true ∨ table.any (·.name = item.1) = true
  required : ∀ p ∈ table, p.required = true →
    ∃ item ∈ items, item.1 = p.name ∧ isFlags p.name = false

/-- The validation accepts exactly the listed items and refuses all others with an
error of its own. -/
theorem validateProperties_cases (table : List ValidProperty) (items : List (String × String)) :
    (Listed table items ∧ validateProperties table items = .ok ()) ∨
      (¬ Listed table items ∧
        ∃ e, validateProperties table items = .error e ∧ Complaint table e) := by
  unfold validateProperties
  by_cases hknown : ∀ item ∈ items, isFlags item.1 = true ∨ table.any (·.name = item.1) = true
  · obtain ⟨herror, hseen⟩ := validateFold_ok table items ⟨none, []⟩ rfl hknown
    simp only [herror]
    cases hfind : table.find? fun p => p.required &&
        !(items.foldl (validateHelper table) ⟨none, []⟩).seen.contains p.name with
    | none =>
        refine .inl ⟨⟨hknown, fun p hp hreq => ?_⟩, rfl⟩
        have hp' := List.find?_eq_none.mp hfind p hp
        have hmem : p.name ∈ (items.foldl (validateHelper table) ⟨none, []⟩).seen := by
          simpa [hreq] using hp'
        simpa using (hseen p.name).mp hmem
    | some p =>
        have hp' := List.find?_some hfind
        simp only [Bool.and_eq_true, Bool.not_eq_true', List.contains_eq_mem,
          decide_eq_false_iff_not] at hp'
        have hlisted := List.mem_of_find?_eq_some hfind
        refine .inr ⟨fun hl => ?_, _, rfl, .missing hlisted hp'.1⟩
        obtain ⟨item, hitem, hn⟩ := hl.required p hlisted hp'.1
        exact hp'.2 ((hseen p.name).mpr (.inr ⟨item, hitem, hn⟩))
  · have hnot : ¬ Listed table items := fun hl => hknown hl.known
    simp only [not_forall, not_or] at hknown
    obtain ⟨item, hitem, hf, ht⟩ := hknown
    obtain ⟨e, herror, he⟩ := validateFold_unknown table items ⟨none, []⟩ rfl hitem
      (by simpa using hf) (by simpa using ht)
    simp only [herror]
    exact .inr ⟨hnot, e, rfl, he⟩

theorem validateProperties_eq_ok {table : List ValidProperty} {items : List (String × String)} :
    validateProperties table items = .ok () ↔ Listed table items := by
  rcases validateProperties_cases table items with ⟨hl, h⟩ | ⟨hl, _, h, _⟩
  · simp [h, hl]
  · simp [h, hl]

def Passes (s : NMSettingVpn) (key : String) (accepts : String → Bool) : Prop :=
  ∀ value, s.getDataItem key = some value → accepts value = true

theorem checkItem_eq_ok {s : NMSettingVpn} {key : String} {accepts : String → Bool}
    {message : String} : checkItem s key accepts message = .ok () ↔ Passes s key accepts := by
  unfold checkItem Passes
  cases s.getDataItem key with
  | none => simp
  | some value => cases h : accepts value <;> simp [h]

theorem bind_eq_ok {x : Except GError Unit} {f : Unit → Except GError Unit} :
    x >>= f = .ok () ↔ x = .ok () ∧ f () = .ok () :=
  except_bind_eq_ok.trans ⟨fun ⟨_, h⟩ => h, fun h => ⟨(), h⟩⟩

def Settles (x : Except GError Unit) : Prop :=
  x = .ok () ∨ ∃ message, x = .error (invalidConnection message)

theorem settles_checkItem (s : NMSettingVpn) (key : String) (accepts : String → Bool)
    (message : String) : Settles (checkItem s key accepts message) := by
  unfold checkItem
  cases s.getDataItem key with
  | none => exact .inl rfl
  | some value => cases h : accepts value <;> simp [Settles, h]

theorem Settles.bind {x : Except GError Unit} {f : Unit → Except GError Unit} (hx : Settles x)
    (hf : Settles (f ())) : Settles (x >>= f) := by
  rcases hx with rfl | ⟨message, rfl⟩
  · exact hf
  · exact .inr ⟨message, rfl⟩

theorem settles_validateProperties (table : List ValidProperty)
    (items : List (String × String)) : Settles (validateProperties table items) := by
  rcases validateProperties_cases table items with ⟨_, h⟩ | ⟨_, e, h, he⟩
  · exact .inl h
  · cases he with
    | unknown name => exact .inr ⟨_, h⟩
    | missing _ _ => exact .inr ⟨_, h⟩

theorem settles_validate (s : NMSettingVpn) : Settles (nmAirvpnPropertiesValidate s) :=
  (settles_validateProperties _ _).bind <| (settles_checkItem _ _ _ _).bind <|
    (settles_checkItem _ _ _ _).bind <| (settles_checkItem _ _ _ _).bind <|
      (settles_checkItem _ _ _ _).bind <| (settles_checkItem _ _ _ _).bind <|
        (settles_checkItem _ _ _ _).bind (settles_checkItem _ _ _ _)

theorem nmAirvpnPropertiesValidate_eq_ok {s : NMSettingVpn} :
    nmAirvpnPropertiesValidate s = .ok () ↔
      validateProperties validProperties s.data = .ok () ∧ Passes s keyProtocol isProtocol ∧
        Passes s keyPort (isBetween 65535) ∧ Passes s keyKeepalive isYesNo ∧
        Passes s keyKillSwitch isYesNo ∧ Passes s keyAllowLan isYesNo ∧
        Passes s keyPingInterval (isBetween 3600) ∧ Passes s keyPingRestart (isBetween 3600) := by
  simp only [nmAirvpnPropertiesValidate, bind_eq_ok, checkProtocol, checkPort, checkBool,
    checkSeconds, checkItem_eq_ok]

end AirVpn
