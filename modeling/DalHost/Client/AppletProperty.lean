import DalHost.Client.Exchange
import DalHost.Plugin.AppletProperty

/-!
# Property queries from end to end

`JHI_GetAppletProperty` with everything behind it: the request, the dispatcher, the service, the
plugin and the way back. Two things of the plugin and of the library show through: the version of an
applet arrives as one number, and a caller without room for a character has no buffer, so nothing is
written for it, not even the terminator of an empty value.
-/

namespace DalHost

variable {φ : Type}

/-! ### The service -/

/-- The state in which the firmware is asked, if it comes to that. -/
def askState (W : World φ) (appId : Bytes) (s : Service φ) : Option (Service φ) :=
  let r := (ensureInstalled W appId).exe s
  if r.1 then
    let r' := (propertySession W appId).exe r.2
    if r'.1.isOk then some r'.2 else none
  else none

/-- The writes of `jhis_get_applet_property` into its receive buffers, from state `s` on. -/
def jhisGetAppletPropertyWrites (W : World φ) (plugin : PluginVersion) (stack : VersionStack) (F : PropertyFirmware φ)
    (appId tx : Bytes) (rxLen : UInt32) (s : Service φ) : PropertyWrites :=
  match if isSupportedProperty tx then askState W appId s else none with
  | none => ⟨[], []⟩
  | some t =>
    if t.pluginRegistered then
      propertyWrites rxLen ((plugin.queryProperty stack F appId (cString tx ++ [0]) (rxLen - 1)).exe t.env).1
    else ⟨[List.replicate rxLen.toNat 0], []⟩

/-! ### The client -/

/-- A caller of `JHI_GetAppletProperty`, with room for `capacity` characters and a terminator. -/
structure PropertyCaller where
  appId : AppId
  property : Bytes
  capacity : UInt32
  buffer : Bytes
  sized : buffer.length = capacity.toNat + 1

/-- What the caller is left with: the code, `RxBuf->length` and its buffer. -/
structure PropertyOutcome where
  retCode : JhiRet
  length : UInt32
  buffer : Bytes

/-- What happens to stand in memory that nobody has written. -/
structure Noise where
  request : Junk → UInt8
  afterRequest : Nat → UInt8
  response : Junk → UInt8
  afterResponse : Nat → UInt8
  fresh : Nat → UInt8

def PropertyCaller.call (q : PropertyCaller) : ClientCall := .getAppletProperty q.appId q.property q.capacity

/-- The length and the bytes that came with a response. -/
def ClientOut.property? : ClientOut → Option UInt32 × Option Bytes
  | .property length data => (length, data)
  | _ => (Option.none, Option.none)

/-- The end of `JHI_GetAppletProperty`: on success a terminator is set in the library's buffer, and its string
is copied to the caller's. -/
def PropertyCaller.finish (q : PropertyCaller) (fresh : Nat → UInt8) (r : ClientResult) : PropertyOutcome :=
  let length := r.out.property?.1.getD q.capacity
  let rxBuf := store (store fresh 0 (r.out.property?.2.getD [])) length.toNat [0]
  if r.retCode = jhiSuccess ∧ q.capacity ≠ 0 then
    ⟨r.retCode, length, strncpy (length.toNat + 1) (slice rxBuf 0 (length.toNat + 1)) ++ q.buffer.drop (length.toNat + 1)⟩
  else ⟨r.retCode, length, q.buffer⟩

/-- `JHI_GetAppletProperty`; without a response the service is unavailable. -/
def jhiGetAppletProperty {σ : Type} (B : Backend σ) (emulation : Bool) (noise : Noise) (q : PropertyCaller) :
    StateM σ PropertyOutcome := do
  if q.property.length = 0 then return ⟨jhiAppletPropertyNotSupported, q.capacity, q.buffer⟩
  else if q.property.length > jhiBufferMax ∨ q.capacity.toNat > jhiBufferMax then
    return ⟨jhiInvalidBufferSize, q.capacity, q.buffer⟩
  else
    let processed ← processCommand B emulation (q.call.request noise.request noise.afterRequest)
    match processed.verdict.output with
    | none => return ⟨jhiServiceUnavailable, q.capacity, q.buffer⟩
    | some o =>
      return q.finish noise.fresh (received (receive o.size q.call) (o.received noise.response noise.afterResponse))

/-! ### What the caller is to get -/

/-- The caller gets the value, or its length if there is no room for it. -/
structure PropertyDelivered (q : PropertyCaller) (value : Bytes) (o : PropertyOutcome) : Prop where
  fits : value.length ≤ q.capacity.toNat → o.retCode = jhiSuccess ∧ o.length.toNat = value.length ∧
    o.buffer.take (value.length + 1) = value ++ [0]
  short : q.capacity.toNat < value.length → o.retCode = jhiInsufficientBuffer ∧ o.length.toNat = value.length ∧
    o.buffer = q.buffer

/-- The caller gets what the plugin shows, and nothing is written without a buffer. -/
structure ShownDelivered (q : PropertyCaller) (shown : Bytes) (o : PropertyOutcome) : Prop where
  fits : shown.length ≤ q.capacity.toNat → o.retCode = jhiSuccess ∧ o.length.toNat = shown.length ∧
    o.buffer = if q.capacity = 0 then q.buffer else shown ++ [0] ++ q.buffer.drop (shown.length + 1)
  short : q.capacity.toNat < shown.length → o.retCode = jhiInsufficientBuffer ∧ o.length.toNat = shown.length ∧
    o.buffer = q.buffer

/-- The query of `q` in state `s` gets to the firmware, which returns the value `v`. -/
structure FirmwareReturns (W : World φ) (jhisInit : StateM (JhiState × Service φ) JhiRet) (plugin : PluginVersion)
    (F : PropertyFirmware φ) (q : PropertyCaller) (s : JhiState × Service φ) (v : Bytes) : Prop where
  client : q.appId ≠ spoolerAppletUuid
  started : ((ensureInit (serviceBackend W jhisInit)).exe s).1 = jhiSuccess
  asked : ∃ t, askState W q.appId.text ((ensureInit (serviceBackend W jhisInit)).exe s).2.2 = some t ∧
    t.pluginRegistered = true ∧
    ((F q.appId.text (plugin.sentProperty (q.property ++ [0]))).exe t.env).1 = (bhSuccess, v)

/-! ### The answer of the service -/

theorem isSupportedProperty_terminated {property : Bytes} (h : property ∈ supportedProperties) :
    isSupportedProperty (property ++ [0]) = true ∧ (0 : UInt8) ∉ property ∧ 0 < property.length ∧ property.length < 64 := by
  revert property
  decide

theorem strncpy_eq_append {w : Bytes} {n : Nat} (h0 : (0 : UInt8) ∉ w) (hlen : w.length < n) :
    strncpy n w = w ++ List.replicate (n - w.length) 0 := by
  have hself : cString w = w := by
    rw [cString, List.takeWhile_eq_self_iff]
    intro c hc
    simpa using fun hzero : c = 0 => h0 (hzero ▸ hc)
  rw [strncpy, hself, List.take_append, List.take_of_length_le (by omega), List.take_replicate,
    Nat.min_eq_left (Nat.sub_le n w.length)]

theorem cString_append_zeros {w : Bytes} {n : Nat} (h0 : (0 : UInt8) ∉ w) : cString (w ++ List.replicate n 0) = w := by
  have hne : ∀ c ∈ w, decide (c ≠ 0) = true := by
    intro c hc
    simpa using fun hzero : c = 0 => h0 (hzero ▸ hc)
  rw [cString, List.takeWhile_append_of_pos hne]
  cases n with
  | zero => simp
  | succ n => simp [List.replicate_succ]

section Service

variable {W : World φ} {plugin : PluginVersion} {stack : VersionStack} {F : PropertyFirmware φ}

theorem jhisGetAppletProperty_of_askState {appId tx : Bytes} {rxLen : UInt32} {s t : Service φ}
    (hsupp : isSupportedProperty tx = true) (hask : askState W appId s = some t) :
    ((jhisGetAppletProperty W appId tx rxLen).exe s).1 = ((queryProperty W appId tx rxLen).exe t).1 := by
  simp only [askState] at hask
  split_ifs at hask with hinst hok
  rw [Option.some.injEq] at hask
  subst hask
  simp only [jhisGetAppletProperty, hsupp, Bool.not_true, Bool.false_eq_true, if_false, exe_bind, hinst]
  cases hses : ((propertySession W appId).exe ((ensureInstalled W appId).exe s).2).1 with
  | error ret =>
    rw [hses] at hok
    cases hok
  | ok ses =>
    cases ses with
    | none => rfl
    | some ses => rfl

/-- What the service answers, by what the plugin did. -/
def propertyResult (rxLen : UInt32) (p : PluginProperty) : PropertyResult :=
  if p.retCode = jhiSuccess then ⟨p.retCode, p.length + 1, some (cString (requestBuffer rxLen p))⟩
  else if p.retCode = jhiInsufficientBuffer then ⟨p.retCode, p.length + 1, none⟩
  else ⟨p.retCode, rxLen, none⟩

theorem queryProperty_eq (hW : HasPropertyPlugin W plugin stack F) (appId tx : Bytes) (rxLen : UInt32) {t : Service φ}
    (hreg : t.pluginRegistered = true) : ((queryProperty W appId tx rxLen).exe t).1 =
      propertyResult rxLen ((plugin.queryProperty stack F appId (cString tx ++ [0]) (rxLen - 1)).exe t.env).1 := by
  have hpred : rxLen - 1 + 1 = rxLen := UInt32.sub_add_cancel rxLen 1
  simp only [queryProperty, exe_bind, exe_get, hreg, Bool.not_true, Bool.false_eq_true, if_false, exe_onEnv,
    hW appId (cString tx ++ [0]) (rxLen - 1) t.env, hpred, exe_ite, exe_pure, propertyResult, propertyAnswer]
  split_ifs <;> rfl

theorem propertyResult_empty {inputBuffer : Bytes} {rxLen : UInt32} :
    propertyResult rxLen (plugin.getAppletProperty stack inputBuffer (rxLen - 1) bhSuccess none) =
      ⟨jhiSuccess, 1, some []⟩ := by
  have hok : plugin.toJhiError bhSuccess = jhiSuccess := PluginVersion.toJhiError_eq_success.2 rfl
  have hzeros : cString (List.replicate rxLen.toNat 0) = [] :=
    @cString_append_zeros [] rxLen.toNat (by simp)
  simp only [propertyResult, PluginVersion.getAppletProperty, requestBuffer, hok, if_true, Option.getD_none,
    List.nil_append, List.length_nil, List.drop_zero, hzeros]
  rfl

theorem propertyResult_value {inputBuffer v w : Bytes} {rxLen : UInt32} (hrx : rxLen.toNat ≤ jhiBufferMax)
    (hw : shownValue stack (cString inputBuffer) v = w) (h0 : (0 : UInt8) ∉ w) (hlen : w.length + 1 < 2 ^ 31) :
    propertyResult rxLen (plugin.getAppletProperty stack inputBuffer (rxLen - 1) bhSuccess (some v)) =
      if w.length < rxLen.toNat then ⟨jhiSuccess, UInt32.ofNat w.length + 1, some w⟩
      else ⟨jhiInsufficientBuffer, UInt32.ofNat w.length + 1, none⟩ := by
  subst hw
  rw [getAppletProperty_value hrx hlen]
  split_ifs with hfits
  · have hbuf := strncpy_eq_append h0 hfits
    have hdrop : (List.replicate rxLen.toNat (0 : UInt8)).drop rxLen.toNat = [] := by simp
    simp only [propertyResult, requestBuffer, Option.getD_some, length_strncpy, hdrop, List.append_nil, if_true]
    rw [hbuf, cString_append_zeros h0]
  · have hne : jhiInsufficientBuffer ≠ jhiSuccess := by decide
    simp only [propertyResult, if_neg hne, if_true]

theorem queryProperty_value (hW : HasPropertyPlugin W plugin stack F) {appId tx v : Bytes} {rxLen : UInt32} {t : Service φ}
    (hreg : t.pluginRegistered = true) (hpos : 0 < rxLen.toNat) (hrx : rxLen.toNat ≤ jhiBufferMax)
    (htx : (0 : UInt8) ∉ tx) (hfw : ((F appId (plugin.sentProperty (tx ++ [0]))).exe t.env).1 = (bhSuccess, v))
    (h0 : (0 : UInt8) ∉ v) (hlen : v.length + 1 < 2 ^ 31) :
    ((queryProperty W appId (tx ++ [0]) rxLen).exe t).1 =
      if (shownValue stack tx v).length < rxLen.toNat then
        ⟨jhiSuccess, UInt32.ofNat (shownValue stack tx v).length + 1, some (shownValue stack tx v)⟩
      else ⟨jhiInsufficientBuffer, UInt32.ofNat (shownValue stack tx v).length + 1, none⟩ := by
  have hname : cString (tx ++ [0]) = tx := @cString_append_zeros tx 1 htx
  rw [queryProperty_eq hW appId (tx ++ [0]) rxLen hreg, hname]
  simp only [PluginVersion.queryProperty, exe_bind, exe_pure, hfw]
  by_cases hempty : v.length = 0
  · obtain rfl : v = [] := List.length_eq_zero_iff.1 hempty
    have hshown : shownValue stack tx [] = [] := by
      unfold shownValue
      split_ifs <;> rfl
    have hout : plugin.queryOutput bhSuccess [] = (bhSuccess, none) := by simp [PluginVersion.queryOutput]
    rw [hout, propertyResult_empty, hshown, if_pos (by simpa using hpos)]
    rfl
  · have hself : cString v = v := by simpa using @cString_append_zeros v 0 h0
    have hout : plugin.queryOutput bhSuccess v = (bhSuccess, some v) := by
      simp only [PluginVersion.queryOutput, ne_eq, not_true_eq_false, if_false, if_neg hempty, if_pos hlen, hself]
    obtain ⟨hw0, hwlen⟩ := @shownValue_fits stack tx v h0 hlen
    rw [hout, propertyResult_value hrx (by rw [hname]) hw0 hwlen]

end Service

/-! ### The way back -/

theorem toNat_add_one {n : UInt32} (h : n.toNat < jhiBufferMax) : (n + 1).toNat = n.toNat + 1 := by
  have hmax : jhiBufferMax = 2097152 := rfl
  rw [UInt32.toNat_add, UInt32.toNat_one]
  omega

theorem toNat_valueLength {w : Bytes} (h : w.length + 1 < 2 ^ 31) : (UInt32.ofNat w.length).toNat = w.length := by
  rw [UInt32.toNat_ofNat']
  omega

theorem toNat_valueLength_add_one {w : Bytes} (h : w.length + 1 < 2 ^ 31) :
    (UInt32.ofNat w.length + 1).toNat = w.length + 1 := by
  rw [UInt32.toNat_add, toNat_valueLength h, UInt32.toNat_one]
  omega

theorem propertyOut_fits {w : Bytes} {capacity : UInt32} (h0 : (0 : UInt8) ∉ w) (hcap : capacity.toNat < jhiBufferMax)
    (hfits : w.length ≤ capacity.toNat) :
    propertyOut (capacity + 1) jhiSuccess (UInt32.ofNat w.length + 1) w =
      .property (some (UInt32.ofNat w.length)) (if capacity = 0 then none else some (w ++ [0])) := by
  have hmax : jhiBufferMax = 2097152 := rfl
  have hlen1 := @toNat_valueLength_add_one w (by omega)
  have hcap1 := toNat_add_one hcap
  have hnone : ¬(jhiSuccess = jhiInternalError ∨ jhiSuccess = jhiInvalidBufferSize) := by decide
  have hsub : UInt32.ofNat w.length + 1 - 1 = UInt32.ofNat w.length := UInt32.add_sub_cancel _ _
  rw [propertyOut, if_neg hnone, if_pos (.inl rfl), hsub]
  by_cases hzero : capacity = 0
  · subst hzero
    rw [if_pos rfl, if_neg (by simp)]
  · have hroom : jhiSuccess = jhiSuccess ∧ 0 < UInt32.ofNat w.length + 1 ∧ UInt32.ofNat w.length + 1 ≤ capacity + 1 ∧
        capacity + 1 ≠ 1 := by
      refine ⟨rfl, ?_, ?_, fun h => hzero ?_⟩
      · rw [UInt32.lt_iff_toNat_lt, hlen1]
        exact Nat.succ_pos _
      · rw [UInt32.le_iff_toNat_le, hlen1, hcap1]
        omega
      · rw [← UInt32.add_left_inj (a := capacity) (b := 0) 1, UInt32.zero_add]
        exact h
    rw [if_neg hzero, if_pos hroom, hlen1, hcap1, strncpy_eq_append h0 (by omega), List.take_append,
      List.take_of_length_le (by omega), List.take_replicate, Nat.add_sub_cancel_left, Nat.min_eq_left (by omega)]
    rfl

theorem strncpy_rxBuf {w : Bytes} (h0 : (0 : UInt8) ∉ w) (fresh : Nat → UInt8) :
    strncpy (w.length + 1) (slice (store (store fresh 0 (w ++ [0])) w.length [0]) 0 (w.length + 1)) = w ++ [0] := by
  have hslice : slice (store (store fresh 0 (w ++ [0])) w.length [0]) 0 (w.length + 1) = w ++ [0] := by
    rw [slice_add]
    congr 1
    · rw [slice_store_of_disjoint _ _ _ (.inl (by omega)), store_append, slice_store_of_disjoint _ _ _ (.inl (by omega))]
      exact slice_store_self _ _ _ rfl
    · rw [Nat.zero_add]
      exact slice_store_self _ _ _ rfl
  have hcstr : cString (w ++ [0]) = w := @cString_append_zeros w 1 h0
  rw [hslice, strncpy, hcstr, List.take_append, List.take_of_length_le (by omega), List.take_replicate]
  simp

theorem regularAnswer_value {w : Bytes} {room : Prop} [Decidable room] (hlen : w.length + 1 < 2 ^ 31) {a : PropertyResult}
    (ha : a = if room then ⟨jhiSuccess, UInt32.ofNat w.length + 1, some w⟩
      else ⟨jhiInsufficientBuffer, UInt32.ofNat w.length + 1, none⟩) (appId : AppId) (tx : Bytes) (rxLen : UInt32) :
    RegularAnswer (.getAppletProperty appId tx rxLen) a := by
  have hlength : a.length = UInt32.ofNat w.length + 1 := by
    rw [ha]
    split_ifs <;> rfl
  have htext : a.retCode = jhiSuccess → a.text ≠ none := by
    rw [ha]
    split_ifs with hroom
    · exact fun _ h => nomatch h
    · exact fun h => absurd h (by decide : jhiInsufficientBuffer ≠ jhiSuccess)
  have hnat : a.length.toNat = w.length + 1 := hlength ▸ toNat_valueLength_add_one hlen
  refine ⟨fun _ => ?_, htext, fun _ hzero => ?_⟩
  · omega
  · rw [hzero] at hnat
    simp at hnat

theorem finish_shown {q : PropertyCaller} {w : Bytes} (h0 : (0 : UInt8) ∉ w) (hlen : w.length + 1 < 2 ^ 31)
    (hcap : q.capacity.toNat < jhiBufferMax) (fresh : Nat → UInt8) {a : PropertyResult}
    (ha : a = if w.length < (q.capacity + 1).toNat then ⟨jhiSuccess, UInt32.ofNat w.length + 1, some w⟩
      else ⟨jhiInsufficientBuffer, UInt32.ofNat w.length + 1, none⟩) :
    ShownDelivered q w (q.finish fresh ⟨a.retCode, propertyOut (q.capacity + 1) a.retCode a.length (a.text.getD [])⟩) := by
  have hcap1 := toNat_add_one hcap
  have hlength := toNat_valueLength hlen
  by_cases hfits : w.length ≤ q.capacity.toNat
  · rw [if_pos (by omega)] at ha
    subst ha
    refine ⟨fun _ => ?_, fun h => absurd hfits (by omega)⟩
    simp only [PropertyCaller.finish, Option.getD_some, propertyOut_fits h0 hcap hfits, ClientOut.property?, hlength,
      true_and]
    by_cases hzero : q.capacity = 0
    · rw [if_neg (not_not.2 hzero), if_pos hzero]
      exact ⟨rfl, hlength, rfl⟩
    · rw [if_pos hzero, if_neg hzero]
      simp only [if_neg hzero, Option.getD_some, strncpy_rxBuf h0 fresh]
      exact ⟨trivial, hlength, trivial⟩
  · rw [if_neg (by omega)] at ha
    subst ha
    refine ⟨fun h => absurd h hfits, fun _ => ?_⟩
    have hcode : ¬(jhiInsufficientBuffer = jhiSuccess ∧ q.capacity ≠ 0) := by
      rintro ⟨h, -⟩
      exact absurd h (by decide)
    have hnone : ¬(jhiInsufficientBuffer = jhiInternalError ∨ jhiInsufficientBuffer = jhiInvalidBufferSize) := by decide
    have hsub : UInt32.ofNat w.length + 1 - 1 = UInt32.ofNat w.length := UInt32.add_sub_cancel _ _
    simp only [PropertyCaller.finish, if_neg hcode, propertyOut, if_neg hnone, ClientOut.property?, hsub]
    exact ⟨trivial, hlength, trivial⟩

/-! ### From end to end -/

section EndToEnd

variable {W : World φ} {plugin : PluginVersion} {stack : VersionStack} {F : PropertyFirmware φ}
  {jhisInit : StateM (JhiState × Service φ) JhiRet}

/-- A query that gets to the firmware brings back what the plugin shows of the value. -/
theorem jhiGetAppletProperty_shown (hW : HasPropertyPlugin W plugin stack F) {q : PropertyCaller}
    {s : JhiState × Service φ} {v : Bytes} (hprop : q.property ∈ supportedProperties)
    (hcap : q.capacity.toNat < jhiBufferMax) (hfw : FirmwareReturns W jhisInit plugin F q s v) (h0 : (0 : UInt8) ∉ v)
    (hlen : v.length + 1 < 2 ^ 31) (emulation : Bool) (noise : Noise) :
    ShownDelivered q (shownValue stack q.property v)
      ((jhiGetAppletProperty (serviceBackend W jhisInit) emulation noise q).exe s).1 := by
  have hmax : jhiBufferMax = 2097152 := rfl
  obtain ⟨hsupp, hname, hpos, hshort⟩ := isSupportedProperty_terminated hprop
  obtain ⟨hclient, hstart, t, hask, hreg, hvalue⟩ := hfw
  obtain ⟨hw0, hwlen⟩ := @shownValue_fits stack q.property v h0 hlen
  have hcap1 := toNat_add_one hcap
  -- the request reaches its handler, which asks the service
  have hof : CommandId.ofByte emulation CommandId.getAppletProperty.toByte = some .getAppletProperty := by
    cases emulation <;> rfl
  have hacc := @accepted_getAppletProperty q.appId hclient q.property q.capacity hpos (by omega) hcap
  generalize hs' : ((ensureInit (serviceBackend W jhisInit)).exe s).2 = s' at hask
  obtain ⟨hheader, hdec⟩ := hacc noise.request noise.afterRequest emulation s'.2.vmType s'.2.pluginRegistered hof
  have hreach : Reaches (serviceBackend W jhisInit) emulation (q.call.request noise.request noise.afterRequest) s
      .getAppletProperty s' := ⟨hheader, Prod.ext hstart hs'⟩
  have hverdict := (@handle_of_call _ (serviceBackend W jhisInit) (q.call.request noise.request noise.afterRequest) s' _ _
    hdec).1
  have hresult : (((serviceBackend W jhisInit).exec
      (.getAppletProperty q.appId (terminated q.property) (q.capacity + 1))).exe s').1 =
      if (shownValue stack q.property v).length < (q.capacity + 1).toNat then
        ⟨jhiSuccess, UInt32.ofNat (shownValue stack q.property v).length + 1, some (shownValue stack q.property v)⟩
      else ⟨jhiInsufficientBuffer, UInt32.ofNat (shownValue stack q.property v).length + 1, none⟩ :=
    (jhisGetAppletProperty_of_askState hsupp hask).trans
      (queryProperty_value hW hreg (by omega) (by omega) hname hvalue h0 hlen)
  generalize (((serviceBackend W jhisInit).exec
      (.getAppletProperty q.appId (terminated q.property) (q.capacity + 1))).exe s').1 = a at hverdict hresult
  have hregular := regularAnswer_value hwlen hresult q.appId (terminated q.property) (q.capacity + 1)
  have hheard := @heard_of_reaches _ _ _ _ _ q.call noise.request noise.response noise.afterRequest noise.afterResponse _
    hreach (by rw [hverdict]; exact hregular)
  rw [hverdict] at hheard
  obtain ⟨o, ho, hheard⟩ := hheard
  have hr : received (receive o.size q.call) (o.received noise.response noise.afterResponse) =
      ⟨a.retCode, propertyOut (q.capacity + 1) a.retCode a.length (a.text.getD [])⟩ := hheard
  -- and the client makes of the response what the service has answered
  have hrun : ((jhiGetAppletProperty (serviceBackend W jhisInit) emulation noise q).exe s).1 =
      q.finish noise.fresh ⟨a.retCode, propertyOut (q.capacity + 1) a.retCode a.length (a.text.getD [])⟩ := by
    rw [← hr]
    simp only [jhiGetAppletProperty, if_neg (show ¬q.property.length = 0 by omega),
      if_neg (show ¬(q.property.length > jhiBufferMax ∨ q.capacity.toNat > jhiBufferMax) by omega), exe_bind,
      processCommand_of_reaches hreach, hverdict, ho, exe_pure]
  rw [hrun]
  exact finish_shown hw0 hwlen hcap noise.fresh hresult

theorem rxLen_le_of_decode {inputSize : UInt32} {m : Nat → UInt8} {vmType : VmType} {registered : Bool} {appId : AppId}
    {tx : Bytes} {rxLen : UInt32} (h : (decode inputSize vmType registered .getAppletProperty).answer m =
      .ok (some (.getAppletProperty appId tx rxLen))) : rxLen.toNat ≤ jhiBufferMax := by
  change (invokeGetAppletProperty inputSize).answer m = _ at h
  unfold invokeGetAppletProperty at h
  obtain ⟨-, -, h⟩ := (Scan.answer_bind_eq_ok _).1 h
  obtain ⟨-, h⟩ := (Scan.answer_check_bind_eq_ok _).1 h
  rw [Scan.answer_u32_bind, Scan.answer_u32_bind, Scan.answer_check_bind_eq_ok, Scan.answer_check_bind_eq_ok,
    Scan.answer_check_bind_eq_ok, Scan.answer_check_bind_eq_ok] at h
  obtain ⟨hmax, -, -, -, h⟩ := h
  obtain ⟨id, -, h⟩ := (Scan.answer_bind_eq_ok _).1 h
  rw [Scan.answer_bytes_bind, Scan.answer_pure] at h
  cases h
  exact hmax.2

theorem jhisGetAppletPropertyWrites_fit (W : World φ) (plugin : PluginVersion) (stack : VersionStack)
    (F : PropertyFirmware φ) (appId tx : Bytes) {rxLen : UInt32} (hrx : rxLen.toNat ≤ jhiBufferMax) (s : Service φ) :
    (jhisGetAppletPropertyWrites W plugin stack F appId tx rxLen s).Fit rxLen := by
  unfold jhisGetAppletPropertyWrites
  split
  · exact ⟨fun bs h => (nomatch h), fun bs h => (nomatch h)⟩
  next t _ =>
    by_cases hreg : t.pluginRegistered = true
    · rw [if_pos hreg]
      simp only [PluginVersion.queryProperty, exe_bind, exe_pure]
      exact propertyWrites_fit hrx
    · rw [if_neg hreg]
      refine ⟨fun bs h => ?_, fun bs h => (nomatch h)⟩
      rw [List.mem_singleton.1 h, List.length_replicate]

/-- **Applet properties.** With one of the two plugins, a supported property and a capacity below the limit:
when the firmware returns a value, the caller gets what is to be seen of it with a terminator, or its
length and nothing else if it has no room. And whatever request the dispatcher accepts, no write into
the receive buffers of the service goes beyond them. -/
theorem applet_property_query (hW : HasPropertyPlugin W plugin stack F) :
    (∀ (q : PropertyCaller) (s : JhiState × Service φ) (v w : Bytes) (emulation : Bool) (noise : Noise),
      q.property ∈ supportedProperties → q.capacity.toNat < jhiBufferMax → FirmwareReturns W jhisInit plugin F q s v →
      (0 : UInt8) ∉ v → v.length + 1 < 2 ^ 31 → Shows q.property v w →
      ShownDelivered q w ((jhiGetAppletProperty (serviceBackend W jhisInit) emulation noise q).exe s).1) ∧
    ∀ (req : Request) (vmType : VmType) (registered : Bool) (appId : AppId) (tx : Bytes) (rxLen : UInt32) (s : Service φ),
      (decode req.inputSize vmType registered .getAppletProperty).answer req.inputData =
        .ok (some (.getAppletProperty appId tx rxLen)) →
      (jhisGetAppletPropertyWrites W plugin stack F appId.text tx rxLen s).Fit rxLen := by
  constructor
  · intro q s v w emulation noise hprop hcap hfw h0 hlen hshows
    have hshown := jhiGetAppletProperty_shown hW hprop hcap hfw h0 hlen emulation noise
    rwa [hshows.shownValue_eq stack] at hshown
  · intro req vmType registered appId tx rxLen s hdec
    exact jhisGetAppletPropertyWrites_fit W plugin stack F appId.text tx (rxLen_le_of_decode hdec) s

end EndToEnd

/-! ### A version and an empty value -/

/-- A firmware that returns one value, behind the plugin of Beihai v1. -/
def valueWorld (v : Bytes) : World Unit :=
  { World.quiet Unit with
    pluginGetAppletProperty := fun appId tx length => do
      let p ← PluginVersion.v1.queryProperty ⟨0, 0⟩ (fun _ _ => pure (bhSuccess, v)) appId tx length
      return propertyAnswer (length + 1) p }

theorem hasPropertyPlugin_valueWorld (v : Bytes) :
    HasPropertyPlugin (valueWorld v) .v1 ⟨0, 0⟩ fun _ _ => pure (bhSuccess, v) := fun _ _ _ _ => rfl

/-- A service with one applet. -/
def oneInstalled : JhiState × Service Unit :=
  (.initialized, ⟨OrdMap.empty, 0, OrdMap.empty.insert exampleApplet.text ⟨.installed, false, false⟩, .beihaiV1, true, [], (), []⟩)

/-- The property name of a vendor, for examples. -/
def vendorProperty : Bytes := ascii ['a', 'p', 'p', 'l', 'e', 't', '.', 'v', 'e', 'n', 'd', 'o', 'r']

theorem length_replicate_add_one (capacity : UInt32) :
    (List.replicate (capacity.toNat + 1) (7 : UInt8)).length = capacity.toNat + 1 := List.length_replicate

/-- A caller whose buffer is full of sevens. -/
def sevens (property : Bytes) (capacity : UInt32) : PropertyCaller where
  appId := exampleApplet
  property := property
  capacity := capacity
  buffer := List.replicate (capacity.toNat + 1) 7
  sized := length_replicate_add_one capacity

def noNoise : Noise := ⟨fun _ => 0, fun _ => 0, fun _ => 0, fun _ => 0, fun _ => 0⟩

theorem firmwareReturns_valueWorld (property : Bytes) (capacity : UInt32) (v : Bytes) :
    FirmwareReturns (valueWorld v) (pure jhiSuccess) .v1 (fun _ _ => pure (bhSuccess, v)) (sevens property capacity)
      oneInstalled v where
  client := by
    show exampleApplet ≠ spoolerAppletUuid
    decide
  started := rfl
  asked := ⟨oneInstalled.2, rfl, rfl, rfl⟩

/-- The version `1.0` arrives as `1`, and an empty value without its terminator when there is no room. -/
theorem version_shown_as_number :
    (FirmwareReturns (valueWorld (ascii ['1', '.', '0'])) (pure jhiSuccess) .v1 (fun _ _ => pure (bhSuccess, ascii ['1', '.', '0']))
        (sevens appletVersionProperty 3) oneInstalled (ascii ['1', '.', '0']) ∧
      ¬PropertyDelivered (sevens appletVersionProperty 3) (ascii ['1', '.', '0'])
        ((jhiGetAppletProperty (serviceBackend (valueWorld (ascii ['1', '.', '0'])) (pure jhiSuccess)) false noNoise
          (sevens appletVersionProperty 3)).exe oneInstalled).1) ∧
    (FirmwareReturns (valueWorld []) (pure jhiSuccess) .v1 (fun _ _ => pure (bhSuccess, [])) (sevens vendorProperty 0)
        oneInstalled [] ∧
      ¬PropertyDelivered (sevens vendorProperty 0) []
        ((jhiGetAppletProperty (serviceBackend (valueWorld []) (pure jhiSuccess)) false noNoise (sevens vendorProperty 0)).exe
          oneInstalled).1) := by
  refine ⟨⟨firmwareReturns_valueWorld _ _ _, fun h => ?_⟩, ⟨firmwareReturns_valueWorld _ _ _, fun h => ?_⟩⟩
  · have hshown := jhiGetAppletProperty_shown (hasPropertyPlugin_valueWorld (ascii ['1', '.', '0']))
      (q := sevens appletVersionProperty 3) (by decide) (by decide) (firmwareReturns_valueWorld _ _ _) (by decide) (by decide)
      false noNoise
    have hone : shownValue ⟨0, 0⟩ (sevens appletVersionProperty 3).property (ascii ['1', '.', '0']) = ascii ['1'] := by
      decide +kernel
    rw [hone] at hshown
    have hlength := (hshown.fits (by decide)).2.1
    rw [(h.fits (by decide)).2.1] at hlength
    exact absurd hlength (by decide)
  · have hshown := jhiGetAppletProperty_shown (hasPropertyPlugin_valueWorld []) (q := sevens vendorProperty 0) (by decide)
      (by decide) (firmwareReturns_valueWorld _ _ _) (by decide) (by decide) false noNoise
    have hnone : shownValue ⟨0, 0⟩ (sevens vendorProperty 0).property [] = [] := by decide
    rw [hnone] at hshown
    have hbuffer := (hshown.fits (by decide)).2.2
    have hterminated := (h.fits (by decide)).2.2
    rw [hbuffer] at hterminated
    exact absurd hterminated (by decide)

theorem shows_oneTwo : Shows appletVersionProperty (ascii ['1', '.', '2']) (ascii ['5', '1', '3']) := by
  have hnumber := @Shows.number [49] [50] ⟨by decide, by decide +kernel⟩ ⟨by decide, by decide +kernel⟩ (by decide)
    (by decide)
  have htext : decimal (digitsValue [49] ||| digitsValue [50] <<< 8) = ascii ['5', '1', '3'] := by decide +kernel
  rwa [htext] at hnumber

/-- The theorem at a version and at a vendor's name. -/
theorem applet_property_query_version :
    ShownDelivered (sevens appletVersionProperty 3) (ascii ['5', '1', '3'])
        ((jhiGetAppletProperty (serviceBackend (valueWorld (ascii ['1', '.', '2'])) (pure jhiSuccess)) false noNoise
          (sevens appletVersionProperty 3)).exe oneInstalled).1 ∧
      ShownDelivered (sevens vendorProperty 4) (ascii ['A', 'B'])
        ((jhiGetAppletProperty (serviceBackend (valueWorld (ascii ['A', 'B'])) (pure jhiSuccess)) false noNoise
          (sevens vendorProperty 4)).exe oneInstalled).1 :=
  ⟨(applet_property_query (hasPropertyPlugin_valueWorld (ascii ['1', '.', '2']))).1 (sevens appletVersionProperty 3)
      oneInstalled (ascii ['1', '.', '2']) (ascii ['5', '1', '3']) false noNoise (by decide) (by decide)
      (firmwareReturns_valueWorld _ _ _) (by decide) (by decide) shows_oneTwo,
    (applet_property_query (hasPropertyPlugin_valueWorld (ascii ['A', 'B']))).1 (sevens vendorProperty 4) oneInstalled
      (ascii ['A', 'B']) (ascii ['A', 'B']) false noNoise (by decide) (by decide) (firmwareReturns_valueWorld _ _ _)
      (by decide) (by decide) (.plain (by decide))⟩

end DalHost
