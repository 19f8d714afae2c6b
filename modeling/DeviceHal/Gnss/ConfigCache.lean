import DeviceHal.Lib.Run
import DeviceHal.Gnss.ConfigUpdate
import Mathlib.Tactic

/-! # The cached engine configuration

For five items the configuration keeps the value that the engine is thought to
have, and a request for that value is answered without a call. The value is
stored before the engine is called, and is not taken back if the call fails. -/
namespace DeviceHal.Gnss.ConfigCache
open DeviceHal.Lib.Run DeviceHal.Gnss.LocationTypes DeviceHal.Gnss.ConfigUpdate
open LocationError

/-! ## The engine -/

/-- The values the engine last accepted. -/
structure EngineConf where
  suplVersion : GnssConfigSuplVersion
  lppProfile : GnssConfigLppProfile
  lppeCP : UInt16
  lppeUP : UInt16
  aGlonassProtocol : UInt16
deriving DecidableEq

namespace EngineConf

def accept (e : EngineConf) : EngineCall → EngineConf
  | .setSUPLVersion version => { e with suplVersion := version }
  | .setLPPConfig profile => { e with lppProfile := profile }
  | .setLPPeProtocolCp lppeCP => { e with lppeCP }
  | .setLPPeProtocolUp lppeUP => { e with lppeUP }
  | .setAGLONASSProtocol aGlonassProtocol => { e with aGlonassProtocol }
  | _ => e

/-- A call that fails changes nothing. -/
def take (e : EngineConf) (c : EngineCall × LocationError) : EngineConf :=
  if c.2 = LOCATION_ERROR_SUCCESS then e.accept c.1 else e

/-- The engine's value as the configuration writes it. -/
def value (e : EngineConf) : ConfItem → UInt32
  | .SUPL_VER => convertSuplVersion e.suplVersion
  | .LPP_PROFILE => convertLppProfile e.lppProfile
  | .LPPE_CP_TECHNOLOGY => convertLppeCp e.lppeCP
  | .LPPE_UP_TECHNOLOGY => convertLppeUp e.lppeUP
  | .A_GLONASS_POS_PROTOCOL_SELECT => convertAGloProt e.aGlonassProtocol

end EngineConf

/-! ## The five items -/

namespace ConfItem

def part : ConfItem → Part
  | .SUPL_VER => ⟨GNSS_CONFIG_FLAGS_SUPL_VERSION_VALID_BIT, ConfigAdapter.updateSuplVersion⟩
  | .LPP_PROFILE => ⟨GNSS_CONFIG_FLAGS_LPP_PROFILE_VALID_BIT, ConfigAdapter.updateLppProfile⟩
  | .LPPE_CP_TECHNOLOGY => ⟨GNSS_CONFIG_FLAGS_LPPE_CONTROL_PLANE_VALID_BIT, ConfigAdapter.updateLppeCp⟩
  | .LPPE_UP_TECHNOLOGY => ⟨GNSS_CONFIG_FLAGS_LPPE_USER_PLANE_VALID_BIT, ConfigAdapter.updateLppeUp⟩
  | .A_GLONASS_POS_PROTOCOL_SELECT =>
    ⟨GNSS_CONFIG_FLAGS_AGLONASS_POSITION_PROTOCOL_VALID_BIT, ConfigAdapter.updateAGloProt⟩

/-- The requested value, as the configuration writes it. -/
def requested (config : GnssConfig) : ConfItem → UInt32
  | .SUPL_VER => convertSuplVersion config.suplVersion
  | .LPP_PROFILE => convertLppProfile config.lppProfile
  | .LPPE_CP_TECHNOLOGY => convertLppeCp config.lppeControlPlaneMask
  | .LPPE_UP_TECHNOLOGY => convertLppeUp config.lppeUserPlaneMask
  | .A_GLONASS_POS_PROTOCOL_SELECT => convertAGloProt config.aGlonassPositionProtocolMask

def setCall (config : GnssConfig) : ConfItem → EngineCall
  | .SUPL_VER => .setSUPLVersion config.suplVersion
  | .LPP_PROFILE => .setLPPConfig config.lppProfile
  | .LPPE_CP_TECHNOLOGY => .setLPPeProtocolCp config.lppeControlPlaneMask
  | .LPPE_UP_TECHNOLOGY => .setLPPeProtocolUp config.lppeUserPlaneMask
  | .A_GLONASS_POS_PROTOCOL_SELECT => .setAGLONASSProtocol config.aGlonassPositionProtocolMask

/-- Whether the item may be set without `AGPS_CONFIG_INJECT`. -/
def always : ConfItem → Bool
  | .LPPE_CP_TECHNOLOGY | .LPPE_UP_TECHNOLOGY => true
  | _ => false

theorem part_update (x : ConfItem) (a : ConfigAdapter) (api : Api) (config : GnssConfig) :
    (part x).update a api config =
      a.updateItem api x (always x || a.inject) (requested config x) (setCall config x) := by
  cases x <;> rfl

theorem value_accept (e : EngineConf) (config : GnssConfig) (x : ConfItem) :
    (e.accept (setCall config x)).value x = requested config x := by cases x <;> rfl

theorem value_accept_of_ne {x y : ConfItem} (h : x ≠ y) (e : EngineConf) (config : GnssConfig) :
    (e.accept (setCall config y)).value x = e.value x := by
  cases x <;> cases y <;> first | rfl | exact absurd rfl h

/-- The parts before the item's own. -/
def earlier (x : ConfItem) : List Part := parts.takeWhile (·.flag ≠ (part x).flag)

def later (x : ConfItem) : List Part := (parts.dropWhile (·.flag ≠ (part x).flag)).tail

theorem parts_eq (x : ConfItem) : parts = earlier x ++ part x :: later x := by cases x <;> rfl

theorem other_flag {x : ConfItem} {p : Part} (hp : p ∈ earlier x ++ later x) :
    p ∈ parts ∧ p.flag ≠ (part x).flag := by
  have hflags : ((earlier x ++ part x :: later x).map Part.flag).Nodup := by
    rw [← parts_eq]
    decide
  rw [List.map_append, List.map_cons, List.nodup_middle, List.nodup_cons, ← List.map_append] at hflags
  constructor
  · rw [parts_eq x, List.mem_append, List.mem_cons]
    exact (List.mem_append.mp hp).imp_right .inr
  · intro h
    exact hflags.1 (h ▸ List.mem_map_of_mem hp)

end ConfItem

/-! ## One message -/

/-- The engine after the calls. -/
def held (e : EngineConf) (a : ConfigAdapter) : EngineConf := a.calls.foldl EngineConf.take e

/-- Whether the part runs. -/
def Part.isSet (config : GnssConfig) (p : Part) : Bool := config.flags &&& p.flag ≠ 0

/-- The error that the response lists for the item. -/
def answer (r : Answers) (config : GnssConfig) (x : ConfItem) : Option LocationError :=
  r.errs[((ConfItem.earlier x).filter (Part.isSet config)).length]?

/-- The message has the item set in the engine. -/
def Calls (a : ConfigAdapter) (config : GnssConfig) (x : ConfItem) : Prop :=
  Part.isSet config (ConfItem.part x) ∧
    (ConfItem.requested config x ≠ a.mGps_conf.read x ∧ (ConfItem.always x || a.inject))

instance (a : ConfigAdapter) (config : GnssConfig) (x : ConfItem) : Decidable (Calls a config x) :=
  inferInstanceAs (Decidable (_ ∧ _))

/-- Two adapters have the same value of an item in the configuration and the engine. -/
structure SameItem (e : EngineConf) (x : ConfItem) (a b : ConfigAdapter) : Prop where
  read : b.mGps_conf.read x = a.mGps_conf.read x
  held : (held e b).value x = (held e a).value x
  inject : b.inject = a.inject

section
variable {e : EngineConf} {x : ConfItem}

theorem SameItem.refl (a : ConfigAdapter) : SameItem e x a a := ⟨rfl, rfl, rfl⟩

theorem SameItem.trans {a b c : ConfigAdapter} (hab : SameItem e x a b) (hbc : SameItem e x b c) :
    SameItem e x a c :=
  ⟨hbc.read.trans hab.read, hbc.held.trans hab.held, hbc.inject.trans hab.inject⟩

theorem held_call (e : EngineConf) (a : ConfigAdapter) (api : Api) (c : EngineCall) :
    held e (a.call api c).1 = (held e a).take (c, api.result c) := by
  simp [held, ConfigAdapter.call, List.foldl_append]

/-- A call that is not for an item changes none. -/
theorem sameItem_call {c : EngineCall} (hc : ∀ e : EngineConf, e.accept c = e) (a : ConfigAdapter)
    (api : Api) : SameItem e x a (a.call api c).1 := by
  refine ⟨rfl, ?_, rfl⟩
  rw [held_call, EngineConf.take, hc, ite_self]

theorem sameItem_updateItem {y : ConfItem} (hne : x ≠ y) (a : ConfigAdapter) (api : Api)
    (allowed : Bool) (config : GnssConfig) :
    SameItem e x a (a.updateItem api y allowed (ConfItem.requested config y)
      (ConfItem.setCall config y)).1 := by
  unfold ConfigAdapter.updateItem
  split
  · refine ⟨GpsConf.read_write_of_ne _ hne _, ?_, ?_⟩
    · rw [held_call, EngineConf.take]
      split
      · exact ConfItem.value_accept_of_ne hne _ _
      · rfl
    · simp [ConfigAdapter.inject, ConfigAdapter.call]
  · exact SameItem.refl a

theorem sameItem_setSuplHostServer (a : ConfigAdapter) (api : Api) (server : Option (List UInt8))
    (port : Int32) : SameItem e x a (a.setSuplHostServer api server port).1 := by
  unfold ConfigAdapter.setSuplHostServer
  split
  · split
    · exact SameItem.refl a
    · split
      · rename_i url length _ _
        have hurl : SameItem e x a (a.setServerUrl url) := ⟨rfl, rfl, rfl⟩
        exact hurl.trans (sameItem_call (c := .setServerUrl url length) (fun _ => rfl) _ api)
      · exact SameItem.refl a
  · exact SameItem.refl a

theorem sameItem_assistanceServer (a : ConfigAdapter) (api : Api) (config : GnssConfig) :
    SameItem e x a (a.updateAssistanceServer api config).1 := by
  simp only [ConfigAdapter.updateAssistanceServer]
  split
  · exact sameItem_setSuplHostServer _ _ _ _
  · split
    · split
      · split
        · exact SameItem.refl a
        · exact sameItem_call (c := .setServerIp _ _) (fun _ => rfl) _ api
      · exact SameItem.refl a
    · exact SameItem.refl a

theorem sameItem_suplMode (a : ConfigAdapter) (api : Api) (config : GnssConfig) :
    SameItem e x a (a.updateSuplMode api config).1 := by
  simp only [ConfigAdapter.updateSuplMode]
  split
  · refine SameItem.trans ?_ ((sameItem_call (c := .setCapabilities _) (fun _ => rfl) _ api).trans
      (sameItem_call (c := .broadcastCapabilities _) (fun _ => rfl) _ api))
    exact ⟨by cases x <;> rfl, rfl, rfl⟩
  · exact SameItem.refl a

theorem sameItem_conf {conf : GpsConf} (a : ConfigAdapter)
    (hread : conf.read x = a.mGps_conf.read x)
    (hinject : conf.AGPS_CONFIG_INJECT = a.mGps_conf.AGPS_CONFIG_INJECT) :
    SameItem e x a { a with mGps_conf := conf } :=
  ⟨hread, rfl, by simp only [ConfigAdapter.inject, hinject]⟩

/-- Every part but the item's own leaves the item alone. -/
theorem sameItem_part {p : Part} (hp : p ∈ parts) (hne : p.flag ≠ (ConfItem.part x).flag)
    (a : ConfigAdapter) (api : Api) (config : GnssConfig) :
    SameItem e x a (p.update a api config).1 := by
  have hitem : ∀ y, p = ConfItem.part y → SameItem e x a (p.update a api config).1 := by
    intro y hy
    have hxy : x ≠ y := by
      rintro rfl
      exact hne (congrArg Part.flag hy)
    rw [hy, ConfItem.part_update]
    exact sameItem_updateItem hxy a api _ config
  simp only [parts, List.mem_cons, List.not_mem_nil, or_false] at hp
  rcases hp with h | h | h | h | h | h | h | h | h | h
  · subst h
    simp only [ConfigAdapter.updateGpsLock]
    split <;> exact ⟨rfl, rfl, rfl⟩
  · exact hitem .SUPL_VER h
  · subst h
    exact sameItem_assistanceServer a api config
  · exact hitem .LPP_PROFILE h
  · exact hitem .LPPE_CP_TECHNOLOGY h
  · exact hitem .LPPE_UP_TECHNOLOGY h
  · exact hitem .A_GLONASS_POS_PROTOCOL_SELECT h
  · subst h
    simp only [ConfigAdapter.updateEP4ES]
    split
    · exact sameItem_conf a (by cases x <;> rfl) rfl
    · exact SameItem.refl a
  · subst h
    simp only [ConfigAdapter.updateSuplEs]
    split
    · exact sameItem_conf a (by cases x <;> rfl) rfl
    · exact SameItem.refl a
  · subst h
    exact sameItem_suplMode a api config

theorem inject_part (e : EngineConf) {p : Part} (hp : p ∈ parts) (a : ConfigAdapter) (api : Api)
    (config : GnssConfig) : (p.update a api config).1.inject = a.inject := by
  -- the part is not that of one of two items
  by_cases h : p.flag = (ConfItem.part .SUPL_VER).flag
  · have hne : p.flag ≠ (ConfItem.part .LPP_PROFILE).flag := by
      rw [h]
      decide
    exact (@sameItem_part e _ p hp hne a api config).inject
  · exact (@sameItem_part e _ p hp h a api config).inject

/-- Parts that are not the item's own, one after the other. -/
theorem sameItem_run {m : MsgGnssUpdateConfig} {api : Api} {ps : List Part}
    (hps : ∀ p ∈ ps, p ∈ parts ∧ p.flag ≠ (ConfItem.part x).flag) (s : ConfigAdapter × Answers) :
    SameItem e x s.1 (ps.foldl (Part.run m api) s).1 := by
  induction ps generalizing s with
  | nil => exact SameItem.refl s.1
  | cons p ps ih =>
    have hfirst : SameItem e x s.1 (Part.run m api s p).1 := by
      unfold Part.run
      split
      · exact sameItem_part (hps p (.head _)).1 (hps p (.head _)).2 _ _ _
      · exact SameItem.refl s.1
    exact hfirst.trans (ih (fun q hq => hps q (.tail _ hq)) _)

end

/-! ## The answers of a message -/

section
variable {m : MsgGnssUpdateConfig} {api : Api}

/-- The errors stored are those of the first parts, as many as there is room for. -/
structure Filled (m : MsgGnssUpdateConfig) (r : Answers) : Prop where
  length : r.errs.length = min r.index m.mIds.length

theorem Filled.put {r : Answers} (h : Filled m r) (err : LocationError) :
    Filled m (r.put m.mIds.length err) := by
  have hlen := h.length
  constructor
  simp only [Answers.put]
  split
  · rw [List.length_append, hlen, List.length_singleton]
    omega
  · omega

/-- Later parts keep what is stored, and count on. -/
structure Extends (m : MsgGnssUpdateConfig) (r t : Answers) : Prop where
  stored : r.errs <+: t.errs
  full : m.mIds.length ≤ r.index → t.errs = r.errs
  index : r.index ≤ t.index

theorem extends_put (r : Answers) (err : LocationError) :
    Extends m r (r.put m.mIds.length err) := by
  refine ⟨?_, ?_, Nat.le_succ _⟩
  · simp only [Answers.put]
    split
    · exact List.prefix_append _ _
    · exact List.prefix_rfl
  · intro hfull
    simp only [Answers.put]
    rw [if_neg (Nat.not_lt.mpr hfull)]

theorem Extends.trans {r t u : Answers} (hrt : Extends m r t) (htu : Extends m t u) :
    Extends m r u :=
  ⟨hrt.stored.trans htu.stored,
    fun h => (htu.full (h.trans hrt.index)).trans (hrt.full h), hrt.index.trans htu.index⟩

/-- What running parts does to the answers. -/
theorem answers_run (ps : List Part) (s : ConfigAdapter × Answers) (hs : Filled m s.2) :
    Filled m (ps.foldl (Part.run m api) s).2 ∧ Extends m s.2 (ps.foldl (Part.run m api) s).2 ∧
      (ps.foldl (Part.run m api) s).2.index =
        s.2.index + (ps.filter (Part.isSet m.mConfig)).length := by
  induction ps generalizing s with
  | nil => exact ⟨hs, ⟨List.prefix_rfl, fun _ => rfl, le_rfl⟩, rfl⟩
  | cons p ps ih =>
    by_cases hset : m.mConfig.flags &&& p.flag ≠ 0
    · have hrun : Part.run m api s p = ((p.update s.1 api m.mConfig).1,
          s.2.put m.mIds.length (p.update s.1 api m.mConfig).2) := by
        rw [Part.run, if_pos hset]
      rw [List.foldl_cons, hrun]
      obtain ⟨hf, he, hi⟩ := ih ((p.update s.1 api m.mConfig).1,
        s.2.put m.mIds.length (p.update s.1 api m.mConfig).2) (hs.put _)
      refine ⟨hf, (extends_put _ _).trans he, ?_⟩
      rw [hi, List.filter_cons_of_pos (by simpa [Part.isSet] using hset), List.length_cons]
      simp only [Answers.put]
      omega
    · have hrun : Part.run m api s p = s := by rw [Part.run, if_neg hset]
      rw [List.foldl_cons, hrun, List.filter_cons_of_neg (by simpa [Part.isSet] using hset)]
      exact ih s hs

/-- The error listed for the item is the one its part stored. -/
theorem answer_eq {a : ConfigAdapter} {x : ConfItem}
    (hset : Part.isSet m.mConfig (ConfItem.part x)) {err : LocationError}
    (herr : answer (m.update a api).2 m.mConfig x = some err) :
    err = ((ConfItem.part x).update
      ((ConfItem.earlier x).foldl (Part.run m api) (a, ⟨0, []⟩)).1 api m.mConfig).2 := by
  have hstart : Filled m (⟨0, []⟩ : Answers) := ⟨(Nat.zero_min _).symm⟩
  obtain ⟨hfill, -, hindex⟩ := answers_run (ConfItem.earlier x) (a, ⟨0, []⟩) hstart
  generalize hs : (ConfItem.earlier x).foldl (Part.run m api) (a, ⟨0, []⟩) = s at *
  rw [Nat.zero_add] at hindex
  have hrun : Part.run m api s (ConfItem.part x) =
      (((ConfItem.part x).update s.1 api m.mConfig).1,
        s.2.put m.mIds.length ((ConfItem.part x).update s.1 api m.mConfig).2) := by
    rw [Part.run, if_pos (by simpa [Part.isSet] using hset)]
  generalize (ConfItem.part x).update s.1 api m.mConfig = u at *
  obtain ⟨-, hext, -⟩ := @answers_run m api (ConfItem.later x)
    (u.1, s.2.put m.mIds.length u.2) (hfill.put u.2)
  have hupdate : m.update a api =
      (ConfItem.later x).foldl (Part.run m api) (u.1, s.2.put m.mIds.length u.2) := by
    rw [MsgGnssUpdateConfig.update, ConfItem.parts_eq x, List.foldl_append, List.foldl_cons, hs, hrun]
  rw [answer, hupdate, ← hindex] at herr
  by_cases hroom : s.2.index < m.mIds.length
  · have hlen : s.2.errs.length = s.2.index := by rw [hfill.length]; omega
    obtain ⟨more, hmore⟩ := hext.stored
    rw [← hmore, Answers.put, if_pos hroom, List.append_assoc, ← hlen,
      List.getElem?_append_right le_rfl, Nat.sub_self] at herr
    exact (Option.some.inj herr).symm
  · -- no room for this error, so none is listed
    have hfull : m.mIds.length ≤ s.2.index := Nat.not_lt.mp hroom
    rw [hext.full (Nat.le_succ_of_le hfull), Answers.put, if_neg hroom,
      List.getElem?_eq_none (by rw [hfill.length]; omega)] at herr
    cases herr

/-! ## What a message does to an item -/

variable {e : EngineConf} {a : ConfigAdapter} {x : ConfItem}

theorem sameItem_earlier : SameItem e x a
    ((ConfItem.earlier x).foldl (Part.run m api) (a, ⟨0, []⟩)).1 :=
  sameItem_run (fun _ hp => ConfItem.other_flag (List.mem_append_left _ hp)) (a, ⟨0, []⟩)

/-- The item after the message is the item after its own part. -/
theorem sameItem_own : SameItem e x
    (Part.run m api ((ConfItem.earlier x).foldl (Part.run m api) (a, ⟨0, []⟩)) (ConfItem.part x)).1
    (m.proc a api) := by
  have hlater := @sameItem_run e x m api (ConfItem.later x)
    (fun _ hp => ConfItem.other_flag (List.mem_append_right _ hp))
    (Part.run m api ((ConfItem.earlier x).foldl (Part.run m api) (a, ⟨0, []⟩)) (ConfItem.part x))
  rw [← List.foldl_cons, ← List.foldl_append, ← ConfItem.parts_eq] at hlater
  exact ⟨hlater.read, hlater.held, hlater.inject⟩

theorem proc_of_not_set (h : ¬ Part.isSet m.mConfig (ConfItem.part x)) :
    SameItem e x a (m.proc a api) := by
  have hown := @sameItem_own m api e a x
  rw [Part.run, if_neg (by simpa [Part.isSet] using h)] at hown
  exact sameItem_earlier.trans hown

/-- What the item's own part is given and what it returns. -/
theorem part_update_eq : ∃ b : ConfigAdapter, SameItem e x a b ∧
    ((ConfItem.part x).update ((ConfItem.earlier x).foldl (Part.run m api) (a, ⟨0, []⟩)).1 api
      m.mConfig =
      if ConfItem.requested m.mConfig x ≠ a.mGps_conf.read x ∧ (ConfItem.always x || a.inject) then
        { b with mGps_conf := b.mGps_conf.write x (ConfItem.requested m.mConfig x) }.call api
          (ConfItem.setCall m.mConfig x)
      else (b, LOCATION_ERROR_SUCCESS)) := by
  have hb := @sameItem_earlier m api e a x
  refine ⟨_, hb, ?_⟩
  rw [ConfItem.part_update, ConfigAdapter.updateItem, hb.read, hb.inject]

/-- A request that does not call the engine leaves the item, and is answered with success. -/
theorem proc_of_not_calls (h : ¬ Calls a m.mConfig x) : SameItem e x a (m.proc a api) ∧
    (Part.isSet m.mConfig (ConfItem.part x) →
      ∀ err, answer (m.update a api).2 m.mConfig x = some err → err = LOCATION_ERROR_SUCCESS) := by
  by_cases hset : Part.isSet m.mConfig (ConfItem.part x)
  · obtain ⟨b, hb, heq⟩ := @part_update_eq m api e a x
    rw [if_neg fun hc => h ⟨hset, hc⟩] at heq
    refine ⟨?_, fun _ err herr => ?_⟩
    · have hown := @sameItem_own m api e a x
      rw [Part.run, if_pos (by simpa [Part.isSet] using hset), heq] at hown
      exact hb.trans hown
    · rw [answer_eq hset herr, heq]
  · exact ⟨proc_of_not_set hset, fun hs => absurd hs hset⟩

/-- A request that calls the engine stores the value, whatever the engine returns. -/
theorem proc_of_calls (h : Calls a m.mConfig x) :
    (m.proc a api).mGps_conf.read x = ConfItem.requested m.mConfig x ∧
    (held e (m.proc a api)).value x =
      (if api.result (ConfItem.setCall m.mConfig x) = LOCATION_ERROR_SUCCESS
        then ConfItem.requested m.mConfig x else (held e a).value x) ∧
    ∀ err, answer (m.update a api).2 m.mConfig x = some err →
      err = api.result (ConfItem.setCall m.mConfig x) := by
  obtain ⟨hset, hc⟩ := h
  obtain ⟨b, hb, heq⟩ := @part_update_eq m api e a x
  rw [if_pos hc] at heq
  have hown := @sameItem_own m api e a x
  rw [Part.run, if_pos (by simpa [Part.isSet] using hset), heq] at hown
  refine ⟨?_, ?_, fun err herr => ?_⟩
  · rw [hown.read]
    exact GpsConf.read_write_self _ _ _
  · rw [hown.held, held_call, EngineConf.take]
    split
    · exact ConfItem.value_accept _ _ _
    · exact hb.held
  · rw [answer_eq hset herr, heq]
    rfl

end

/-! ## Runs of requests -/

/-- A message together with the engine's answers to it. -/
abbrev ConfigEvent := MsgGnssUpdateConfig × Api

def step (a : ConfigAdapter) (q : ConfigEvent) : ConfigAdapter := q.1.proc a q.2

/-- The configuration has the value that the engine last accepted. -/
def Agrees (e : EngineConf) (a : ConfigAdapter) : Prop :=
  ∀ x, a.mGps_conf.read x = (held e a).value x

/-- An item answered with success has the requested value in the engine. -/
def AnsweredRight (e : EngineConf) (a : ConfigAdapter) (q : ConfigEvent) : Prop :=
  ∀ x, Part.isSet q.1.mConfig (ConfItem.part x) →
    answer (q.1.update a q.2).2 q.1.mConfig x = some LOCATION_ERROR_SUCCESS →
    (held e (step a q)).value x = ConfItem.requested q.1.mConfig x

/-- No item's call fails. -/
def NoFailure (a : ConfigAdapter) (q : ConfigEvent) : Prop :=
  ∀ x, Calls a q.1.mConfig x →
    q.2.result (ConfItem.setCall q.1.mConfig x) = LOCATION_ERROR_SUCCESS

theorem agrees_step_iff {e : EngineConf} {a : ConfigAdapter} {q : ConfigEvent} (h : Agrees e a) :
    Agrees e (step a q) ↔ NoFailure a q := by
  constructor
  · intro hagree x hcalls
    obtain ⟨hread, hheld, -⟩ := @proc_of_calls q.1 q.2 e a x hcalls
    by_contra hfail
    rw [if_neg hfail, ← h x] at hheld
    -- the stored value is the requested one, the engine's is the one stored before
    exact hcalls.2.1 (hread.symm.trans ((hagree x).trans hheld))
  · intro hok x
    by_cases hcalls : Calls a q.1.mConfig x
    · obtain ⟨hread, hheld, -⟩ := @proc_of_calls q.1 q.2 e a x hcalls
      rw [if_pos (hok x hcalls)] at hheld
      exact hread.trans hheld.symm
    · obtain ⟨hsame, -⟩ := @proc_of_not_calls q.1 q.2 e a x hcalls
      exact hsame.read.trans ((h x).trans hsame.held.symm)

theorem answeredRight_of_agrees {e : EngineConf} {a : ConfigAdapter} {q : ConfigEvent}
    (hinject : a.inject = true) (h : Agrees e a) : AnsweredRight e a q := by
  intro x hset herr
  by_cases hcalls : Calls a q.1.mConfig x
  · obtain ⟨-, hheld, hanswer⟩ := @proc_of_calls q.1 q.2 e a x hcalls
    rw [if_pos (hanswer _ herr).symm] at hheld
    exact hheld
  · obtain ⟨hsame, -⟩ := @proc_of_not_calls q.1 q.2 e a x hcalls
    have heq : ConfItem.requested q.1.mConfig x = a.mGps_conf.read x := by
      by_contra hne
      exact hcalls ⟨hset, hne, by rw [hinject, Bool.or_true]⟩
    rw [heq, h x]
    exact hsame.held

theorem inject_step (e : EngineConf) (a : ConfigAdapter) (q : ConfigEvent) :
    (step a q).inject = a.inject := by
  have hrun : ∀ (ps : List Part) (s : ConfigAdapter × Answers), (∀ p ∈ ps, p ∈ parts) →
      (ps.foldl (Part.run q.1 q.2) s).1.inject = s.1.inject := by
    intro ps
    induction ps with
    | nil => exact fun _ _ => rfl
    | cons p ps ih =>
      intro s hps
      rw [List.foldl_cons, ih _ fun p' hp' => hps p' (.tail _ hp'), Part.run]
      split
      · exact inject_part e (hps p (.head _)) s.1 q.2 q.1.mConfig
      · rfl
  exact hrun parts (a, ⟨0, []⟩) fun _ hp => hp

/-- **The cache and the engine.** The engine starts with the cached values.
After every message the cached values are those the engine last accepted, and
every item answered with success has its requested value in the engine, in
exactly the runs in which no call for one of the items fails. -/
theorem cache_agrees_iff (e : EngineConf) (a : ConfigAdapter) (qs : List ConfigEvent)
    (hinject : a.mGps_conf.AGPS_CONFIG_INJECT ≠ 0) (hstart : Agrees e a) :
    Steps step (fun a q => Agrees e (step a q) ∧ AnsweredRight e a q) a qs ↔
      Steps step NoFailure a qs := by
  refine steps_iff_guard (I := fun a => a.inject = true ∧ Agrees e a) (A := fun _ _ => True) ?_ ?_
    ⟨by simpa [ConfigAdapter.inject] using hinject, hstart⟩ (steps_of_forall (fun _ _ => trivial) a qs)
  · intro a q hi _
    rw [agrees_step_iff hi.2, and_iff_left (answeredRight_of_agrees hi.1 hi.2)]
  · intro a q hi _ hq
    exact ⟨(inject_step e a q).trans hi.1, hq.1⟩

/-- A configuration with the values an engine has after its start. -/
def exampleAdapter : ConfigAdapter :=
  ⟨.start 0, ⟨0x00010000, 0, 0, 0, 0, 0, 0, 1, 0, 0⟩, [], [], []⟩

def exampleEngine : EngineConf :=
  ⟨.GNSS_CONFIG_SUPL_VERSION_1_0_0, .GNSS_CONFIG_LPP_PROFILE_RRLP_ON_LTE, 0, 0, 0⟩

/-- A message for the LPP profile of the user plane. -/
def lppMessage (result : LocationError) : ConfigEvent :=
  (⟨⟨GNSS_CONFIG_FLAGS_LPP_PROFILE_VALID_BIT, .GNSS_CONFIG_GPS_LOCK_NONE,
      .GNSS_CONFIG_SUPL_VERSION_1_0_0, ⟨0, none, 0⟩, .GNSS_CONFIG_LPP_PROFILE_USER_PLANE, 0, 0, 0,
      .GNSS_CONFIG_EMERGENCY_PDN_FOR_EMERGENCY_SUPL_NO, .GNSS_CONFIG_SUPL_EMERGENCY_SERVICES_NO, 0⟩,
    [2]⟩, ⟨fun _ => result, fun _ => none, 0⟩)

/-- A message for SUPL 2.0.0. -/
def suplMessage : ConfigEvent :=
  (⟨⟨GNSS_CONFIG_FLAGS_SUPL_VERSION_VALID_BIT, .GNSS_CONFIG_GPS_LOCK_NONE,
      .GNSS_CONFIG_SUPL_VERSION_2_0_0, ⟨0, none, 0⟩, .GNSS_CONFIG_LPP_PROFILE_RRLP_ON_LTE, 0, 0, 0,
      .GNSS_CONFIG_EMERGENCY_PDN_FOR_EMERGENCY_SUPL_NO, .GNSS_CONFIG_SUPL_EMERGENCY_SERVICES_NO, 0⟩,
    [3]⟩, ⟨fun _ => LOCATION_ERROR_SUCCESS, fun _ => none, 0⟩)

theorem agrees_example : Agrees exampleEngine exampleAdapter := by
  intro x
  cases x <;> decide

/-- The engine takes the profile, and the version that comes behind it. -/
theorem cache_agrees_two_messages :
    Steps step (fun a q => Agrees exampleEngine (step a q) ∧ AnsweredRight exampleEngine a q)
      exampleAdapter [lppMessage LOCATION_ERROR_SUCCESS, suplMessage] :=
  (cache_agrees_iff exampleEngine exampleAdapter _ (by decide) agrees_example).mpr
    ⟨fun _ _ => rfl, fun _ _ => rfl, trivial⟩

/-- The engine refuses the profile. It is cached all the same, and the next
request for it is answered with success without a call. -/
theorem refused_profile_cached :
    Agrees exampleEngine exampleAdapter ∧
    ¬ Agrees exampleEngine (step exampleAdapter (lppMessage LOCATION_ERROR_GENERAL_FAILURE)) ∧
    ¬ AnsweredRight exampleEngine
      (step exampleAdapter (lppMessage LOCATION_ERROR_GENERAL_FAILURE))
      (lppMessage LOCATION_ERROR_SUCCESS) := by
  refine ⟨agrees_example, fun h => ?_, fun h => ?_⟩
  · exact absurd (h .LPP_PROFILE) (by decide)
  · exact absurd (h .LPP_PROFILE (by decide) (by decide)) (by decide)

end DeviceHal.Gnss.ConfigCache
