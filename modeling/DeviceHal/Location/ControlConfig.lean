import DeviceHal.Lib.Run
import DeviceHal.Gnss.LocationTypes
import DeviceHal.Location.RequestQueue

/-! # Configurations of the control client

`locAPIGnssUpdateConfig` passes a configuration on only if it differs from the
last one, and answers for the others itself. The copy that it compares with is
written before the adapter has said whether it takes the configuration. -/
namespace DeviceHal.Location.ControlConfig
open DeviceHal.Lib.Run DeviceHal.Gnss.LocationTypes DeviceHal.Location.Requests
open LocationError

def CONFIG_SESSION_ID : Nat := 0xFFFFFFFF

/-- The bytes of a `GnssConfig`, which is what the client compares and copies. -/
abbrev ConfigBytes (size : Nat) := Vector UInt8 size

structure GnssUpdateConfigRequest where
  /-- The call that pushed it. -/
  op : Nat
deriving DecidableEq

section
variable {size : Nat}

/-- `LocationAPIControlClient`, as far as configurations go. -/
structure ConfigClient (size : Nat) where
  /-- `mLocationControlAPI` is not null. -/
  mLocationControlAPI : Bool
  mConfig : ConfigBytes size
  /-- `mRequestQueues[CTRL_REQUEST_CONFIG]`. -/
  mRequestQueue : Requests.RequestQueue GnssUpdateConfigRequest
deriving DecidableEq

namespace ConfigClient

def init (api : Bool) : ConfigClient size := ⟨api, Vector.replicate size 0, ⟨0, []⟩⟩

/-- `idArray` tells whether `gnssUpdateConfig` returns an array, if it is called;
the configuration it is called with comes back. -/
def locAPIGnssUpdateConfig (c : ConfigClient size) (config : ConfigBytes size) (idArray : Bool)
    (op : Nat) : LocationError × ConfigClient size × Option (ConfigBytes size) :=
  if c.mConfig = config then (LOCATION_ERROR_SUCCESS, c, none)
  else if c.mLocationControlAPI then
    let c := { c with mConfig := config }
    if idArray then
      let queue := if c.mRequestQueue.getSession ≠ CONFIG_SESSION_ID then
          c.mRequestQueue.reset CONFIG_SESSION_ID
        else c.mRequestQueue
      (LOCATION_ERROR_SUCCESS, { c with mRequestQueue := queue.push ⟨op⟩ }, some config)
    else (LOCATION_ERROR_GENERAL_FAILURE, c, some config)
  else (LOCATION_ERROR_GENERAL_FAILURE, c, none)

/-- The request that is called back with the errors, if there is one. -/
def onCtrlCollectiveResponseCb (c : ConfigClient size) :
    ConfigClient size × Option GnssUpdateConfigRequest :=
  if c.mRequestQueue.getSession = CONFIG_SESSION_ID then
    let (request, queue) := c.mRequestQueue.pop
    ({ c with mRequestQueue := queue }, request)
  else (c, none)

end ConfigClient

/-! ## Runs -/

structure World (size : Nat) where
  client : ConfigClient size
  /-- The configuration that `gnssUpdateConfig` last returned an array for. -/
  accepted : Option (ConfigBytes size)
  ops : Nat
deriving DecidableEq

inductive Event (size : Nat) where
  | updateConfig (config : ConfigBytes size) (idArray : Bool)
  /-- The adapter reports on its oldest update, or on none of the client's. -/
  | collectiveResponse
deriving DecidableEq

namespace World

def init (api : Bool) : World size := ⟨.init api, none, 0⟩

def step (w : World size) : Event size → World size
  | .updateConfig config idArray =>
    let (_, c, handed) := w.client.locAPIGnssUpdateConfig config idArray w.ops
    { client := c
      accepted := if idArray then handed.or w.accepted else w.accepted
      ops := w.ops + 1 }
  | .collectiveResponse => { w with client := w.client.onCtrlCollectiveResponseCb.1 }

end World

/-- The update is handed to the adapter, and accepted. -/
def Accepts (w : World size) (config : ConfigBytes size) (idArray : Bool) : Prop :=
  (w.client.locAPIGnssUpdateConfig config idArray w.ops).2.2 = some config ∧ idArray = true

instance (w : World size) (config : ConfigBytes size) (idArray : Bool) :
    Decidable (Accepts w config idArray) := inferInstanceAs (Decidable (_ ∧ _))

/-- A call that returns success leaves its configuration the accepted one, and a
request is queued for it if it is accepted, and for no other. -/
def Truthful (w : World size) : Event size → Prop
  | .updateConfig config idArray =>
    ((w.client.locAPIGnssUpdateConfig config idArray w.ops).1 = LOCATION_ERROR_SUCCESS →
      (w.step (.updateConfig config idArray)).accepted = some config) ∧
    (w.step (.updateConfig config idArray)).client.mRequestQueue.mQueue =
      w.client.mRequestQueue.mQueue ++ if Accepts w config idArray then [⟨w.ops⟩] else []
  | .collectiveResponse => True

/-- A configuration that was the last one passed on comes again only if it was accepted. -/
def RepeatsAccepted (w : World size) : Event size → Prop
  | .updateConfig config _ => w.client.mConfig = config → w.accepted = some config
  | .collectiveResponse => True

instance Truthful.decidable (w : World size) (e : Event size) : Decidable (Truthful w e) := by
  unfold Truthful
  split <;> infer_instance

instance RepeatsAccepted.decidable (w : World size) (e : Event size) :
    Decidable (RepeatsAccepted w e) := by
  unfold RepeatsAccepted
  split <;> infer_instance

/-! ## One update -/

/-- Requests are queued for the session of configurations only. -/
def Opened (w : World size) : Prop :=
  w.client.mRequestQueue.mQueue ≠ [] → w.client.mRequestQueue.mSession = CONFIG_SESSION_ID

variable {w : World size}

/-- Where an update empties the queue, there was nothing in it. -/
theorem opened_queue (h : Opened w) :
    (if w.client.mRequestQueue.getSession ≠ CONFIG_SESSION_ID then
        w.client.mRequestQueue.reset CONFIG_SESSION_ID
      else w.client.mRequestQueue) = ⟨CONFIG_SESSION_ID, w.client.mRequestQueue.mQueue⟩ := by
  split
  · rename_i hclosed
    have hnil : w.client.mRequestQueue.mQueue = [] := by
      by_contra hne
      exact hclosed (h hne)
    rw [hnil]
    rfl
  · rename_i hopen
    have hsession : w.client.mRequestQueue.mSession = CONFIG_SESSION_ID := not_not.mp hopen
    rw [← hsession]

/-- An update with the configuration of the copy changes nothing. -/
theorem update_same {config : ConfigBytes size} {idArray : Bool}
    (hsame : w.client.mConfig = config) :
    w.client.locAPIGnssUpdateConfig config idArray w.ops =
      (LOCATION_ERROR_SUCCESS, w.client, none) := by
  simp only [ConfigClient.locAPIGnssUpdateConfig, if_pos hsame]

/-- Any other goes to the adapter, if there is one. -/
theorem update_other (h : Opened w) {config : ConfigBytes size} {idArray : Bool}
    (hother : w.client.mConfig ≠ config) (hapi : w.client.mLocationControlAPI = true) :
    w.client.locAPIGnssUpdateConfig config idArray w.ops =
      if idArray then (LOCATION_ERROR_SUCCESS,
        ⟨true, config, ⟨CONFIG_SESSION_ID, w.client.mRequestQueue.mQueue ++ [⟨w.ops⟩]⟩⟩,
          some config)
      else (LOCATION_ERROR_GENERAL_FAILURE, ⟨true, config, w.client.mRequestQueue⟩,
        some config) := by
  simp only [ConfigClient.locAPIGnssUpdateConfig, if_neg hother, if_pos hapi, opened_queue h,
    Requests.RequestQueue.push]
  rw [hapi]

theorem update_no_api {config : ConfigBytes size} {idArray : Bool}
    (hother : w.client.mConfig ≠ config) (hapi : w.client.mLocationControlAPI = false) :
    w.client.locAPIGnssUpdateConfig config idArray w.ops =
      (LOCATION_ERROR_GENERAL_FAILURE, w.client, none) := by
  simp only [ConfigClient.locAPIGnssUpdateConfig, if_neg hother, hapi, Bool.false_eq_true, if_false]

theorem truthful_step_iff (h : Opened w) (e : Event size) :
    Truthful w e ↔ RepeatsAccepted w e := by
  cases e with
  | collectiveResponse => exact Iff.rfl
  | updateConfig config idArray =>
    by_cases hsame : w.client.mConfig = config
    · simp only [Truthful, RepeatsAccepted, Accepts, World.step, update_same hsame]
      simp [hsame]
    · have hcondition : RepeatsAccepted w (.updateConfig config idArray) :=
        fun heq => absurd heq hsame
      refine iff_of_true ?_ hcondition
      cases hapi : w.client.mLocationControlAPI with
      | false =>
        simp only [Truthful, Accepts, World.step, update_no_api hsame hapi]
        simp
      | true =>
        simp only [Truthful, Accepts, World.step, update_other h hsame hapi]
        cases idArray <;> simp

theorem opened_step (h : Opened w) (e : Event size) : Opened (w.step e) := by
  cases e with
  | collectiveResponse =>
    simp only [Opened, World.step, ConfigClient.onCtrlCollectiveResponseCb]
    split
    · rename_i hopen
      exact fun _ => hopen
    · exact h
  | updateConfig config idArray =>
    simp only [Opened, World.step]
    by_cases hsame : w.client.mConfig = config
    · rw [update_same hsame]
      exact h
    · cases hapi : w.client.mLocationControlAPI with
      | false =>
        rw [update_no_api hsame hapi]
        exact h
      | true =>
        rw [update_other h hsame hapi]
        split
        · exact fun _ => rfl
        · exact h

/-- **Every success is for the configuration that was last accepted, and every
accepted one has its request, in exactly the runs in which the last configuration
passed on is repeated only after it was accepted.** -/
theorem truthful_iff_repeats_accepted (api : Bool) (es : List (Event size)) :
    Steps World.step Truthful (.init api) es ↔ Steps World.step RepeatsAccepted (.init api) es :=
  steps_iff_guard (I := Opened) (A := fun _ _ => True)
    (fun _ e h _ => truthful_step_iff h e) (fun _ e h _ _ => opened_step h e)
    (fun hne => absurd rfl hne) (steps_of_forall (fun _ _ => trivial) _ es)

/-- A configuration of 80 bytes without flags is refused, and taken for the accepted
one when it is sent again. -/
theorem refused_config_repeated :
    let config : ConfigBytes 80 := (Vector.replicate 80 0).set 0 80
    let es := [.updateConfig config false, .updateConfig config false]
    (run World.step (.init true) es).accepted = none ∧
      (((World.init true).step (.updateConfig config false)).client.locAPIGnssUpdateConfig config
        false 1).1 = LOCATION_ERROR_SUCCESS ∧
      ¬ Steps World.step Truthful (.init true) es := by
  decide

end

end DeviceHal.Location.ControlConfig
