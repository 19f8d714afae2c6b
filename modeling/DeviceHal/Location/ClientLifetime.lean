import DeviceHal.Lib.Run
import Std.Data.TreeMap.Lemmas
import Mathlib.Tactic

/-! # Lifetime of a `LocationAPI` object

An object is added to the interfaces that its callbacks are for, when it is
created and whenever its callbacks change. The destructor removes it from the
interfaces that its last callbacks are for. -/
namespace DeviceHal.Location.ClientLifetime
open DeviceHal.Lib.Run

/-! ## Callbacks and interfaces -/

/-- Which of the callbacks are set that these functions look at. -/
structure LocationCallbacks where
  capabilitiesCb : Bool
  responseCb : Bool
  collectiveResponseCb : Bool
  trackingCb : Bool
  batchingCb : Bool
  geofenceBreachCb : Bool
  geofenceStatusCb : Bool
  gnssNiCb : Bool
  gnssMeasurementsCb : Bool
deriving DecidableEq

/-- The interface libraries. -/
inductive Interface where
  | gnss
  | flp
  | geofence
deriving DecidableEq

def isGnssClient (locationCallbacks : LocationCallbacks) : Bool :=
  locationCallbacks.gnssNiCb || locationCallbacks.trackingCb || locationCallbacks.gnssMeasurementsCb

def isFlpClient (locationCallbacks : LocationCallbacks) : Bool :=
  locationCallbacks.trackingCb || locationCallbacks.batchingCb

def isGeofenceClient (locationCallbacks : LocationCallbacks) : Bool :=
  locationCallbacks.geofenceBreachCb || locationCallbacks.geofenceStatusCb

def isClient : Interface → LocationCallbacks → Bool
  | .gnss => isGnssClient
  | .flp => isFlpClient
  | .geofence => isGeofenceClient

/-- The order in which the functions go through the interfaces. -/
def interfaces : List Interface := [.gnss, .flp, .geofence]

/-- Objects are numbered as they are created. -/
abbrev LocationAPI := Nat

inductive InterfaceCall where
  /-- `initialize` of the interface. -/
  | initializeInterface
  | addClient (client : LocationAPI) (callbacks : LocationCallbacks)
  | removeClient (client : LocationAPI)
  | requestCapabilities (client : LocationAPI)
deriving DecidableEq

structure LocationAPIData where
  clientData : Std.TreeMap LocationAPI LocationCallbacks
  /-- The pointer to the interface is set. -/
  loaded : Interface → Bool
  loadFailed : Interface → Bool
  calls : List (Interface × InterfaceCall)
  /-- How many objects have been created. -/
  created : Nat

namespace LocationAPIData

def new : LocationAPIData := ⟨∅, fun _ => false, fun _ => false, [], 0⟩

def call (d : LocationAPIData) (k : Interface) (c : InterfaceCall) : LocationAPIData :=
  { d with calls := d.calls ++ [(k, c)] }

/-- A library that could not be loaded is not tried again. -/
def load (d : LocationAPIData) (available : Interface → Bool) (k : Interface) : LocationAPIData :=
  if d.loaded k = false ∧ d.loadFailed k = false then
    if available k then
      { d with loaded := fun k' => if k' = k then true else d.loaded k' }.call k .initializeInterface
    else { d with loadFailed := fun k' => if k' = k then true else d.loadFailed k' }
  else d

/-- One of the three blocks of `createInstance` and `updateCallbacks`; whether
the interface was given the client. -/
def addClientTo (d : LocationAPIData) (available : Interface → Bool) (client : LocationAPI)
    (callbacks : LocationCallbacks) (k : Interface) : LocationAPIData × Bool :=
  if isClient k callbacks then
    let d := d.load available k
    if d.loaded k then (d.call k (.addClient client callbacks), true) else (d, false)
  else (d, false)

/-- The capabilities are asked of the first interface only. -/
def addNewClientTo (available : Interface → Bool) (client : LocationAPI)
    (callbacks : LocationCallbacks) (s : LocationAPIData × Bool) (k : Interface) :
    LocationAPIData × Bool :=
  let (d, added) := s.1.addClientTo available client callbacks k
  if added = true ∧ s.2 = false then (d.call k (.requestCapabilities client), true) else (d, s.2)

/-- The callbacks that no client may lack. -/
def complete (callbacks : LocationCallbacks) : Bool :=
  callbacks.capabilitiesCb && callbacks.responseCb && callbacks.collectiveResponseCb

def createInstance (d : LocationAPIData) (available : Interface → Bool)
    (callbacks : LocationCallbacks) : LocationAPIData × Option LocationAPI :=
  if complete callbacks then
    let newLocationAPI := d.created
    let d := { d with created := d.created + 1 }
    let (d, _) := interfaces.foldl (addNewClientTo available newLocationAPI callbacks) (d, false)
    ({ d with clientData := d.clientData.insert newLocationAPI callbacks }, some newLocationAPI)
  else (d, none)

def updateCallbacks (d : LocationAPIData) (available : Interface → Bool) (client : LocationAPI)
    (callbacks : LocationCallbacks) : LocationAPIData :=
  if complete callbacks then
    let d := interfaces.foldl (fun d k => (d.addClientTo available client callbacks k).1) d
    { d with clientData := d.clientData.insert client callbacks }
  else d

def removeClientFrom (d : LocationAPIData) (client : LocationAPI) (callbacks : LocationCallbacks)
    (k : Interface) : LocationAPIData :=
  if isClient k callbacks && d.loaded k then d.call k (.removeClient client) else d

/-- The destructor. -/
def destroy (d : LocationAPIData) (client : LocationAPI) : LocationAPIData :=
  match d.clientData[client]? with
  | some callbacks =>
    let d := interfaces.foldl (removeClientFrom · client callbacks ·) d
    { d with clientData := d.clientData.erase client }
  | none => d

end LocationAPIData

/-! ## Runs -/

/-- A call, with the libraries that can be loaded at that time. -/
inductive ApiEvent where
  | createInstance (available : Interface → Bool) (callbacks : LocationCallbacks)
  | updateCallbacks (available : Interface → Bool) (client : LocationAPI)
      (callbacks : LocationCallbacks)
  | destroy (client : LocationAPI)

/-- The object exists: it has been created and not destroyed. -/
def Alive (d : LocationAPIData) (client : LocationAPI) : Prop := client ∈ d.clientData

instance (d : LocationAPIData) (client : LocationAPI) : Decidable (Alive d client) :=
  inferInstanceAs (Decidable (_ ∈ _))

/-- Calls on objects that do not exist are not made. -/
def step (d : LocationAPIData) : ApiEvent → LocationAPIData
  | .createInstance available callbacks => (d.createInstance available callbacks).1
  | .updateCallbacks available client callbacks =>
    if Alive d client then d.updateCallbacks available client callbacks else d
  | .destroy client => if Alive d client then d.destroy client else d

/-- What the interface's last call about the client says. -/
def heard (k : Interface) (client : LocationAPI) (has : Bool) (c : Interface × InterfaceCall) :
    Bool :=
  if c.1 = k then
    match c.2 with
    | .addClient o _ => if o = client then true else has
    | .removeClient o => if o = client then false else has
    | _ => has
  else has

/-- The interface has been given the client and not been told to remove it since. -/
def hasClient (d : LocationAPIData) (k : Interface) (client : LocationAPI) : Bool :=
  d.calls.foldl (heard k client) false

/-- No interface has an object that has been destroyed. -/
def NoneLeft (d : LocationAPIData) : Prop :=
  ∀ client < d.created, ¬ Alive d client → ∀ k, hasClient d k client = false

/-- An object that is destroyed is one for whose interfaces its last callbacks are. -/
def Covered (d : LocationAPIData) : ApiEvent → Prop
  | .destroy client => ∀ callbacks ∈ d.clientData[client]?, ∀ k,
      hasClient d k client = true → isClient k callbacks = true
  | _ => True

/-! ## Calls about one client -/

section
variable {d : LocationAPIData} {client : LocationAPI} {callbacks : LocationCallbacks}
  {available : Interface → Bool}

theorem hasClient_call (k k' : Interface) (o : LocationAPI) (c : InterfaceCall) :
    hasClient (d.call k' c) k o = heard k o (hasClient d k o) (k', c) := by
  simp only [hasClient, LocationAPIData.call, List.foldl_append, List.foldl_cons, List.foldl_nil]

/-- Interfaces with clients are loaded. -/
def Served (d : LocationAPIData) : Prop := ∀ k o, hasClient d k o = true → d.loaded k = true

/-- What the calls for one client change. -/
structure ServedFor (client : LocationAPI) (d d' : LocationAPIData) : Prop where
  clientData : d'.clientData = d.clientData
  created : d'.created = d.created
  others : ∀ k o, o ≠ client → hasClient d' k o = hasClient d k o
  served : Served d → Served d'

theorem ServedFor.refl (d : LocationAPIData) : ServedFor client d d :=
  ⟨rfl, rfl, fun _ _ _ => rfl, id⟩

theorem ServedFor.trans {d' d'' : LocationAPIData} (h : ServedFor client d d')
    (h' : ServedFor client d' d'') : ServedFor client d d'' :=
  ⟨h'.clientData.trans h.clientData, h'.created.trans h.created,
    fun k o ho => (h'.others k o ho).trans (h.others k o ho), h'.served ∘ h.served⟩

theorem ServedFor.foldl {f : LocationAPIData → Interface → LocationAPIData}
    (hf : ∀ d k, ServedFor client d (f d k)) (ks : List Interface) (d : LocationAPIData) :
    ServedFor client d (ks.foldl f d) := by
  induction ks generalizing d with
  | nil => exact ServedFor.refl d
  | cons k ks ih => exact (hf d k).trans (ih (f d k))

/-- A call that neither adds nor removes a client. -/
theorem served_other {c : InterfaceCall} (hc : ∀ k o has, heard k o has (k, c) = has)
    (k : Interface) : ServedFor client d (d.call k c) := by
  have hsame : ∀ k' o, hasClient (d.call k c) k' o = hasClient d k' o := by
    intro k' o
    rw [hasClient_call]
    by_cases hk : k' = k
    · rw [hk, hc]
    · simp [heard, Ne.symm hk]
  exact ⟨rfl, rfl, fun k' o _ => hsame k' o, fun h k' o ho => h k' o (hsame k' o ▸ ho)⟩

theorem served_load (k : Interface) : ServedFor client d (d.load available k) := by
  unfold LocationAPIData.load
  split
  · split
    · refine ServedFor.trans ?_ (served_other (fun k o has => by simp [heard]) k)
      refine ⟨rfl, rfl, fun _ _ _ => rfl, fun h k' o ho => ?_⟩
      show (if k' = k then true else d.loaded k') = true
      rw [show d.loaded k' = true from h k' o ho, ite_self]
    · exact ⟨rfl, rfl, fun _ _ _ => rfl, id⟩
  · exact ServedFor.refl d

theorem served_addClientTo (k : Interface) :
    ServedFor client d (d.addClientTo available client callbacks k).1 := by
  unfold LocationAPIData.addClientTo
  split
  · dsimp only
    split
    · rename_i hloaded
      refine (served_load k).trans ⟨rfl, rfl, fun k' o ho => ?_, fun h k' o hhas => ?_⟩
      · rw [hasClient_call]
        simp [heard, Ne.symm ho]
      · by_cases hk : k' = k
        · rw [hk]
          exact hloaded
        · rw [hasClient_call] at hhas
          simp only [heard, Ne.symm hk, ↓reduceIte] at hhas
          exact h k' o hhas
    · exact served_load k
  · exact ServedFor.refl d

theorem served_addNewClientTo (requested : Bool) (k : Interface) : ServedFor client d
    (LocationAPIData.addNewClientTo available client callbacks (d, requested) k).1 := by
  simp only [LocationAPIData.addNewClientTo]
  split
  · exact (served_addClientTo k).trans (served_other (fun k o has => by simp [heard]) k)
  · exact served_addClientTo k

theorem served_addNewClient (ks : List Interface) (requested : Bool) : ServedFor client d
    (ks.foldl (LocationAPIData.addNewClientTo available client callbacks) (d, requested)).1 := by
  induction ks generalizing d requested with
  | nil => exact ServedFor.refl d
  | cons k ks ih => exact (served_addNewClientTo requested k).trans (ih _)

/-! ## Removal -/

theorem loaded_removeClientFrom (k k' : Interface) :
    (d.removeClientFrom client callbacks k').loaded k = d.loaded k := by
  unfold LocationAPIData.removeClientFrom
  split <;> rfl

theorem hasClient_removeClientFrom (k k' : Interface) (o : LocationAPI) :
    hasClient (d.removeClientFrom client callbacks k') k o =
      if k' = k ∧ o = client ∧ (isClient k callbacks && d.loaded k) = true then false
      else hasClient d k o := by
  unfold LocationAPIData.removeClientFrom
  by_cases hk : k' = k
  · subst hk
    split
    · rename_i hremoves
      rw [hasClient_call]
      simp only [heard, ↓reduceIte, hremoves, and_true, true_and, eq_comm]
    · rename_i hkeeps
      simp [hkeeps]
  · have hkeeps : ¬ (k' = k ∧ o = client ∧ (isClient k callbacks && d.loaded k) = true) :=
      fun h => hk h.1
    rw [if_neg hkeeps]
    split
    · rw [hasClient_call]
      simp [heard, hk]
    · rfl

theorem served_removeClientFrom (k : Interface) :
    ServedFor client d (d.removeClientFrom client callbacks k) := by
  refine ⟨?_, ?_, fun k' o ho => ?_, fun h k' o hhas => ?_⟩
  · unfold LocationAPIData.removeClientFrom
    split <;> rfl
  · unfold LocationAPIData.removeClientFrom
    split <;> rfl
  · rw [hasClient_removeClientFrom, if_neg fun h => ho h.2.1]
  · rw [loaded_removeClientFrom]
    rw [hasClient_removeClientFrom] at hhas
    split at hhas
    · cases hhas
    · exact h k' o hhas

/-- All three removals: the client stays with the interfaces that its callbacks are not for. -/
theorem hasClient_removed (hs : Served d) (k : Interface) :
    hasClient (interfaces.foldl (LocationAPIData.removeClientFrom · client callbacks ·) d) k client =
      (hasClient d k client && !isClient k callbacks) := by
  have hserved := hs k client
  cases k <;>
    simp only [interfaces, List.foldl_cons, List.foldl_nil, hasClient_removeClientFrom,
      loaded_removeClientFrom, reduceCtorEq, false_and, true_and, ↓reduceIte, Bool.and_eq_true] <;>
    grind

/-! ## Destroyed objects -/

/-- Objects exist only once they are created, and interfaces know no others. -/
structure Numbered (d : LocationAPIData) : Prop where
  alive : ∀ client, Alive d client → client < d.created
  unborn : ∀ client, d.created ≤ client → ∀ k, hasClient d k client = false
  served : Served d

theorem numbered_new : Numbered .new where
  alive := fun client h => by simp [Alive, LocationAPIData.new] at h
  unborn := fun _ _ _ => rfl
  served := fun _ _ h => Bool.noConfusion h

/-- The client is created or updated: it exists afterwards. -/
theorem numbered_insert {d' : LocationAPIData} (hn : Numbered d) (hle : d.created ≤ d'.created)
    (hclient : client < d'.created) (hdata : d'.clientData = d.clientData)
    (hothers : ∀ k o, o ≠ client → hasClient d' k o = hasClient d k o) (hserved : Served d') :
    Numbered { d' with clientData := d'.clientData.insert client callbacks } where
  alive := by
    intro o ho
    rw [Alive, Std.TreeMap.mem_insert, Nat.compare_eq_eq, hdata] at ho
    rcases ho with rfl | ho
    · exact hclient
    · exact Nat.lt_of_lt_of_le (hn.alive o ho) hle
  unborn := by
    intro o ho k
    have hne : o ≠ client := fun h => absurd (h ▸ hclient) (Nat.not_lt.mpr ho)
    show hasClient d' k o = false
    rw [hothers k o hne]
    exact hn.unborn o (hle.trans ho) k
  served := hserved

theorem noneLeft_insert {d' : LocationAPIData} (hl : NoneLeft d) (hle : d'.created ≤ d.created + 1)
    (hnew : client = d.created ∨ d'.created = d.created) (hdata : d'.clientData = d.clientData)
    (hothers : ∀ k o, o ≠ client → hasClient d' k o = hasClient d k o) :
    NoneLeft { d' with clientData := d'.clientData.insert client callbacks } := by
  intro o ho hdead k
  rw [Alive, Std.TreeMap.mem_insert, Nat.compare_eq_eq, hdata, not_or] at hdead
  show hasClient d' k o = false
  rw [hothers k o (Ne.symm hdead.1)]
  have hlt : o < d'.created := ho
  have hold : o < d.created := by
    rcases hnew with rfl | hnew
    · exact Nat.lt_of_le_of_ne (Nat.le_of_lt_succ (hlt.trans_le hle)) (Ne.symm hdead.1)
    · exact hnew ▸ hlt
  exact hl o hold hdead.2 k

/-- The destructor of an object with these callbacks. -/
theorem destroy_spec (hn : Numbered d) (hl : NoneLeft d) (hdata : d.clientData[client]? = some callbacks) :
    Numbered (d.destroy client) ∧ (NoneLeft (d.destroy client) ↔
      ∀ k, hasClient d k client = true → isClient k callbacks = true) := by
  have halive : Alive d client := by
    rw [Alive, Std.TreeMap.mem_iff_isSome_getElem?, hdata]
    rfl
  have hserved : ServedFor client d
      (interfaces.foldl (LocationAPIData.removeClientFrom · client callbacks ·) d) :=
    ServedFor.foldl (fun _ k => served_removeClientFrom k) interfaces d
  have hremoved := @hasClient_removed d client callbacks hn.served
  simp only [LocationAPIData.destroy, hdata]
  generalize interfaces.foldl (LocationAPIData.removeClientFrom · client callbacks ·) d = d' at *
  have hdead : ∀ o, Alive { d' with clientData := d'.clientData.erase client } o ↔
      client ≠ o ∧ Alive d o := by
    intro o
    rw [Alive, Std.TreeMap.mem_erase, ne_eq, Nat.compare_eq_eq, hserved.clientData]
    rfl
  have hborn : client < d.created := hn.alive client halive
  constructor
  · refine ⟨fun o ho => ?_, fun o ho k => ?_, hserved.served hn.served⟩
    · exact hserved.created ▸ hn.alive o ((hdead o).mp ho).2
    · have hcreated : d.created ≤ o := hserved.created ▸ ho
      have hne : o ≠ client := fun h => absurd hborn (Nat.not_lt.mpr (h ▸ hcreated))
      exact (hserved.others k o hne).trans (hn.unborn o hcreated k)
  · constructor
    · intro hleft k hhas
      have hgone := hleft client (hserved.created ▸ hborn) (fun h => ((hdead client).mp h).1 rfl) k
      have hkept := (hremoved k).symm.trans hgone
      rw [hhas, Bool.true_and, Bool.not_eq_false'] at hkept
      exact hkept
    · intro hcovered o ho hnot k
      by_cases hne : o = client
      · subst hne
        refine (hremoved k).trans ?_
        cases hhas : hasClient d k o with
        | false => rfl
        | true => rw [hcovered k hhas]; rfl
      · refine (hserved.others k o hne).trans (hl o (hserved.created ▸ ho) (fun h => ?_) k)
        exact hnot ((hdead o).mpr ⟨Ne.symm hne, h⟩)

/-- The state and the property after one call. -/
theorem step_spec (hn : Numbered d) (hl : NoneLeft d) (e : ApiEvent) :
    Numbered (step d e) ∧ (NoneLeft (step d e) ↔ Covered d e) := by
  cases e with
  | createInstance available callbacks =>
    simp only [step, LocationAPIData.createInstance]
    split
    · have hserved : ServedFor d.created { d with created := d.created + 1 }
          (interfaces.foldl (LocationAPIData.addNewClientTo available d.created callbacks)
            ({ d with created := d.created + 1 }, false)).1 :=
        served_addNewClient interfaces false
      have hothers : ∀ k o, o ≠ d.created → hasClient _ k o = hasClient d k o := hserved.others
      refine ⟨numbered_insert hn ?_ ?_ hserved.clientData hothers (hserved.served hn.served),
        iff_of_true (noneLeft_insert hl ?_ (.inl rfl) hserved.clientData hothers) trivial⟩
      · exact hserved.created ▸ Nat.le_succ _
      · exact hserved.created ▸ Nat.lt_succ_self _
      · exact hserved.created.le
    · exact ⟨hn, iff_of_true hl trivial⟩
  | updateCallbacks available client callbacks =>
    simp only [step]
    split
    · rename_i halive
      simp only [LocationAPIData.updateCallbacks]
      split
      · have hserved : ServedFor client d _ := ServedFor.foldl
          (f := fun d k => (d.addClientTo available client callbacks k).1)
          (fun d k => served_addClientTo k) interfaces d
        refine ⟨numbered_insert hn hserved.created.ge ?_ hserved.clientData hserved.others
            (hserved.served hn.served),
          iff_of_true (noneLeft_insert hl ?_ (.inr hserved.created) hserved.clientData
            hserved.others) trivial⟩
        · exact hserved.created ▸ hn.alive client halive
        · exact hserved.created.le.trans (Nat.le_succ _)
      · exact ⟨hn, iff_of_true hl trivial⟩
    · exact ⟨hn, iff_of_true hl trivial⟩
  | destroy client =>
    cases hdata : d.clientData[client]? with
    | none =>
      have hdead : ¬ Alive d client := by
        rw [Alive, Std.TreeMap.mem_iff_isSome_getElem?, hdata]
        exact Bool.false_ne_true
      rw [step, if_neg hdead]
      refine ⟨hn, iff_of_true hl fun callbacks h => ?_⟩
      rw [hdata] at h
      cases h
    | some callbacks =>
      have halive : Alive d client := by
        rw [Alive, Std.TreeMap.mem_iff_isSome_getElem?, hdata]
        rfl
      obtain ⟨hnext, hiff⟩ := destroy_spec hn hl hdata
      rw [step, if_pos halive]
      refine ⟨hnext, hiff.trans ?_⟩
      simp only [Covered, hdata, Option.mem_some, forall_eq']

end

/-! ## Runs -/

/-- **The lifetime of a client.** After every call no interface has an object
that has been destroyed, in exactly the runs in which every object is destroyed
with callbacks that are for all interfaces that have it. -/
theorem none_left_iff (es : List ApiEvent) :
    Steps step (fun d e => NoneLeft (step d e)) .new es ↔ Steps step Covered .new es :=
  steps_iff_guard (I := fun d => Numbered d ∧ NoneLeft d) (A := fun _ _ => True)
    (fun _ e hi _ => (step_spec hi.1 hi.2 e).2)
    (fun _ e hi _ hq => ⟨(step_spec hi.1 hi.2 e).1, hq⟩)
    ⟨numbered_new, fun _ _ _ _ => rfl⟩ (steps_of_forall (fun _ _ => trivial) _ es)

/-- An object for geofences becomes one for tracking, and stays with the
geofence interface when it is destroyed. -/
theorem narrowed_client_left :
    let callbacks : LocationCallbacks := ⟨true, true, true, false, false, true, true, false, false⟩
    let narrowed : LocationCallbacks := ⟨true, true, true, true, false, false, false, false, false⟩
    let d := run step .new [.createInstance (fun _ => true) callbacks,
      .updateCallbacks (fun _ => true) 0 narrowed, .destroy 0]
    ¬ NoneLeft d ∧ hasClient d .geofence 0 = true := by
  refine ⟨fun h => ?_, by decide⟩
  exact absurd (h 0 (by decide) (by decide) .geofence) (by decide)

end DeviceHal.Location.ClientLifetime
