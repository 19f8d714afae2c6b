import DeviceHal.Core.AdapterTable

/-! # The engine's event mask

`LocApiBase` opens the engine with the events that any adapter in its table wants.
It does so at once when an adapter changes its mask, and by a message when the
table changes or the engine comes up. Adapters come and go, and messages are
processed, in any order. -/
namespace DeviceHal.Core.EngineMask
open DeviceHal.Lib.Run DeviceHal.Core.AdapterTable

variable {A : Type}

/-! ## The loops over the table -/

/-- The adapters of `TO_ALL_ADAPTERS` from `i` on, in the order of its calls. -/
def toAllLoop (s : LocApiBase A) : Nat → Nat → List A
  | 0, _ => []
  | fuel + 1, i =>
    if i < MAX_ADAPTERS then
      match s.slot i with
      | some adapter => adapter :: toAllLoop s fuel (i + 1)
      | none => []
    else []

def TO_ALL_ADAPTERS (s : LocApiBase A) : List A := toAllLoop s MAX_ADAPTERS 0

/-- The adapters that `TO_1ST_HANDLING_ADAPTER` calls; `call` is the answer of each. -/
def firstHandlingLoop (s : LocApiBase A) (call : A → Bool) : Nat → Nat → List A
  | 0, _ => []
  | fuel + 1, i =>
    if i < MAX_ADAPTERS then
      match s.slot i with
      | some adapter =>
        adapter :: if call adapter then [] else firstHandlingLoop s call fuel (i + 1)
      | none => []
    else []

def TO_1ST_HANDLING_ADAPTER (s : LocApiBase A) (call : A → Bool) : List A :=
  firstHandlingLoop s call MAX_ADAPTERS 0

/-! ## The engine -/

abbrev LOC_API_ADAPTER_EVENT_MASK_T := BitVec 64

inductive LocRegistrationMaskStatus where
  | LOC_REGISTRATION_MASK_ENABLED
  | LOC_REGISTRATION_MASK_DISABLED
  | LOC_REGISTRATION_MASK_SET

inductive Msg where
  | LocOpenMsg
  | LocSsrMsg

structure Api (A : Type) where
  mLocAdapters : LocApiBase A
  /-- The mask of each adapter. -/
  mEvtMask : A → LOC_API_ADAPTER_EVENT_MASK_T
  mExcludedMask : LOC_API_ADAPTER_EVENT_MASK_T
  /-- What the engine was opened with, if it was not closed since. -/
  engine : Option LOC_API_ADAPTER_EVENT_MASK_T
  /-- What is to be processed, oldest first. -/
  mMsgTask : List Msg

inductive Event (A : Type) where
  /-- The constructor and the destructor of an adapter. -/
  | construct (adapter : A) (mask : LOC_API_ADAPTER_EVENT_MASK_T)
  | destruct (adapter : A)
  | updateEvtMask (adapter : A) (event : LOC_API_ADAPTER_EVENT_MASK_T)
      (status : LocRegistrationMaskStatus)
  | handleEngineUpEvent
  /-- The oldest message is processed. -/
  | proc

namespace Api

def new (A : Type) (mExcludedMask : LOC_API_ADAPTER_EVENT_MASK_T) : Api A :=
  ⟨.new A, fun _ => 0#64, mExcludedMask, none, []⟩

def getEvtMask (s : Api A) : LOC_API_ADAPTER_EVENT_MASK_T :=
  (TO_ALL_ADAPTERS s.mLocAdapters).foldl (fun mask adapter => mask ||| s.mEvtMask adapter) 0#64 &&&
    ~~~s.mExcludedMask

def open_ (s : Api A) (mask : LOC_API_ADAPTER_EVENT_MASK_T) : Api A :=
  { s with engine := some mask }

def close (s : Api A) : Api A := { s with engine := none }

def sendMsg (s : Api A) (msg : Msg) : Api A := { s with mMsgTask := s.mMsgTask ++ [msg] }

/-- A call of `addAdapter` or `removeAdapter`. -/
def call (s : Api A) : Call → Api A
  | .close => s.close
  | .sendLocOpenMsg => s.sendMsg .LocOpenMsg

def procMsg (s : Api A) : Msg → Api A
  | .LocOpenMsg => s.open_ s.getEvtMask
  | .LocSsrMsg =>
    let s := s.close
    s.open_ s.getEvtMask

def registrationMask (mEvtMask event : LOC_API_ADAPTER_EVENT_MASK_T) :
    LocRegistrationMaskStatus → LOC_API_ADAPTER_EVENT_MASK_T
  | .LOC_REGISTRATION_MASK_ENABLED => mEvtMask ||| event
  | .LOC_REGISTRATION_MASK_DISABLED => mEvtMask &&& ~~~event
  | .LOC_REGISTRATION_MASK_SET => event

variable [DecidableEq A]

def setMask (s : Api A) (adapter : A) (mask : LOC_API_ADAPTER_EVENT_MASK_T) : Api A :=
  { s with mEvtMask := Function.update s.mEvtMask adapter mask }

def step (s : Api A) : Event A → Api A
  | .construct adapter mask =>
    let s := s.setMask adapter mask
    let (mLocAdapters, calls) := s.mLocAdapters.addAdapter (some adapter)
    calls.foldl call { s with mLocAdapters }
  | .destruct adapter =>
    let (mLocAdapters, calls) := s.mLocAdapters.removeAdapter (some adapter)
    calls.foldl call { s with mLocAdapters }
  | .updateEvtMask adapter event status =>
    let s := s.setMask adapter (registrationMask (s.mEvtMask adapter) event status)
    s.open_ s.getEvtMask
  | .handleEngineUpEvent => s.sendMsg .LocSsrMsg
  | .proc =>
    match s.mMsgTask with
    | [] => s
    | msg :: mMsgTask => { s with mMsgTask }.procMsg msg

end Api

/-! ## What the loops do -/

section
variable {s : LocApiBase A} {adapters : List A}

theorem toAllLoop_eq (h : Holds s adapters) {fuel i : Nat} (hfuel : fuel + i = MAX_ADAPTERS) :
    toAllLoop s fuel i = adapters.drop i := by
  have hle := h.length_le
  induction fuel generalizing i with
  | zero => rw [List.drop_eq_nil_of_le (by omega)]; rfl
  | succ fuel ih =>
    rw [toAllLoop, if_pos (by omega), h.slot_eq]
    by_cases hi : i < adapters.length
    · rw [List.getElem?_eq_getElem hi, List.drop_eq_getElem_cons hi]
      exact congrArg _ (ih (by omega))
    · rw [List.getElem?_eq_none (Nat.not_lt.mp hi), List.drop_eq_nil_of_le (Nat.not_lt.mp hi)]

theorem toAll_eq (h : Holds s adapters) : TO_ALL_ADAPTERS s = adapters := toAllLoop_eq h rfl

/-- The adapters up to the first one that handles the call. -/
def upTo (call : A → Bool) : List A → List A
  | [] => []
  | adapter :: rest => adapter :: if call adapter then [] else upTo call rest

theorem firstHandlingLoop_eq (h : Holds s adapters) (call : A → Bool) {fuel i : Nat}
    (hfuel : fuel + i = MAX_ADAPTERS) :
    firstHandlingLoop s call fuel i = upTo call (adapters.drop i) := by
  have hle := h.length_le
  induction fuel generalizing i with
  | zero => rw [List.drop_eq_nil_of_le (by omega)]; rfl
  | succ fuel ih =>
    rw [firstHandlingLoop, if_pos (by omega), h.slot_eq]
    by_cases hi : i < adapters.length
    · rw [List.getElem?_eq_getElem hi, List.drop_eq_getElem_cons hi, upTo, ← ih (by omega)]
    · rw [List.getElem?_eq_none (Nat.not_lt.mp hi), List.drop_eq_nil_of_le (Nat.not_lt.mp hi)]
      rfl

theorem mem_slots_iff (h : Holds s adapters) (a : A) : some a ∈ s.mLocAdapters ↔ a ∈ adapters := by
  rw [h.table_eq]
  simp

theorem prefix_of_upTo (call : A → Bool) (adapters : List A) : upTo call adapters <+: adapters := by
  induction adapters with
  | nil => exact List.prefix_rfl
  | cons a rest ih =>
    rw [upTo, List.cons_prefix_cons]
    refine ⟨rfl, ?_⟩
    split
    · exact List.nil_prefix
    · exact ih

/-- Only the last one may handle the call. -/
theorem dropLast_upTo (call : A → Bool) (adapters : List A) :
    ∀ a ∈ (upTo call adapters).dropLast, call a = false := by
  induction adapters with
  | nil => simp [upTo]
  | cons b rest ih =>
    intro a ha
    by_cases hb : call b = true
    · simp [upTo, hb] at ha
    · rw [upTo, if_neg hb] at ha
      cases hrest : upTo call rest with
      | nil =>
        rw [hrest] at ha
        cases ha
      | cons c more =>
        rw [hrest, List.dropLast_cons_cons] at ha
        rcases List.mem_cons.mp ha with rfl | ha
        · exact Bool.eq_false_iff.mpr hb
        · exact ih a (hrest ▸ ha)

theorem filter_upTo (call : A → Bool) (adapters : List A) :
    (upTo call adapters).filter call = (adapters.find? call).toList := by
  induction adapters with
  | nil => rfl
  | cons a rest ih =>
    by_cases ha : call a = true
    · simp [upTo, ha]
    · simp [upTo, ha, ih]

end

/-! ## Steps -/

/-- The table has no holes, and the engine has the mask of its adapters or is about to get it. -/
def Follows (s : Api A) : Prop :=
  ∃ adapters, Holds s.mLocAdapters adapters ∧
    (s.mMsgTask = [] → match s.engine with
      | some mask => mask = s.getEvtMask
      | none => adapters = [])

theorem getEvtMask_eq {s : Api A} {adapters : List A} (h : Holds s.mLocAdapters adapters) :
    s.getEvtMask = adapters.foldl (fun mask adapter => mask ||| s.mEvtMask adapter) 0#64 &&&
      ~~~s.mExcludedMask := by
  rw [Api.getEvtMask, toAll_eq h]

theorem getLsbD_foldl_or (masks : A → LOC_API_ADAPTER_EVENT_MASK_T) (adapters : List A)
    (mask : LOC_API_ADAPTER_EVENT_MASK_T) (k : Nat) :
    (adapters.foldl (fun mask adapter => mask ||| masks adapter) mask).getLsbD k = true ↔
      mask.getLsbD k = true ∨ ∃ a ∈ adapters, (masks a).getLsbD k = true := by
  induction adapters generalizing mask with
  | nil => simp
  | cons a adapters ih =>
    rw [List.foldl_cons, ih, BitVec.getLsbD_or, Bool.or_eq_true, List.exists_mem_cons_iff, or_assoc]

theorem getEvtMask_bit {s : Api A} {adapters : List A} (h : Holds s.mLocAdapters adapters)
    (k : Nat) : s.getEvtMask.getLsbD k = true ↔
      (∃ a, some a ∈ s.mLocAdapters.mLocAdapters ∧ (s.mEvtMask a).getLsbD k = true) ∧
        k < 64 ∧ s.mExcludedMask.getLsbD k = false := by
  rw [getEvtMask_eq h, BitVec.getLsbD_and, Bool.and_eq_true, getLsbD_foldl_or, BitVec.getLsbD_not]
  simp [mem_slots_iff h]

theorem follows_open {s : Api A} {adapters : List A} (h : Holds s.mLocAdapters adapters) :
    Follows (s.open_ s.getEvtMask) := ⟨adapters, h, fun _ => rfl⟩

theorem follows_sendMsg {s : Api A} {adapters : List A} (h : Holds s.mLocAdapters adapters)
    (msg : Msg) : Follows (s.sendMsg msg) := by
  refine ⟨adapters, h, fun hnil => ?_⟩
  exact absurd hnil (List.append_ne_nil_of_right_ne_nil _ (List.cons_ne_nil _ _))

section
variable [DecidableEq A]

/-- An adapter that is constructed is not in the table: it was not there before. -/
def Fresh (s : Api A) : Event A → Prop
  | .construct adapter _ => some adapter ∉ s.mLocAdapters.mLocAdapters
  | _ => True

/-- Only the masks of the adapters in the table count. -/
theorem getEvtMask_setMask {s : Api A} {adapters : List A} (h : Holds s.mLocAdapters adapters)
    {adapter : A} (hnot : adapter ∉ adapters) (mask : LOC_API_ADAPTER_EVENT_MASK_T) :
    (s.setMask adapter mask).getEvtMask = s.getEvtMask := by
  have hsame : ∀ (l : List A) (m : LOC_API_ADAPTER_EVENT_MASK_T), adapter ∉ l →
      l.foldl (fun m a => m ||| Function.update s.mEvtMask adapter mask a) m =
        l.foldl (fun m a => m ||| s.mEvtMask a) m := by
    intro l
    induction l with
    | nil => exact fun _ _ => rfl
    | cons a l ih =>
      intro m hl
      rw [List.mem_cons, not_or] at hl
      rw [List.foldl_cons, List.foldl_cons, Function.update_of_ne (Ne.symm hl.1), ih _ hl.2]
  rw [getEvtMask_eq h, getEvtMask_eq (s := s.setMask adapter mask) h]
  exact congrArg (· &&& _) (hsame adapters 0#64 hnot)

theorem follows_step (s : Api A) (e : Event A) (h : Follows s) (hfresh : Fresh s e) :
    Follows (s.step e) := by
  obtain ⟨adapters, hholds, hengine⟩ := h
  cases e with
  | construct adapter mask =>
    have hnot : adapter ∉ adapters := mt (mem_slots_iff hholds adapter).mpr hfresh
    show Follows (((s.setMask adapter mask).mLocAdapters.addAdapter (some adapter)).2.foldl Api.call
      { s.setMask adapter mask with
        mLocAdapters := (s.mLocAdapters.addAdapter (some adapter)).1 })
    by_cases hfull : adapters.length = MAX_ADAPTERS
    · have hadd : s.mLocAdapters.addAdapter (some adapter) = (s.mLocAdapters, []) := by
        rw [addAdapter_eq hholds, if_pos (.inr hfull)]
      rw [show (s.setMask adapter mask).mLocAdapters = s.mLocAdapters from rfl, hadd]
      refine ⟨adapters, hholds, fun hnil => ?_⟩
      have hnow := hengine hnil
      show match s.engine with
        | some mask' => mask' = (s.setMask adapter mask).getEvtMask
        | none => adapters = []
      rwa [getEvtMask_setMask hholds hnot]
    · have hlt : adapters.length < MAX_ADAPTERS := lt_of_le_of_ne hholds.length_le hfull
      have hadd := addAdapter_eq hholds adapter
      rw [if_neg (not_or.mpr ⟨hnot, hfull⟩)] at hadd
      have hholds' := hholds.addAdapter hnot hlt
      rw [show (s.setMask adapter mask).mLocAdapters = s.mLocAdapters from rfl, hadd]
      rw [hadd] at hholds'
      exact follows_sendMsg hholds' .LocOpenMsg
  | destruct adapter =>
    show Follows ((s.mLocAdapters.removeAdapter (some adapter)).2.foldl Api.call
      { s with mLocAdapters := (s.mLocAdapters.removeAdapter (some adapter)).1 })
    by_cases hin : adapter ∈ adapters
    · obtain ⟨table, adapters', hremove, hholds', hperm⟩ := removeAdapter_of_mem hholds hin
      rw [hremove]
      by_cases hlast : adapters.erase adapter = []
      · rw [if_pos hlast]
        exact ⟨adapters', hholds', fun _ => List.perm_nil.mp (hlast ▸ hperm)⟩
      · rw [if_neg hlast]
        exact follows_sendMsg hholds' .LocOpenMsg
    · rw [removeAdapter_of_not_mem hholds hin]
      exact ⟨adapters, hholds, hengine⟩
  | updateEvtMask adapter event status => exact follows_open hholds
  | handleEngineUpEvent => exact follows_sendMsg hholds .LocSsrMsg
  | proc =>
    cases hq : s.mMsgTask with
    | nil =>
      rw [show s.step .proc = s by simp [Api.step, hq]]
      exact ⟨adapters, hholds, hengine⟩
    | cons msg rest =>
      rw [show s.step .proc = { s with mMsgTask := rest }.procMsg msg by simp [Api.step, hq]]
      cases msg with
      | LocOpenMsg => exact follows_open (s := { s with mMsgTask := rest }) hholds
      | LocSsrMsg => exact follows_open (s := { s with mMsgTask := rest, engine := none }) hholds

/-- **The engine has the events that its adapters want.** Adapters are constructed, change their
masks and are destructed, the engine comes up and messages are processed in any order: whenever no
message is left, an open engine has exactly the events that an adapter in the table wants and that
are not excluded, and an engine that is not open has no adapter. -/
theorem engine_mask_follows (mExcludedMask : LOC_API_ADAPTER_EVENT_MASK_T) (es : List (Event A))
    (hfresh : Steps Api.step Fresh (.new A mExcludedMask) es)
    (hdone : (run Api.step (.new A mExcludedMask) es).mMsgTask = []) :
    let s := run Api.step (.new A mExcludedMask) es
    match s.engine with
    | some mask => ∀ k, mask.getLsbD k = true ↔
      (∃ a, some a ∈ s.mLocAdapters.mLocAdapters ∧ (s.mEvtMask a).getLsbD k = true) ∧
        k < 64 ∧ s.mExcludedMask.getLsbD k = false
    | none => ∀ a, some a ∉ s.mLocAdapters.mLocAdapters := by
  have hstart : Follows (Api.new A mExcludedMask) := ⟨[], holds_new, fun _ => rfl⟩
  obtain ⟨adapters, hholds, hengine⟩ := inv_run follows_step hstart hfresh
  have hnow := hengine hdone
  intro s
  cases he : s.engine with
  | some mask =>
    have hmask : mask = s.getEvtMask := by rwa [he] at hnow
    rw [hmask]
    exact getEvtMask_bit hholds
  | none =>
    have hnil : adapters = [] := by rwa [he] at hnow
    intro a ha
    have hmem := (mem_slots_iff hholds a).mp ha
    rw [hnil] at hmem
    cases hmem

/-- An adapter wants events 0 and 1, of which 1 is excluded, and is the last to go while a message
is left: the engine is opened again after it was closed, for no event. -/
theorem engine_mask_follows_stale :
    let s := run Api.step (.new Nat 2#64) [.construct 7 3#64, .destruct 7, .proc]
    s.engine = some 0#64 ∧ ∀ k, (0#64).getLsbD k = true ↔
      (∃ a, some a ∈ s.mLocAdapters.mLocAdapters ∧ (s.mEvtMask a).getLsbD k = true) ∧
        k < 64 ∧ s.mExcludedMask.getLsbD k = false := by
  have h := engine_mask_follows (A := Nat) 2#64 [.construct 7 3#64, .destruct 7, .proc]
    ⟨show some 7 ∉ List.replicate MAX_ADAPTERS none by decide, trivial, trivial, trivial⟩ rfl
  exact ⟨rfl, h⟩

/-! ## Reports and requests -/

theorem holds_step (s : Api A) (e : Event A) (h : ∃ adapters, Holds s.mLocAdapters adapters) :
    ∃ adapters, Holds (s.step e).mLocAdapters adapters := by
  obtain ⟨adapters, hholds⟩ := h
  have hcalls : ∀ (calls : List Call) (s : Api A),
      (calls.foldl Api.call s).mLocAdapters = s.mLocAdapters := by
    intro calls
    induction calls with
    | nil => exact fun _ => rfl
    | cons call calls ih => exact fun s => (ih (s.call call)).trans (by cases call <;> rfl)
  cases e with
  | construct adapter mask =>
    have htable : (s.step (.construct adapter mask)).mLocAdapters =
        (s.mLocAdapters.addAdapter (some adapter)).1 := hcalls _ _
    rw [htable]
    by_cases hfull : adapter ∈ adapters ∨ adapters.length = MAX_ADAPTERS
    · rw [addAdapter_eq hholds, if_pos hfull]
      exact ⟨adapters, hholds⟩
    · rw [not_or] at hfull
      exact ⟨_, hholds.addAdapter hfull.1 (lt_of_le_of_ne hholds.length_le hfull.2)⟩
  | destruct adapter =>
    have htable : (s.step (.destruct adapter)).mLocAdapters =
        (s.mLocAdapters.removeAdapter (some adapter)).1 := hcalls _ _
    rw [htable]
    by_cases hin : adapter ∈ adapters
    · obtain ⟨table, adapters', hremove, hholds', -⟩ := removeAdapter_of_mem hholds hin
      exact ⟨adapters', by rw [hremove]; exact hholds'⟩
    · rw [removeAdapter_of_not_mem hholds hin]
      exact ⟨adapters, hholds⟩
  | updateEvtMask | handleEngineUpEvent => exact ⟨adapters, hholds⟩
  | proc =>
    refine ⟨adapters, ?_⟩
    unfold Api.step
    dsimp only
    split
    · exact hholds
    · cases ‹Msg› <;> exact hholds

/-- **Who gets a report and who a request.** However the adapters have come and gone, a report goes
to each adapter in the table exactly once. A request goes to the same adapters, one after the
other, up to the first one that handles it: to none behind it, and to one that handles it if there
is one. -/
theorem reports_and_requests (mExcludedMask : LOC_API_ADAPTER_EVENT_MASK_T) (es : List (Event A))
    (call : A → Bool) :
    let s := (run Api.step (.new A mExcludedMask) es).mLocAdapters
    (TO_ALL_ADAPTERS s).Nodup ∧ (∀ a, a ∈ TO_ALL_ADAPTERS s ↔ some a ∈ s.mLocAdapters) ∧
      TO_1ST_HANDLING_ADAPTER s call <+: TO_ALL_ADAPTERS s ∧
      (∀ a ∈ (TO_1ST_HANDLING_ADAPTER s call).dropLast, call a = false) ∧
      (TO_1ST_HANDLING_ADAPTER s call).filter call = ((TO_ALL_ADAPTERS s).find? call).toList ∧
      ((∃ a ∈ TO_1ST_HANDLING_ADAPTER s call, call a) ↔ ∃ a, some a ∈ s.mLocAdapters ∧ call a) := by
  intro s
  have hstart : ∃ adapters, Holds (Api.new A mExcludedMask).mLocAdapters adapters := ⟨[], holds_new⟩
  obtain ⟨adapters, hholds⟩ := inv_run_any holds_step es hstart
  have hfirst : TO_1ST_HANDLING_ADAPTER s call = upTo call adapters :=
    firstHandlingLoop_eq hholds call rfl
  have hfilter := filter_upTo call adapters
  rw [toAll_eq hholds, hfirst]
  refine ⟨hholds.nodup, fun a => (mem_slots_iff hholds a).symm, prefix_of_upTo call adapters,
    dropLast_upTo call adapters, hfilter, ?_⟩
  have hslots : ∀ a, some a ∈ s.mLocAdapters ↔ a ∈ adapters := mem_slots_iff hholds
  simp only [hslots]
  constructor
  · rintro ⟨a, ha, hcall⟩
    exact ⟨a, (prefix_of_upTo call adapters).subset ha, hcall⟩
  · rintro ⟨a, ha, hcall⟩
    obtain ⟨b, hb⟩ := Option.isSome_iff_exists.mp (List.find?_isSome.mpr ⟨a, ha, hcall⟩)
    have hmem : b ∈ (upTo call adapters).filter call := by
      rw [hfilter, hb]
      exact List.mem_singleton_self b
    exact ⟨b, List.mem_filter.mp hmem⟩

end

end DeviceHal.Core.EngineMask
