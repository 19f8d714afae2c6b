import DeviceHal.Utils.LocCfg

/-! # The entry of a process

`loc_read_process_conf` turns the parameters of a block into an entry of the
process table: whether the process is enabled on this platform, its groups and
its arguments. The features and the platform are the same for all blocks. -/
namespace DeviceHal.Utils.ProcessEntry
open DeviceHal.Lib.CText DeviceHal.Utils.LocCfg

/-! ## Splitting a string -/

/-- The loop of `loc_util_split_string`: `piece` is read, `num_split_strings` are complete. -/
def splitLoop (max_num_substrings : Nat) (delimiter : UInt8) :
    Bytes → Nat → Bytes → List Bytes × Bytes
  | piece, _, [] => ([piece], [])
  | piece, num_split_strings, b :: raw_string =>
    if b = delimiter then
      if num_split_strings + 1 < max_num_substrings then
        let (pieces, raw_string) :=
          splitLoop max_num_substrings delimiter [] (num_split_strings + 1) raw_string
        (piece :: pieces, 0 :: raw_string)
      else ([piece], 0 :: raw_string)
    else
      let (pieces, raw_string) :=
        splitLoop max_num_substrings delimiter (piece ++ [b]) num_split_strings raw_string
      (pieces, b :: raw_string)

/-- The strings, and the string that has been cut in place. -/
def loc_util_split_string (raw_string : Bytes) (max_num_substrings : Nat) (delimiter : UInt8) :
    List Bytes × Bytes :=
  splitLoop max_num_substrings delimiter [] 0 raw_string

def MAX_NUM_STRINGS : Nat := 20
def LOC_PROCESS_MAX_NUM_GROUPS : Nat := 20
def LOC_PROCESS_MAX_NUM_ARGS : Nat := 25
def LOC_PROCESS_MAX_ARG_STR_LENGTH : Nat := 32

/-! ## Features -/

/-- The feature strings of `loc_launcher_conf`. -/
structure Features where
  gtp_cell_proc : Bytes
  gtp_waa : Bytes
  gtp_cell : Bytes
  gtp_wifi : Bytes
  sap : Bytes
  odcpi : Bytes
  free_wifi_scan_inject : Bytes
  supl_wifi : Bytes
  wifi_supplicant_info : Bytes

def DISABLED_TEXT : Bytes := bytesOf "DISABLED".toList
def BASIC : Bytes := bytesOf "BASIC".toList
def PREMIUM : Bytes := bytesOf "PREMIUM".toList

/-- What the three modes set, and any other text. -/
def modeMask (premium basic disabled garbage : BitVec 32) (mode : Bytes) : BitVec 32 :=
  if mode = PREMIUM then premium
  else if mode = BASIC then basic
  else if mode = DISABLED_TEXT then disabled
  else garbage

namespace Features

def gtpWifiMask (f : Features) : BitVec 32 := modeMask 1#32 1#32 0#32 1#32 f.gtp_wifi

/-- On the application processor or on the modem. -/
def gtpCellMask (f : Features) : BitVec 32 :=
  let basic := if f.gtp_cell_proc = bytesOf ['A', 'P'] then 4#32 else 0x400#32
  modeMask basic basic 0#32 basic f.gtp_cell

def gtpWaaMask (f : Features) : BitVec 32 := modeMask 0x100#32 0x100#32 0#32 0#32 f.gtp_waa

def sapMask (f : Features) : BitVec 32 := modeMask 0x80#32 0x40#32 0#32 0x40#32 f.sap

def odcpiMask (f : Features) : BitVec 32 := modeMask 0x1000#32 0x1000#32 0#32 0#32 f.odcpi

def freeWifiMask (f : Features) : BitVec 32 :=
  modeMask 0x2000#32 0x2000#32 0#32 0#32 f.free_wifi_scan_inject

def suplWifiMask (f : Features) : BitVec 32 :=
  modeMask 0x4000#32 0x4000#32 0#32 0#32 f.supl_wifi

def supplicantMask (f : Features) : BitVec 32 :=
  modeMask 0x8000#32 0x8000#32 0#32 0#32 f.wifi_supplicant_info

def loc_service_mask (f : Features) : BitVec 32 :=
  f.gtpWifiMask ||| f.gtpCellMask ||| f.gtpWaaMask ||| f.sapMask ||| f.odcpiMask |||
    f.freeWifiMask ||| f.suplWifiMask ||| f.supplicantMask

end Features

/-- The settings of the device, with the group database. -/
structure Settings where
  features : Features
  platform_name : Bytes
  baseband_name : Bytes
  autoplatform_name : Bytes
  sglte_target : Int
  /-- The group id that `getpwnam` gives for a name. -/
  getpwnam : Bytes → Option Nat

/-! ## The parameters of a block -/

/-- The members of `loc_launcher_conf` that a block sets. -/
structure Conf where
  proc_name : Bytes
  proc_argument : Bytes
  proc_status : Bytes
  group_list : Bytes
  premium_feature : Int
  loc_feature_mask : Int
  platform_list : Bytes
  baseband : Bytes
  auto_platform : Bytes
deriving DecidableEq

inductive ProcStatus where
  | ENABLED
  | DISABLED
  | DISABLED_FROM_CONF
deriving DecidableEq

/-- An entry of the table; what follows in `args` is empty. -/
structure ProcessInfo where
  proc_status : ProcStatus
  name : Bytes
  group_list : List Nat
  num_groups : Nat
  args : List Bytes
  argumentString : Bytes
deriving DecidableEq

/-- The cleared memory with the defaults. -/
def ProcessInfo.zero : ProcessInfo :=
  ⟨.DISABLED, [], List.replicate LOC_PROCESS_MAX_NUM_GROUPS 0, 0, [], []⟩

/-! ## Groups -/

/-- The loop over the names from `i` on; `num_groups` is an `unsigned char`. -/
def groupLoop (getpwnam : Bytes → Option Nat) :
    List Bytes → Nat → List Nat × Nat → List Nat × Nat
  | [], _, s => s
  | name :: split_strings, i, (group_list, num_groups) =>
    match getpwnam name with
    | some pw_gid =>
      groupLoop getpwnam split_strings (i + 1) (group_list.set i pw_gid, (num_groups + 1) % 256)
    | none => groupLoop getpwnam split_strings (i + 1) (group_list, num_groups)

/-! ## Platforms -/

def ALL : Bytes := bytesOf ['a', 'l', 'l']
def EXCLUDE : Bytes := bytesOf "exclude".toList

/-- The two bits for a list of names: for all, all but some, or some. -/
def listMask (all found : BitVec 8) (excluded included : Bytes → Bool)
    (split_strings : List Bytes) : BitVec 8 :=
  let nstrings := split_strings.length
  if split_strings[0]? = some ALL then
    if nstrings = 1 ∨ (nstrings = 2 ∧ split_strings[1]? = some EXCLUDE) then all
    else if nstrings > 2 ∧ split_strings[1]? = some EXCLUDE then
      if (split_strings.drop 2).any excluded then 0#8 else found
    else 0#8
  else if split_strings.any included then found
  else 0#8

def Settings.targetMask (env : Settings) (split_strings : List Bytes) : BitVec 8 :=
  listMask 1#8 2#8 (· = env.platform_name) (· = env.platform_name) split_strings

/-- A list with "sglte" also includes a device that `gps.conf` says to be one. -/
def Settings.basebandMask (env : Settings) (split_strings : List Bytes) : BitVec 8 :=
  listMask 4#8 8#8 (· = env.baseband_name)
    (fun s => s = env.baseband_name || (s = bytesOf "sglte".toList && env.sglte_target ≠ 0))
    split_strings

/-- This list knows no exclusion. -/
def Settings.autoPlatformMask (env : Settings) (split_strings : List Bytes) : BitVec 8 :=
  if split_strings[0]? = some ALL then 0x10#8
  else if split_strings.any (· = env.autoplatform_name) then 0x20#8
  else 0#8

/-! ## Arguments -/

/-- What stands behind the last slash of an absolute path. -/
def baseName (name : Bytes) : Bytes :=
  if name.head? = some 47 then (name.reverse.takeWhile (· ≠ 47)).reverse else name

/-- A feature of the process: its argument and the mode that the service mask has for it. -/
def featureArgs (service : BitVec 32) (basic premium : BitVec 32) (arg : Bytes) : List Bytes :=
  if service &&& basic ≠ 0#32 then [arg, BASIC]
  else if service &&& premium ≠ 0#32 then [arg, PREMIUM]
  else [arg, DISABLED_TEXT]

def arg_gtp_waa : Bytes := bytesOf "--gtp-waa".toList
def arg_gtp_ap_cell : Bytes := bytesOf "--gtp-ap-cell".toList
def arg_gtp_modem_cell : Bytes := bytesOf "--gtp-modem-cell".toList
def arg_gtp_wifi : Bytes := bytesOf "--gtp-wifi".toList
def arg_sap : Bytes := bytesOf "--sap".toList

/-- One of the two processors has the feature and the other one has not. -/
def cellArgs (service : BitVec 32) : List Bytes :=
  if service &&& 4#32 ≠ 0#32 then [arg_gtp_ap_cell, BASIC, arg_gtp_modem_cell, DISABLED_TEXT]
  else if service &&& 8#32 ≠ 0#32 then
    [arg_gtp_ap_cell, PREMIUM, arg_gtp_modem_cell, DISABLED_TEXT]
  else if service &&& 0x400#32 ≠ 0#32 then
    [arg_gtp_modem_cell, BASIC, arg_gtp_ap_cell, DISABLED_TEXT]
  else if service &&& 0x800#32 ≠ 0#32 then
    [arg_gtp_modem_cell, PREMIUM, arg_gtp_ap_cell, DISABLED_TEXT]
  else [arg_gtp_ap_cell, DISABLED_TEXT, arg_gtp_modem_cell, DISABLED_TEXT]

/-- The arguments of a premium process that shares a feature with the service. -/
def premiumArgs (service mask : BitVec 32) : List Bytes :=
  (if mask &&& 3#32 ≠ 0#32 then featureArgs service 1#32 2#32 arg_gtp_wifi else []) ++
    (if mask &&& 0xc#32 ≠ 0#32 then cellArgs service else []) ++
    (if mask &&& 0x300#32 ≠ 0#32 then featureArgs service 0x100#32 0x200#32 arg_gtp_waa else []) ++
    (if mask &&& 0xc0#32 ≠ 0#32 then featureArgs service 0x40#32 0x80#32 arg_sap else [])

/-- The arguments of the configuration file take the places that are left. -/
def fileArgs (args : List Bytes) (proc_argument : Bytes) : List Bytes × Bytes :=
  if proc_argument ≠ [] then
    let (temp_args, argumentString) := loc_util_split_string
      (strlcpy proc_argument LOC_MAX_PARAM_STRING) (LOC_PROCESS_MAX_NUM_ARGS - args.length) 32
    (args ++ temp_args.map (strlcpy · LOC_PROCESS_MAX_ARG_STR_LENGTH), argumentString)
  else (args, [])

/-! ## The entry -/

/-- One of the parameters that every block has to give is empty. -/
def Conf.incomplete (conf : Conf) : Bool :=
  conf.proc_name = [] || conf.group_list = [] || conf.platform_list = [] || conf.baseband = [] ||
    conf.proc_status = [] || conf.auto_platform = []

/-- The block comes to its groups: nothing is missing, the process is not disabled and its
name is not too long. -/
def Conf.handled (conf : Conf) : Bool :=
  !conf.incomplete && conf.proc_status ≠ DISABLED_TEXT &&
    conf.proc_name.length + 1 ≤ LOC_MAX_PARAM_STRING

/-- What runs if the process is meant for this device. -/
def launch (env : Settings) (conf : Conf) (child_proc : ProcessInfo) : ProcessInfo :=
  let service := env.features.loc_service_mask
  let mask := BitVec.ofInt 32 conf.loc_feature_mask
  let name := strlcpy (baseName child_proc.name) LOC_PROCESS_MAX_ARG_STR_LENGTH
  let shared := mask &&& service ≠ 0#32
  let args := if conf.premium_feature ≠ 0 ∧ shared then name :: premiumArgs service mask
    else [name]
  let (args, argumentString) := fileArgs args conf.proc_argument
  { child_proc with
    proc_status :=
      if conf.premium_feature ≠ 0 ∧ ¬ shared then child_proc.proc_status else .ENABLED
    args
    argumentString }

/-- The body of the block loop behind the reader. -/
def childProc (env : Settings) (conf : Conf) : ProcessInfo :=
  if conf.incomplete then .zero
  else if conf.proc_status = DISABLED_TEXT then
    { ProcessInfo.zero with proc_status := .DISABLED_FROM_CONF }
  else if conf.proc_name.length + 1 > LOC_MAX_PARAM_STRING then .zero
  else
    let split := fun list => (loc_util_split_string list MAX_NUM_STRINGS 32).1
    let (group_list, num_groups) :=
      groupLoop env.getpwnam (split conf.group_list) 0 (ProcessInfo.zero.group_list, 0)
    let child_proc :=
      { ProcessInfo.zero with
        name := strlcpy conf.proc_name LOC_MAX_PARAM_STRING
        group_list
        num_groups }
    let config_mask := env.targetMask (split conf.platform_list) |||
      env.basebandMask (split conf.baseband) ||| env.autoPlatformMask (split conf.auto_platform)
    if config_mask &&& 0x03#8 ≠ 0#8 ∧ config_mask &&& 0x0c#8 ≠ 0#8 ∧
        config_mask &&& 0x30#8 ≠ 0#8 then launch env conf child_proc
    else child_proc

/-! ## The names of a list -/

theorem modifyHead_nil_append (pieces : List Bytes) : pieces.modifyHead ([] ++ ·) = pieces := by
  cases pieces <;> rfl

theorem splitLoop_eq {max_num_substrings : Nat} (delimiter : UInt8) (piece : Bytes) {k : Nat}
    (hk : k < max_num_substrings) (raw_string : Bytes) :
    (splitLoop max_num_substrings delimiter piece k raw_string).1 =
      ((raw_string.splitOn delimiter).modifyHead (piece ++ ·)).take (max_num_substrings - k) := by
  induction raw_string generalizing piece k with
  | nil =>
    rw [splitLoop, List.splitOn_nil, List.modifyHead_cons, List.append_nil,
      List.take_of_length_le (by simp; omega)]
  | cons b raw_string ih =>
    rw [splitLoop, List.splitOn_cons_eq_if_modifyHead]
    by_cases hb : b = delimiter
    · rw [if_pos hb, if_pos (beq_iff_eq.mpr hb), List.modifyHead_cons, List.append_nil]
      by_cases hmore : k + 1 < max_num_substrings
      · rw [if_pos hmore]
        show piece :: (splitLoop _ _ _ _ _).1 = _
        rw [ih [] hmore, show max_num_substrings - k = max_num_substrings - (k + 1) + 1 by omega,
          List.take_succ_cons, modifyHead_nil_append]
      · rw [if_neg hmore, show max_num_substrings - k = 1 by omega]
        rfl
    · rw [if_neg hb, if_neg (by simpa using hb)]
      show (splitLoop _ _ _ _ _).1 = _
      rw [ih (piece ++ [b]) hk]
      cases raw_string.splitOn delimiter <;> simp

/-- The strings are the pieces of the text, as far as there is room. -/
theorem loc_util_split_string_eq (raw_string : Bytes) {max_num_substrings : Nat}
    (hmax : 0 < max_num_substrings) (delimiter : UInt8) :
    (loc_util_split_string raw_string max_num_substrings delimiter).1 =
      (raw_string.splitOn delimiter).take max_num_substrings := by
  rw [loc_util_split_string, splitLoop_eq delimiter [] hmax, modifyHead_nil_append, Nat.sub_zero]

/-! ## The groups of an entry -/

/-- Entry `i` gets the id of name `i`, and stays zero if there is none. -/
theorem groupLoop_eq (getpwnam : Bytes → Option Nat) {names : List Bytes} {groups : List Nat}
    {m n : Nat} (hm : names.length ≤ m) (hn : n + names.length < 256) :
    groupLoop getpwnam names groups.length (groups ++ List.replicate m 0, n) =
      (groups ++ names.map (fun name => (getpwnam name).getD 0) ++
        List.replicate (m - names.length) 0, n + (names.filterMap getpwnam).length) := by
  induction names generalizing groups m n with
  | nil => simp [groupLoop]
  | cons name names ih =>
    obtain ⟨m, rfl⟩ : ∃ m', m = m' + 1 := ⟨m - 1, by rw [List.length_cons] at hm; omega⟩
    rw [List.length_cons] at hm hn
    cases hid : getpwnam name with
    | none =>
      have hnext := @ih (groups ++ [0]) m n (by omega) (by omega)
      rw [List.length_append, List.length_singleton, List.append_assoc] at hnext
      rw [groupLoop, hid]
      show groupLoop getpwnam names (groups.length + 1) (groups ++ 0 :: List.replicate m 0, n) = _
      rw [show groups ++ 0 :: List.replicate m 0 = groups ++ ([0] ++ List.replicate m 0) from rfl,
        hnext]
      simp [hid]
    | some pw_gid =>
      have hnext := @ih (groups ++ [pw_gid]) m (n + 1) (by omega) (by omega)
      rw [List.length_append, List.length_singleton, List.append_assoc] at hnext
      have hset : (groups ++ List.replicate (m + 1) 0).set groups.length pw_gid =
          groups ++ ([pw_gid] ++ List.replicate m 0) := by
        rw [List.set_append_right _ _ (Nat.le_refl _), Nat.sub_self]
        rfl
      rw [groupLoop, hid]
      show groupLoop getpwnam names (groups.length + 1) (_, (n + 1) % 256) = _
      rw [hset, Nat.mod_eq_of_lt (by omega), hnext]
      simp [hid]
      omega

/-- Where a known name stands in the list of the known ones: not behind its own place. -/
theorem exists_filterMap {α β : Type*} (f : α → Option β) {l : List α} {i : Nat} {a : α} {b : β}
    (ha : l[i]? = some a) (hb : f a = some b) : ∃ j ≤ i, (l.filterMap f)[j]? = some b := by
  induction l generalizing i with
  | nil => simp at ha
  | cons c l ih =>
    cases i with
    | zero =>
      rw [List.getElem?_cons_zero] at ha
      refine ⟨0, Nat.le_refl _, ?_⟩
      rw [Option.some.inj ha, List.filterMap_cons_some hb, List.getElem?_cons_zero]
    | succ i =>
      obtain ⟨j, hj, hget⟩ := ih (by simpa using ha)
      cases hc : f c with
      | none => exact ⟨j, by omega, by rw [List.filterMap_cons_none hc, hget]⟩
      | some d =>
        exact ⟨j + 1, by omega, by rw [List.filterMap_cons_some hc, List.getElem?_cons_succ, hget]⟩

/-- If all known ids are zero, so are all the entries. -/
theorem take_of_zero {α : Type*} {f : α → Option Nat} {l : List α}
    (hzero : ∀ a ∈ l, ∀ n, f a = some n → n = 0) :
    l.filterMap f = List.replicate (l.filterMap f).length 0 ∧
      l.map (fun a => (f a).getD 0) = List.replicate l.length 0 := by
  constructor
  · refine List.eq_replicate_iff.mpr ⟨rfl, fun n hn => ?_⟩
    obtain ⟨a, ha, hid⟩ := List.mem_filterMap.mp hn
    exact hzero a ha n hid
  · refine List.eq_replicate_iff.mpr ⟨List.length_map _, fun n hn => ?_⟩
    obtain ⟨a, ha, rfl⟩ := List.mem_map.mp hn
    cases hid : f a with
    | none => rfl
    | some n => exact hzero a ha n hid

/-- A zero in front of the entries: they are the known ids only if these are all zero. By
strong induction: an id is the entry before it, and that is an earlier id or zero. -/
theorem zero_of_take_cons {α : Type*} {f : α → Option Nat} {l : List α}
    (h : (0 :: l.map fun a => (f a).getD 0).take (l.filterMap f).length = l.filterMap f) (n : Nat)
    {id : Nat} (hid : (l.filterMap f)[n]? = some id) : id = 0 := by
  induction n using Nat.strong_induction_on generalizing id with
  | _ n ih =>
    have hlt : n < (l.filterMap f).length := (List.getElem?_eq_some_iff.mp hid).1
    rw [← h, List.getElem?_take_of_lt hlt] at hid
    cases n with
    | zero => exact (Option.some.inj hid).symm
    | succ i =>
      rw [List.getElem?_cons_succ, List.getElem?_map] at hid
      obtain ⟨a, ha, hget⟩ := Option.map_eq_some_iff.mp hid
      cases hfa : f a with
      | none =>
        rw [hfa] at hget
        exact hget.symm
      | some m =>
        obtain ⟨j, hj, hjd⟩ := exists_filterMap f ha hfa
        rw [hfa, Option.getD_some] at hget
        exact hget ▸ ih j (by omega) hjd

/-- With a zero for each name that is not known, the first entries are the known ids exactly
if only zeros follow the first of these zeros. -/
theorem take_getD_iff {α : Type*} (f : α → Option Nat) (l : List α) :
    (l.map fun a => (f a).getD 0).take (l.filterMap f).length = l.filterMap f ↔
      l.Pairwise fun a b => f a = none → ∀ n, f b = some n → n = 0 := by
  induction l with
  | nil => simp
  | cons a l ih =>
    rw [List.pairwise_cons, ← ih]
    cases ha : f a with
    | some n =>
      rw [List.filterMap_cons_some ha, List.map_cons, ha, Option.getD_some, List.length_cons,
        List.take_succ_cons, List.cons_inj_right]
      exact (and_iff_right fun b _ h => by cases h).symm
    | none =>
      rw [List.filterMap_cons_none ha, List.map_cons, ha, Option.getD_none]
      have hle := List.length_filterMap_le f l
      constructor
      · intro h
        have hzero : ∀ b ∈ l, ∀ n, f b = some n → n = 0 := by
          intro b hb n hn
          obtain ⟨i, hi⟩ := List.mem_iff_getElem?.mp hb
          obtain ⟨j, -, hj⟩ := exists_filterMap f hi hn
          exact zero_of_take_cons h j hj
        obtain ⟨hids, hentries⟩ := take_of_zero hzero
        refine ⟨fun b hb _ => hzero b hb, ?_⟩
        rw [hentries, hids, List.length_replicate, List.take_replicate, Nat.min_eq_left hle]
      · rintro ⟨hzero, -⟩
        obtain ⟨hids, hentries⟩ := take_of_zero fun b hb => hzero b hb rfl
        rw [hentries, hids, List.length_replicate, ← List.replicate_succ, List.take_replicate,
          Nat.min_eq_left (Nat.le_succ_of_le hle)]

theorem Conf.handled_iff (conf : Conf) : conf.handled = true ↔
    conf.incomplete = false ∧ conf.proc_status ≠ DISABLED_TEXT ∧
      conf.proc_name.length + 1 ≤ LOC_MAX_PARAM_STRING := by
  simp [Conf.handled, and_assoc]

/-- The groups of a block that comes to them. -/
theorem childProc_groups (env : Settings) {conf : Conf} (hhandled : conf.handled = true) :
    ((childProc env conf).group_list, (childProc env conf).num_groups) =
      groupLoop env.getpwnam (loc_util_split_string conf.group_list MAX_NUM_STRINGS 32).1 0
        (List.replicate LOC_PROCESS_MAX_NUM_GROUPS 0, 0) := by
  obtain ⟨hcomplete, hstatus, hname⟩ := conf.handled_iff.mp hhandled
  unfold childProc
  rw [if_neg (Bool.eq_false_iff.mp hcomplete), if_neg hstatus, if_neg (Nat.not_lt.mpr hname)]
  simp only
  split <;> rfl

/-- **The groups of a process.** The first entries are the ids of the known names exactly if
no name with an id other than zero stands behind a name that is not known. -/
theorem groups_iff (env : Settings) {conf : Conf} (hhandled : conf.handled = true)
    {names : List Bytes} (hnames : ∀ name ∈ names, 32 ∉ name)
    (hmax : names.length ≤ MAX_NUM_STRINGS)
    (hlist : conf.group_list = [32].intercalate names) :
    let info := childProc env conf
    info.group_list.take info.num_groups = names.filterMap env.getpwnam ↔
      names.Pairwise fun a b =>
        env.getpwnam a = none → ∀ gid, env.getpwnam b = some gid → gid = 0 := by
  intro info
  have hne : names ≠ [] := by
    rintro rfl
    have hcomplete := (conf.handled_iff.mp hhandled).1
    rw [List.intercalate_nil] at hlist
    simp [Conf.incomplete, hlist] at hcomplete
  have hsplit : (loc_util_split_string conf.group_list MAX_NUM_STRINGS 32).1 = names := by
    rw [loc_util_split_string_eq _ (by decide), hlist, List.splitOn_intercalate 32 hnames hne,
      List.take_of_length_le hmax]
  have hloop := @groupLoop_eq env.getpwnam names [] LOC_PROCESS_MAX_NUM_GROUPS 0 hmax
    (lt_of_le_of_lt (Nat.zero_add _).le (lt_of_le_of_lt hmax (by decide)))
  have hinfo := childProc_groups env hhandled
  rw [hsplit] at hinfo
  obtain ⟨hgroups, hcount⟩ := Prod.mk.inj (hinfo.trans hloop)
  show (childProc env conf).group_list.take (childProc env conf).num_groups = _ ↔ _
  rw [hgroups, hcount, List.nil_append, Nat.zero_add, List.take_append_of_le_length]
  · exact take_getD_iff env.getpwnam names
  · rw [List.length_map]
    exact List.length_filterMap_le ..

/-! A device with one known group, and a block for it. -/

def noFeatures : Features := ⟨[], [], [], [], [], [], [], [], []⟩

def oneGroup : Settings where
  features := noFeatures
  platform_name := []
  baseband_name := []
  autoplatform_name := []
  sglte_target := 0
  getpwnam name := if name = bytesOf "gps".toList then some 1021 else none

/-- A process for every device, with the groups of the list. -/
def withGroups (group_list : Bytes) : Conf :=
  ⟨bytesOf ['p'], [], bytesOf "ENABLED".toList, group_list, 0, 0, ALL, ALL, ALL⟩

/-- An unknown name behind the known one. -/
theorem groups_iff_known_first :
    (childProc oneGroup (withGroups (bytesOf "gps none".toList))).group_list.take
        (childProc oneGroup (withGroups (bytesOf "gps none".toList))).num_groups =
      [bytesOf "gps".toList, bytesOf "none".toList].filterMap oneGroup.getpwnam ↔
    [bytesOf "gps".toList, bytesOf "none".toList].Pairwise fun a b =>
      oneGroup.getpwnam a = none → ∀ gid, oneGroup.getpwnam b = some gid → gid = 0 :=
  groups_iff oneGroup (by decide) (by decide) (by decide) (by decide)

/-- The unknown name leaves a zero, and the count does not reach the known one behind it. -/
theorem unknown_group_first :
    let conf := withGroups (bytesOf "none gps".toList)
    let info := childProc oneGroup conf
    conf.handled = true ∧
      conf.group_list = [32].intercalate [bytesOf "none".toList, bytesOf "gps".toList] ∧
      [bytesOf "none".toList, bytesOf "gps".toList].filterMap oneGroup.getpwnam = [1021] ∧
      info.num_groups = 1 ∧ info.group_list.take info.num_groups = [0] ∧
      info.group_list.take info.num_groups ≠
        [bytesOf "none".toList, bytesOf "gps".toList].filterMap oneGroup.getpwnam := by
  decide

end DeviceHal.Utils.ProcessEntry
