import DeviceHal.Utils.LocCfg

/-! # The launcher configuration in memory

The parameters of a process block are read into the fields of one structure,
`loc_launcher_conf`. A string is copied with room for one byte more than its
field has: a value of `LOC_MAX_PARAM_STRING` characters puts its NUL into the
field behind. For values that fit, the structure is as good as a variable for
each parameter. -/
namespace DeviceHal.Utils.LauncherConf
open DeviceHal.Lib.CText DeviceHal.Utils.LocCfg

variable {F : Type}

/-! ## The structure -/

/-- The members of `loc_launcher_conf`. -/
inductive Field where
  | proc_name
  | proc_argument
  | proc_status
  | group_list
  | premium_feature
  | loc_feature_mask
  | platform_list
  | baseband
  | sglte_target
  | feature_gtp_cell_proc
  | feature_gtp_waa
  | feature_gtp_cell
  | feature_gtp_wifi
  | feature_sap
  | feature_odcpi
  | feature_free_wifi_scan_inject
  | feature_supl_wifi
  | feature_wifi_supplicant_info
  | auto_platform
deriving DecidableEq

namespace Field

/-- In the order of the structure. -/
def all : List Field :=
  [proc_name, proc_argument, proc_status, group_list, premium_feature, loc_feature_mask,
    platform_list, baseband, sglte_target, feature_gtp_cell_proc, feature_gtp_waa,
    feature_gtp_cell, feature_gtp_wifi, feature_sap, feature_odcpi,
    feature_free_wifi_scan_inject, feature_supl_wifi, feature_wifi_supplicant_info,
    auto_platform]

/-- The `unsigned int`s have four bytes, the rest are strings. -/
def size : Field → Nat
  | premium_feature | loc_feature_mask | sglte_target => 4
  | _ => LOC_MAX_PARAM_STRING

/-- No member needs padding. -/
def offset (f : Field) : Nat := ((all.takeWhile (· ≠ f)).map size).sum

theorem disjoint {f g : Field} (hne : f ≠ g) :
    f.offset + f.size ≤ g.offset ∨ g.offset + g.size ≤ f.offset := by
  revert hne
  cases f <;> cases g <;> decide

end Field

/-- The bytes from the start of the structure on. -/
abbrev Memory := Nat → UInt8

def write (conf : Memory) (pos : Nat) (data : Bytes) : Memory :=
  fun a => if pos ≤ a ∧ a < pos + data.length then data.getD (a - pos) 0 else conf a

/-- An `int` in four bytes, the lowest first. -/
def intBytes (v : Int) : Bytes :=
  let n := (v % 4294967296).toNat
  [n, n / 256, n / 65536, n / 16777216].map fun k => UInt8.ofNat (k % 256)

/-! ## The table -/

inductive ParamType where
  | s
  | n
deriving DecidableEq

def ParamType.char : ParamType → UInt8
  | .s => 115
  | .n => 110

/-- An entry; `param_set` is NULL in all of them. -/
structure ProcessParam where
  param_name : Bytes
  param_ptr : Field
  param_type : ParamType
deriving DecidableEq

def loc_process_conf_parameter_table : List ProcessParam :=
  [⟨bytesOf "PROCESS_NAME".toList, .proc_name, .s⟩,
    ⟨bytesOf "PROCESS_ARGUMENT".toList, .proc_argument, .s⟩,
    ⟨bytesOf "PROCESS_STATE".toList, .proc_status, .s⟩,
    ⟨bytesOf "PROCESS_GROUPS".toList, .group_list, .s⟩,
    ⟨bytesOf "PREMIUM_FEATURE".toList, .premium_feature, .n⟩,
    ⟨bytesOf "IZAT_FEATURE_MASK".toList, .loc_feature_mask, .n⟩,
    ⟨bytesOf "PLATFORMS".toList, .platform_list, .s⟩,
    ⟨bytesOf "BASEBAND".toList, .baseband, .s⟩,
    ⟨bytesOf "HARDWARE_TYPE".toList, .auto_platform, .s⟩]

/-- What is written for the value. -/
def ParamType.bytes (v : LocParamV F) : ParamType → Bytes
  | .s =>
    if v.param_str_value = bytesOf ['N', 'U', 'L', 'L'] then [0]
    else strlcpy v.param_str_value (LOC_MAX_PARAM_STRING + 1) ++ [0]
  | .n => intBytes v.param_int_value

def loc_set_config_entry (config_entry : ProcessParam) (config_value : LocParamV F)
    (conf : Memory) : Int × Memory :=
  if config_entry.param_name = config_value.param_name then
    (0, write conf config_entry.param_ptr.offset (config_entry.param_type.bytes config_value))
  else (-1, conf)

section Lines
variable [FloatText F]

/-- The entry and a line of a file. -/
def setLine (config_entry : ProcessParam) (line : Bytes) (conf : Memory) : Memory :=
  match (configValue line : Option (LocParamV F)) with
  | some v => (loc_set_config_entry config_entry v conf).2
  | none => conf

/-- The table and a line of a file. -/
def fillLine (line : Bytes) (conf : Memory) : Memory :=
  loc_process_conf_parameter_table.foldl (fun conf e => setLine (F := F) e line conf) conf

end Lines

/-! ## Values -/

/-- A value is a text without NUL. -/
theorem nul_not_mem_value [FloatText F] {line : Bytes} {v : LocParamV F}
    (hv : configValue line = some v) : 0 ∉ v.param_str_value := by
  obtain ⟨name, value, hsetting, rfl⟩ := configValue_eq_some_iff.mp hv
  rw [parsed_param_str_value]
  exact hsetting.nul_not_mem

/-! ## The frame of an entry -/

theorem write_of_lt {conf : Memory} {pos a : Nat} {data : Bytes} (h : a < pos) :
    write conf pos data a = conf a :=
  if_neg fun hh => Nat.not_le.mpr h hh.1

theorem write_of_le {conf : Memory} {pos a : Nat} {data : Bytes} (h : pos + data.length ≤ a) :
    write conf pos data a = conf a :=
  if_neg fun hh => Nat.not_lt.mpr h hh.2

theorem write_add {conf : Memory} {pos k : Nat} {data : Bytes} (h : k < data.length) :
    write conf pos data (pos + k) = data.getD k 0 := by
  rw [write, if_pos ⟨Nat.le_add_right _ _, Nat.add_lt_add_left h pos⟩, Nat.add_sub_cancel_left]

/-- The NUL stands behind the text. -/
theorem write_nul (conf : Memory) (pos : Nat) (text : Bytes) :
    write conf pos (text ++ [0]) (pos + text.length) = 0 := by
  rw [write_add (by simp)]
  simp

/-- Nothing outside of the entry's own field has changed. -/
def OwnFieldOnly (e : ProcessParam) (conf conf' : Memory) : Prop :=
  ∀ a, (a < e.param_ptr.offset ∨ e.param_ptr.offset + e.param_ptr.size ≤ a) → conf' a = conf a

theorem size_of_string {e : ProcessParam} (he : e ∈ loc_process_conf_parameter_table)
    (hs : e.param_type = .s) : e.param_ptr.size = LOC_MAX_PARAM_STRING := by
  have hall : ∀ e ∈ loc_process_conf_parameter_table, e.param_type = .s →
      e.param_ptr.size = LOC_MAX_PARAM_STRING := by decide
  exact hall e he hs

theorem size_of_number {e : ProcessParam} (he : e ∈ loc_process_conf_parameter_table)
    (hn : e.param_type = .n) : e.param_ptr.size = 4 := by
  have hall : ∀ e ∈ loc_process_conf_parameter_table, e.param_type = .n →
      e.param_ptr.size = 4 := by decide
  exact hall e he hn

/-- The text of a value that is shorter than the field, with its NUL. -/
theorem bytes_of_fits {v : LocParamV F} (hnul : 0 ∉ v.param_str_value)
    (hfits : v.param_str_value.length < LOC_MAX_PARAM_STRING) :
    ParamType.s.bytes v =
      (if v.param_str_value = bytesOf ['N', 'U', 'L', 'L'] then [] else v.param_str_value) ++
        [0] := by
  show (if _ then _ else _) = _
  split
  · rfl
  · rw [strlcpy, cstr_eq hnul, Nat.add_sub_cancel, List.take_of_length_le (Nat.le_of_lt hfits)]

/-- A longer value fills the field and has its NUL behind it. -/
theorem bytes_of_long {v : LocParamV F} (hnul : 0 ∉ v.param_str_value)
    (hlong : LOC_MAX_PARAM_STRING ≤ v.param_str_value.length) :
    ParamType.s.bytes v = v.param_str_value.take LOC_MAX_PARAM_STRING ++ [0] := by
  show (if _ then _ else _) = _
  rw [if_neg, strlcpy, cstr_eq hnul]
  · rfl
  · intro hnull
    rw [hnull] at hlong
    exact absurd hlong (by decide)

/-- The NUL of a longer value. -/
theorem write_long {v : LocParamV F} (hnul : 0 ∉ v.param_str_value)
    (hlong : LOC_MAX_PARAM_STRING ≤ v.param_str_value.length) (conf : Memory) (pos : Nat) :
    write conf pos (ParamType.s.bytes v) (pos + LOC_MAX_PARAM_STRING) = 0 := by
  have htext : (v.param_str_value.take LOC_MAX_PARAM_STRING).length = LOC_MAX_PARAM_STRING :=
    List.length_take_of_le hlong
  have hnul' := write_nul conf pos (v.param_str_value.take LOC_MAX_PARAM_STRING)
  rwa [← bytes_of_long hnul hlong, htext] at hnul'

/-- **The frame of a string parameter.** A line leaves everything outside of the parameter's
field as it is exactly if it does not give the parameter a value of `LOC_MAX_PARAM_STRING`
characters or more, or the byte behind the field is zero already. -/
theorem setLine_frame_iff [FloatText F] {e : ProcessParam}
    (he : e ∈ loc_process_conf_parameter_table) (hs : e.param_type = .s) (line : Bytes)
    (conf : Memory) :
    OwnFieldOnly e conf (setLine (F := F) e line conf) ↔
      ∀ v : LocParamV F, configValue line = some v → v.param_name = e.param_name →
        v.param_str_value.length < LOC_MAX_PARAM_STRING ∨
          conf (e.param_ptr.offset + e.param_ptr.size) = 0 := by
  have hsize := size_of_string he hs
  unfold setLine
  cases hv : (configValue line : Option (LocParamV F)) with
  | none => exact iff_of_true (fun _ _ => rfl) (fun _ h => by cases h)
  | some v =>
    have hnul := nul_not_mem_value hv
    show OwnFieldOnly e conf (loc_set_config_entry e v conf).2 ↔ _
    unfold loc_set_config_entry
    by_cases hname : e.param_name = v.param_name
    · rw [if_pos hname, hs]
      constructor
      · intro h w hw _
        rw [← Option.some.inj hw]
        refine or_iff_not_imp_left.mpr fun hlong => ?_
        have hbehind := h _ (Or.inr (Nat.le_refl _))
        have hnul' := write_long hnul (Nat.not_lt.mp hlong) conf e.param_ptr.offset
        rw [← hsize] at hnul'
        exact hbehind.symm.trans hnul'
      · intro h a ha
        rcases ha with hbefore | hbehind
        · exact write_of_lt hbefore
        · rw [hsize] at hbehind
          rcases Nat.lt_or_ge v.param_str_value.length LOC_MAX_PARAM_STRING with hfits | hlong
          · refine write_of_le (le_trans (Nat.add_le_add_left ?_ _) hbehind)
            rw [bytes_of_fits hnul hfits, List.length_append]
            split
            · exact Nat.succ_le_succ (Nat.zero_le _)
            · exact hfits
          · have hzero := (h v rfl hname.symm).resolve_left (Nat.not_lt.mpr hlong)
            rw [hsize] at hzero
            rcases Nat.lt_or_eq_of_le hbehind with hpast | hat
            · refine write_of_le ?_
              rw [bytes_of_long hnul hlong, List.length_append, List.length_take_of_le hlong]
              exact hpast
            · rw [← hat, hzero]
              exact write_long hnul hlong conf e.param_ptr.offset
    · rw [if_neg hname]
      exact iff_of_true (fun _ _ => rfl) fun w hw hh =>
        absurd (hh.symm.trans (by rw [Option.some.inj hw])) hname

theorem setLine_frame_iff_short :
    OwnFieldOnly ⟨bytesOf "BASEBAND".toList, .baseband, .s⟩ (fun _ => 7)
        (setLine (F := Int) ⟨bytesOf "BASEBAND".toList, .baseband, .s⟩
          (bytesOf "BASEBAND=all".toList) fun _ => 7) ↔
      ∀ v : LocParamV Int, configValue (bytesOf "BASEBAND=all".toList) = some v →
        v.param_name = bytesOf "BASEBAND".toList →
          v.param_str_value.length < LOC_MAX_PARAM_STRING ∨
            (7 : UInt8) = 0 :=
  setLine_frame_iff (by decide) rfl _ _

/-- A value of eighty characters in a line that is short enough clears the lowest byte of
`sglte_target`. -/
theorem baseband_clears_sglte_target :
    let e : ProcessParam := ⟨bytesOf "BASEBAND".toList, .baseband, .s⟩
    let line := bytesOf "BASEBAND=".toList ++ List.replicate 80 120
    let conf : Memory := fun a => if a = Field.sglte_target.offset then 1 else 0
    e ∈ loc_process_conf_parameter_table ∧ line.length < LOC_MAX_PARAM_LINE ∧
      conf Field.sglte_target.offset = 1 ∧
      setLine (F := Int) e line conf Field.sglte_target.offset = 0 ∧
      ¬ OwnFieldOnly e conf (setLine (F := Int) e line conf) := by
  intro e line conf
  have hcleared : setLine (F := Int) e line conf Field.sglte_target.offset = 0 := by
    decide +kernel
  refine ⟨by decide, by decide, rfl, hcleared, fun h => ?_⟩
  have hkept := h Field.sglte_target.offset (Or.inr (by decide))
  rw [hcleared] at hkept
  exact absurd hkept (by decide)

/-! ## A variable for each parameter -/

/-- The text that a field holds, if its NUL is in it. -/
def text (conf : Memory) (f : Field) : Bytes :=
  cstr ((List.range f.size).map fun k => conf (f.offset + k))

/-- The `int` that a field holds. -/
def number (conf : Memory) (f : Field) : Int :=
  let byte := fun k => (conf (f.offset + k)).toNat
  toInt32 ((byte 0 + 256 * byte 1 + 65536 * byte 2 + 16777216 * byte 3 : Nat) : Int)

/-- The entry with what its field holds. -/
def ProcessParam.entry (conf : Memory) (e : ProcessParam) : LocParamS F where
  param_name := e.param_name
  param_ptr := some (match e.param_type with
    | .s => .string (text conf e.param_ptr)
    | .n => .number (number conf e.param_ptr))
  param_set := none
  param_type := e.param_type.char

/-- The table as one of separate variables. -/
def asTable (conf : Memory) : List (LocParamS F) :=
  loc_process_conf_parameter_table.map (ProcessParam.entry conf)

/-- Every value of the line is shorter than a field. -/
def Fits [FloatText F] (line : Bytes) : Prop :=
  ∀ v : LocParamV F, configValue line = some v →
    v.param_str_value.length < LOC_MAX_PARAM_STRING

theorem text_write {conf : Memory} {f : Field} {value : Bytes} (hnul : 0 ∉ value)
    (hfits : value.length < f.size) : text (write conf f.offset (value ++ [0])) f = value := by
  have hfront : ((List.range f.size).map fun k =>
      write conf f.offset (value ++ [0]) (f.offset + k)).take (value.length + 1) =
        value ++ [0] := by
    refine List.ext_getElem (by simp; omega) fun k hk hk' => ?_
    rw [List.getElem_take, List.getElem_map, List.getElem_range, write_add hk',
      List.getD_eq_getElem?_getD, List.getElem?_eq_getElem hk', Option.getD_some]
  rw [text, ← List.take_append_drop (value.length + 1) (List.map _ _), hfront,
    List.append_assoc]
  exact cstr_append hnul _

theorem number_write {conf : Memory} {f : Field} {v : Int} :
    number (write conf f.offset (intBytes v)) f = toInt32 v := by
  have hbyte : ∀ k < 4, write conf f.offset (intBytes v) (f.offset + k) =
      (intBytes v).getD k 0 := fun k hk => write_add hk
  have hsmall : ∀ k, (UInt8.ofNat (k % 256)).toNat = k % 256 := fun k => by simp
  obtain ⟨n, hn⟩ : ∃ n, (v % 4294967296).toNat = n := ⟨_, rfl⟩
  have hsum : ((intBytes v).getD 0 0).toNat + 256 * ((intBytes v).getD 1 0).toNat +
      65536 * ((intBytes v).getD 2 0).toNat + 16777216 * ((intBytes v).getD 3 0).toNat = n := by
    simp only [intBytes, hn, List.map_cons, List.map_nil, List.getD_cons_zero,
      List.getD_cons_succ, hsmall]
    omega
  unfold number
  simp only [hbyte 0 (by omega), hbyte 1 (by omega), hbyte 2 (by omega), hbyte 3 (by omega), hsum]
  have hmod : (n : Int) = v % 4294967296 := by
    omega
  have h32 : ((2 ^ 32 : Nat) : Int) = 4294967296 := rfl
  rw [hmod, toInt32, ← h32, Int.emod_bmod, toInt32]

theorem toInt32_toInt32 (v : Int) : toInt32 (toInt32 v) = toInt32 v := Int.bmod_bmod

/-- Only an `int` comes out of a value. -/
theorem toInt32_value [FloatText F] {line : Bytes} {v : LocParamV F}
    (hv : configValue line = some v) : toInt32 v.param_int_value = v.param_int_value := by
  obtain ⟨name, value, -, rfl⟩ := configValue_eq_some_iff.mp hv
  unfold LocParamV.parsed
  split <;> exact toInt32_toInt32 _

theorem entry_congr {conf conf' : Memory} {e : ProcessParam}
    (he : e ∈ loc_process_conf_parameter_table)
    (h : ∀ k < e.param_ptr.size, conf' (e.param_ptr.offset + k) = conf (e.param_ptr.offset + k)) :
    (e.entry conf' : LocParamS F) = e.entry conf := by
  unfold ProcessParam.entry
  cases htype : e.param_type with
  | s =>
    have htext : text conf' e.param_ptr = text conf e.param_ptr := by
      rw [text, text, List.map_congr_left fun k hk => h k (List.mem_range.mp hk)]
    simp only [htext]
  | n =>
    rw [size_of_number he htype] at h
    have hnumber : number conf' e.param_ptr = number conf e.param_ptr := by
      simp only [number, h 0 (by omega), h 1 (by omega), h 2 (by omega), h 3 (by omega)]
    simp only [hnumber]

/-- What a fitting value does to the field of an entry. -/
theorem entry_set [FloatText F] {line : Bytes} {v : LocParamV F} (hv : configValue line = some v)
    (hfits : v.param_str_value.length < LOC_MAX_PARAM_STRING) {e : ProcessParam}
    (he : e ∈ loc_process_conf_parameter_table) (conf : Memory) :
    (e.entry (loc_set_config_entry e v conf).2 : LocParamS F) =
      (LocCfg.loc_set_config_entry (e.entry conf) v).2 := by
  have hnul := nul_not_mem_value hv
  rw [loc_set_config_entry_eq]
  unfold loc_set_config_entry
  by_cases hname : e.param_name = v.param_name
  · rw [if_pos hname]
    cases htype : e.param_type with
    | s =>
      have htext : text (write conf e.param_ptr.offset (ParamType.s.bytes v)) e.param_ptr =
          if v.param_str_value = bytesOf ['N', 'U', 'L', 'L'] then [] else v.param_str_value := by
        rw [bytes_of_fits hnul hfits]
        refine text_write ?_ ?_
        · split
          · exact List.not_mem_nil
          · exact hnul
        · rw [size_of_string he htype]
          split
          · exact Nat.succ_pos _
          · exact hfits
      have hvalue : v.converted 115 = some (.string (if v.param_str_value =
          bytesOf ['N', 'U', 'L', 'L'] then [] else v.param_str_value)) := by
        rw [LocParamV.converted, if_pos rfl, strlcpy, cstr_eq hnul, Nat.add_sub_cancel,
          List.take_of_length_le (Nat.le_of_lt hfits)]
        split <;> rfl
      rw [if_pos ⟨hname, by simp [LocParamS.settable, ProcessParam.entry, htype, ParamType.char]⟩]
      simp only [ProcessParam.entry, htype, ParamType.char, htext, hvalue, Option.map_none]
    | n =>
      have hvalue : v.converted 110 = some (.number v.param_int_value) := by
        rw [LocParamV.converted, if_neg (by decide), if_pos rfl]
      rw [if_pos ⟨hname, by simp [LocParamS.settable, ProcessParam.entry, htype, ParamType.char]⟩]
      simp only [ProcessParam.entry, htype, ParamType.char, ParamType.bytes, number_write,
        toInt32_value hv, hvalue, Option.map_none]
  · rw [if_neg hname, if_neg fun hh => hname hh.1]

/-- A fitting value stays in the field of its entry. -/
theorem frame_set [FloatText F] {line : Bytes} {v : LocParamV F} (hv : configValue line = some v)
    (hfits : v.param_str_value.length < LOC_MAX_PARAM_STRING) {e : ProcessParam}
    (he : e ∈ loc_process_conf_parameter_table) (conf : Memory) :
    OwnFieldOnly e conf (loc_set_config_entry e v conf).2 := by
  have hshort : (e.param_type.bytes v).length ≤ e.param_ptr.size := by
    cases htype : e.param_type with
    | s =>
      rw [bytes_of_fits (nul_not_mem_value hv) hfits, List.length_append, size_of_string he htype]
      split
      · exact Nat.succ_le_succ (Nat.zero_le _)
      · exact hfits
    | n =>
      rw [size_of_number he htype]
      exact Nat.le_refl 4
  unfold loc_set_config_entry
  split
  · rintro a (hbefore | hbehind)
    · exact write_of_lt hbefore
    · exact write_of_le (le_trans (Nat.add_le_add_left hshort _) hbehind)
  · exact fun _ _ => rfl

/-- The entry of another field keeps what it holds. -/
theorem OwnFieldOnly.entry_eq {conf conf' : Memory} {e other : ProcessParam}
    (h : OwnFieldOnly e conf conf') (hother : other ∈ loc_process_conf_parameter_table)
    (hne : other.param_ptr ≠ e.param_ptr) :
    (other.entry conf' : LocParamS F) = other.entry conf := by
  refine entry_congr hother fun k hk => h _ ?_
  rcases Field.disjoint hne with hbefore | hbehind
  · exact Or.inl (by omega)
  · exact Or.inr (by omega)

theorem param_ptr_injective {e other : ProcessParam}
    (he : e ∈ loc_process_conf_parameter_table) (hother : other ∈ loc_process_conf_parameter_table)
    (hptr : other.param_ptr = e.param_ptr) : other = e := by
  have hnodup : (loc_process_conf_parameter_table.map (·.param_ptr)).Nodup := by decide
  exact List.inj_on_of_nodup_map hnodup hother he hptr

/-- The entries of the table one after the other: each sets its own field and no other. -/
theorem entry_foldl [FloatText F] {line : Bytes} {v : LocParamV F}
    (hv : configValue line = some v) (hfits : v.param_str_value.length < LOC_MAX_PARAM_STRING)
    {entries : List ProcessParam} (hentries : ∀ e ∈ entries, e ∈ loc_process_conf_parameter_table)
    (hnodup : entries.Nodup) {other : ProcessParam}
    (hother : other ∈ loc_process_conf_parameter_table) (conf : Memory) :
    (other.entry (entries.foldl (fun conf e => (loc_set_config_entry e v conf).2) conf) :
        LocParamS F) =
      if other ∈ entries then (LocCfg.loc_set_config_entry (other.entry conf) v).2
      else other.entry conf := by
  induction entries generalizing conf with
  | nil => rfl
  | cons e entries ih =>
    obtain ⟨hnew, hnodup⟩ := List.nodup_cons.mp hnodup
    have he := hentries e (List.mem_cons_self ..)
    rw [List.foldl_cons, ih (fun e he => hentries e (List.mem_cons_of_mem _ he)) hnodup]
    by_cases hsame : other = e
    · rw [hsame, if_neg hnew, if_pos (List.mem_cons_self ..), entry_set hv hfits he]
    · rw [(frame_set hv hfits he conf).entry_eq hother
        fun hptr => hsame (param_ptr_injective he hother hptr)]
      simp only [List.mem_cons, hsame, false_or]

/-- **One structure or many variables.** With values that fit, a line does the same to the
fields as to a table of separate variables. -/
theorem fillLine_refines [FloatText F] {line : Bytes} (hfits : Fits (F := F) line)
    (conf : Memory) :
    asTable (fillLine (F := F) line conf) =
      (loc_fill_conf_item line (asTable conf : List (LocParamS F))).2 := by
  unfold fillLine setLine loc_fill_conf_item
  cases hv : (configValue line : Option (LocParamV F)) with
  | none =>
    rw [List.foldl_fixed]
  | some v =>
    simp only [asTable, List.map_map]
    refine List.map_congr_left fun e he => ?_
    rw [entry_foldl hv (hfits v hv) (fun _ h => h) (by decide) he, if_pos he]
    rfl

end DeviceHal.Utils.LauncherConf
